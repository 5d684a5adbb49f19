import HttpServer.Credentials.Element

/-!
# The digest of 512 bits

A digest sums up a run of octets in 64 octets. The run is filled up to whole blocks of 128 octets,
and every block stirs eight words of 64 bits in 80 rounds. The words to begin with, and one more for
every round, are the first 64 bits after the point of roots of small primes.
-/

namespace HttpServer.Digest

/-! ## Constants -/

def primes (count : Nat) : List Nat :=
  ((List.range 410).filter fun number =>
    2 ≤ number && (List.range number).all fun divisor => divisor < 2 || number % divisor != 0).take
    count

/-- The greatest number below the double of a power of two whose own power is not above a target;
the exponent of the power of two is given. -/
def root (degree target : Nat) : (exponent : Nat) → (found : Nat) → Nat
  | 0, found => if Nat.pow (found + 1) degree ≤ target then found + 1 else found
  | exponent + 1, found =>
    let next := found + 1 <<< (exponent + 1)
    root degree target exponent (if Nat.pow next degree ≤ target then next else found)

/-- The first 64 bits after the point of a root of a prime. -/
def fraction (degree prime : Nat) : UInt64 :=
  (root degree (prime <<< (64 * degree)) 70 0).toUInt64

def roundConstants : List UInt64 := (primes 80).map (fraction 3)

/-! ## Blocks -/

def blockSize : Nat := 128

/-- The run with what fills it up: a set bit, zeros, and the count of its bits in 16 octets. -/
def fill (message : Bytes) : Bytes :=
  let zeros := (2 * blockSize - 1 - (message.length + 16) % blockSize) % blockSize
  message ++ 0x80 :: List.replicate zeros 0 ++ Element.digits 16 (8 * message.length)

/-- Parts of equal size, none of them empty; the last may be shorter. -/
def parts (size : Nat) (bytes : Bytes) : List Bytes :=
  if bytes.isEmpty ∨ size = 0 then [] else bytes.take size :: parts size (bytes.drop size)
termination_by bytes.length
decreasing_by
  have nonempty : bytes ≠ [] := by rintro rfl; simp at *
  have := List.length_pos_iff.2 nonempty
  simp only [List.length_drop]
  omega

/-! ## Rounds -/

/-- A word whose bits have moved to lower places, around the end. -/
def rotate (word : UInt64) (places : UInt64) : UInt64 :=
  word >>> places ||| word <<< (64 - places)

/-- A word that takes the place of those before it. The latest 16 words are given, latest first. -/
def nextWord (words : List UInt64) : UInt64 :=
  let second := words.getD 1 0
  let fifteenth := words.getD 14 0
  (rotate second 19 ^^^ rotate second 61 ^^^ second >>> 6) + words.getD 6 0
    + (rotate fifteenth 1 ^^^ rotate fifteenth 8 ^^^ fifteenth >>> 7) + words.getD 15 0

/-- As many further words as are asked for, after those that are given latest first. -/
def extend : (count : Nat) → List UInt64 → List UInt64
  | 0, words => words.reverse
  | count + 1, words => extend count (nextWord words :: words)

def schedule (block : Bytes) : List UInt64 :=
  extend 64 ((parts 8 block).map fun part => (Element.number part).toUInt64).reverse

structure Registers where
  a : UInt64
  b : UInt64
  c : UInt64
  d : UInt64
  e : UInt64
  f : UInt64
  g : UInt64
  h : UInt64

namespace Registers

def toList (words : Registers) : List UInt64 :=
  [words.a, words.b, words.c, words.d, words.e, words.f, words.g, words.h]

/-- The words to begin with, from square roots. -/
def initial : Registers where
  a := fraction 2 2
  b := fraction 2 3
  c := fraction 2 5
  d := fraction 2 7
  e := fraction 2 11
  f := fraction 2 13
  g := fraction 2 17
  h := fraction 2 19

def stir (words : Registers) (constant word : UInt64) : Registers :=
  let choice := words.e &&& words.f ^^^ ~~~words.e &&& words.g
  let majority := words.a &&& words.b ^^^ words.a &&& words.c ^^^ words.b &&& words.c
  let lower := rotate words.e 14 ^^^ rotate words.e 18 ^^^ rotate words.e 41
  let upper := rotate words.a 28 ^^^ rotate words.a 34 ^^^ rotate words.a 39
  let added := words.h + lower + choice + constant + word
  { a := added + (upper + majority), b := words.a, c := words.b, d := words.c
    e := words.d + added, f := words.e, g := words.f, h := words.g }

def absorb (words : Registers) (block : Bytes) : Registers :=
  let stirred := (roundConstants.zip (schedule block)).foldl
    (fun words (constant, word) => words.stir constant word) words
  { a := words.a + stirred.a, b := words.b + stirred.b, c := words.c + stirred.c
    d := words.d + stirred.d, e := words.e + stirred.e, f := words.f + stirred.f
    g := words.g + stirred.g, h := words.h + stirred.h }

end Registers

def digest (message : Bytes) : Bytes :=
  let words := (parts blockSize (fill message)).foldl Registers.absorb .initial
  words.toList.flatMap fun word => Element.digits 8 word.toNat

end HttpServer.Digest
