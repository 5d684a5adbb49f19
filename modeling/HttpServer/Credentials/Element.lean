import HttpServer.Bytes

/-!
# Nested elements

Certificates and keys are stored as elements, each with a tag, a length and a content, and the
content of some is a run of elements again. Every element has one written form: the length takes as
few octets as it can.
-/

namespace HttpServer.Element

/-! ## Tags -/

def truth : UInt8 := 0x01
def integer : UInt8 := 0x02
def bits : UInt8 := 0x03
def octets : UInt8 := 0x04
def nothing : UInt8 := 0x05
def objectName : UInt8 := 0x06
def sequence : UInt8 := 0x30

def plainPart (number : UInt8) : UInt8 := 0x80 + number

def part (number : UInt8) : UInt8 := 0xA0 + number

/-! ## Numbers -/

/-- The number whose digits, each worth 256 times the next, are the octets. -/
def number (digits : Bytes) : Nat := digits.foldl (fun value byte => value * 256 + byte.toNat) 0

def digits : (count : Nat) → (number : Nat) → Bytes
  | 0, _ => []
  | count + 1, number => digits count (number / 256) ++ [number.toUInt8]

/-- The least count of digits that holds a number. -/
def size (number : Nat) : Nat := if number = 0 then 0 else Nat.log2 number / 8 + 1

/-! ## Writing -/

/-- The octets of an element. A length below 128 stands alone, a greater one after the count of its
own octets. -/
def encode (tag : UInt8) (content : Bytes) : Bytes :=
  let length := content.length
  if length < 0x80 then tag :: length.toUInt8 :: content
  else tag :: (0x80 + (size length).toUInt8) :: digits (size length) length ++ content

def encodeSequence (elements : List Bytes) : Bytes := encode sequence elements.flatten

def encodeBits (content : Bytes) : Bytes := encode bits (0 :: content)

/-- The octets of a number. One whose first digit would look like a sign gets a zero before it. -/
def encodeNumber (value : Nat) : Bytes :=
  encode integer (digits (Nat.log2 value / 8 + if Nat.log2 value % 8 = 7 then 2 else 1) value)

/-! ## Reading -/

/-- The length of a content at the front of a run, and what follows it. It takes at most two octets
besides their count, and no more than it needs. -/
def length? : Bytes → Option (Nat × Bytes)
  | [] => none
  | first :: rest =>
    if first < 0x80 then some (first.toNat, rest)
    else
      let count := first.toNat - 0x80
      let length := number (rest.take count)
      if count ≤ 2 ∧ count ≤ rest.length ∧ 0x80 ≤ length ∧ size length = count then
        some (length, rest.drop count)
      else none

/-- The content of an element with a given tag at the front of a run, and what follows it. -/
def expect (tag : UInt8) (bytes : Bytes) : Option (Bytes × Bytes) :=
  match bytes with
  | [] => none
  | found :: rest => do
    let (length, rest) ← length? rest
    if found = tag ∧ length ≤ rest.length then some (rest.take length, rest.drop length) else none

def whole (tag : UInt8) (bytes : Bytes) : Option Bytes := do
  let (content, rest) ← expect tag bytes
  if rest.isEmpty then some content else none

/-- The content of an element with a given tag, when the run begins with that tag, and what follows
it. -/
def optional (tag : UInt8) (bytes : Bytes) : Option (Option Bytes × Bytes) :=
  if bytes.head? = some tag then (expect tag bytes).map fun (content, rest) => (some content, rest)
  else some (none, bytes)

/-- The octets of a string of bits, when the bits fill whole octets. -/
def wholeOctets? : Bytes → Option Bytes
  | 0 :: content => some content
  | _ => none

/-- A number that is not negative, at the front of a run, and what follows it. -/
def number? (bytes : Bytes) : Option (Nat × Bytes) := do
  let (content, rest) ← expect integer bytes
  let isLeast : Bool :=
    match content with
    | [] => false
    | first :: others => first < 0x80 && (first != 0 || others.head?.all (0x80 ≤ ·))
  if isLeast then some (number content, rest) else none

end HttpServer.Element
