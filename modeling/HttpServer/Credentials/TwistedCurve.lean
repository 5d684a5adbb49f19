import HttpServer.Credentials.Digest
import HttpServer.Credentials.Residue

/-!
# The twisted curve

The points of the curve `y² - x² = 1 + d x² y²` over the remainders of the prime `2²⁵⁵ - 19` can be
added by one formula that knows no exceptions. A private key is a seed, whose digest gives the
number of copies of a base point that its public key is.
-/

namespace HttpServer.TwistedCurve

def prime : Nat := 1 <<< 255 - 19

def coefficient : Nat :=
  Residue.difference prime 0 (121665 * Residue.inverse prime 121666)

structure Point where
  x : Nat
  y : Nat
deriving DecidableEq, Repr

/-- The point that adds nothing. -/
def neutral : Point := ⟨0, 1⟩

def base : Point where
  x := 0x216936D3CD6E53FEC0A4E231FDD6DC5C692CC7609525A7B2C9562D608F25D51A
  y := 4 * Residue.inverse prime 5 % prime

/-- The sum of two points. Both coordinates are quotients, with divisors that differ only in the
sign of one term, so one inverse serves both. -/
def add (left right : Point) : Point :=
  let across := left.x * right.y + left.y * right.x
  let along := left.y * right.y + left.x * right.x
  let term := coefficient * left.x % prime * right.x % prime * left.y % prime * right.y % prime
  let inverse := Residue.inverse prime (Residue.difference prime 1 (term * term))
  { x := across * Residue.difference prime 1 term % prime * inverse % prime
    y := along * (1 + term) % prime * inverse % prime }

def seedSize : Nat := 32

/-- The number that a seed stands for: half of its digest, latest octet first, with the three lowest
bits cleared and the two highest settled. -/
def scalar (seed : Bytes) : Nat :=
  let half := Element.number ((Digest.digest seed).take seedSize).reverse
  half % (1 <<< 254) / 8 * 8 + 1 <<< 254

/-- The written form of a point: the second coordinate, latest octet first, with the lowest bit of
the first coordinate in the highest place. -/
def encodePoint (point : Point) : Bytes :=
  (Element.digits seedSize (point.y + (point.x % 2) <<< 255)).reverse

/-- The public key of a seed. -/
def publicKey? (seed : Bytes) : Option Bytes :=
  if seed.length = seedSize then
    some (encodePoint (Residue.multiple add neutral base (Residue.bitsOf 255 (scalar seed))))
  else none

end HttpServer.TwistedCurve
