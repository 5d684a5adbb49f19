import HttpServer.Credentials.Element
import HttpServer.Credentials.Residue

/-!
# Keys made of two primes

The public key is the product of two primes, called the modulus, and an exponent. The private key
has both primes and what speeds up its use. A private key is of use if its numbers are of the right
sizes and fit each other; whether the primes are prime is not tested.
-/

namespace HttpServer

structure RsaKey where
  modulus : Nat
  exponent : Nat
  privateExponent : Nat
  firstPrime : Nat
  secondPrime : Nat
  /-- The private exponent for the first prime. -/
  firstExponent : Nat
  secondExponent : Nat
  /-- The inverse of the second prime for the first. -/
  coefficient : Nat
deriving DecidableEq, Repr

namespace RsaKey

def ofBytes? (bytes : Bytes) : Option RsaKey := do
  let (version, rest) ← Element.number? (← Element.whole Element.sequence bytes)
  let (modulus, rest) ← Element.number? rest
  let (exponent, rest) ← Element.number? rest
  let (privateExponent, rest) ← Element.number? rest
  let (firstPrime, rest) ← Element.number? rest
  let (secondPrime, rest) ← Element.number? rest
  let (firstExponent, rest) ← Element.number? rest
  let (secondExponent, rest) ← Element.number? rest
  let (coefficient, rest) ← Element.number? rest
  if version = 0 ∧ rest = [] then
    some { modulus, exponent, privateExponent, firstPrime, secondPrime, firstExponent,
           secondExponent, coefficient }
  else none

/-- Whether the public part is of use: a modulus of 256 to 512 octets, and an exponent from 65537 up
to 33 bits, both odd. -/
def isPublicPartSound (key : RsaKey) : Bool :=
  key.modulus % 2 == 1 && 256 ≤ Element.size key.modulus && Residue.bitCount key.modulus ≤ 4096
    && key.exponent % 2 == 1 && 65537 ≤ key.exponent && Residue.bitCount key.exponent ≤ 33

/-- The bits of half a modulus. -/
def halfBits (key : RsaKey) : Nat := (Residue.bitCount key.modulus + 1) / 2

/-- Whether a prime with its exponent is of use. Primes have half the bits of the modulus, and a
count of them that is divided by 512. -/
def isPrimeSound (key : RsaKey) (prime exponent : Nat) : Bool :=
  prime % 2 == 1 && Residue.bitCount prime == key.halfBits && key.halfBits % 512 == 0
    && exponent % 2 == 1 && exponent < prime

def isSound (key : RsaKey) : Bool :=
  key.isPublicPartSound
    && key.isPrimeSound key.firstPrime key.firstExponent
    && key.isPrimeSound key.secondPrime key.secondExponent
    && key.firstPrime * key.secondPrime % key.modulus == 0
    && key.privateExponent % 2 == 1 && key.privateExponent < key.modulus
    && key.halfBits < Residue.bitCount key.privateExponent
    && key.coefficient < key.firstPrime
    && key.coefficient * key.secondPrime % key.firstPrime == 1

def publicKey (key : RsaKey) : Bytes :=
  Element.encodeSequence [Element.encodeNumber key.modulus, Element.encodeNumber key.exponent]

end RsaKey

end HttpServer
