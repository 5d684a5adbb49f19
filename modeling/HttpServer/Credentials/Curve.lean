import HttpServer.Credentials.Element
import HttpServer.Credentials.Residue

/-!
# Elliptic curves

The points of a curve `y² = x³ - 3x + b` over the remainders of a prime, together with one point at
infinity, can be added. A private key is a number, and its public key the sum of that many copies of
a base point. Two curves are known.
-/

namespace HttpServer

structure Curve where
  /-- What follows the tag and the length in the name of the curve. -/
  name : Bytes
  /-- How many octets a coordinate takes. -/
  size : Nat
  prime : Nat
  /-- How many copies of the base point sum up to the point at infinity. -/
  order : Nat
  baseX : Nat
  baseY : Nat

namespace Curve

inductive Point where
  | infinity
  | at (x y : Nat)
deriving DecidableEq, Repr

def short : Curve where
  name := [0x2A, 0x86, 0x48, 0xCE, 0x3D, 0x03, 0x01, 0x07]
  size := 32
  prime := 0xFFFFFFFF00000001000000000000000000000000FFFFFFFFFFFFFFFFFFFFFFFF
  order := 0xFFFFFFFF00000000FFFFFFFFFFFFFFFFBCE6FAADA7179E84F3B9CAC2FC632551
  baseX := 0x6B17D1F2E12C4247F8BCE6E563A440F277037D812DEB33A0F4A13945D898C296
  baseY := 0x4FE342E2FE1A7F9B8EE7EB4A7C0F9E162BCE33576B315ECECBB6406837BF51F5

def long : Curve where
  name := [0x2B, 0x81, 0x04, 0x00, 0x22]
  size := 48
  prime := 0xFFFFFFFFFFFFFFFFFFFFFFFFFFFFFFFFFFFFFFFFFFFFFFFFFFFFFFFFFFFFFFFEFFFFFFFF0000000000000000FFFFFFFF
  order := 0xFFFFFFFFFFFFFFFFFFFFFFFFFFFFFFFFFFFFFFFFFFFFFFFFC7634D81F4372DDF581A0DB248B0A77AECEC196ACCC52973
  baseX := 0xAA87CA22BE8B05378EB1C71EF320AD746E1D3B628BA79B9859F741E082542A385502F25DBF55296C3A545E3872760AB7
  baseY := 0x3617DE4A96262C6F5D9E98BF9292DC29F8F41DBD289A147CE9DA3113B5F0B8C00A60B1CE1D7E819D7A431D7C90EA0E5F

def all : List Curve := [short, long]

variable (curve : Curve)

/-- The third point of the line with a slope through two points, mirrored. -/
def third (slope leftX leftY rightX : Nat) : Point :=
  let x := Residue.difference curve.prime (slope * slope) (leftX + rightX)
  .at x (Residue.difference curve.prime (slope * Residue.difference curve.prime leftX x) leftY)

/-- The sum of two points. Their line is the tangent if they are one point, and a vertical line
meets the curve at infinity. -/
def add : Point → Point → Point
  | .infinity, right => right
  | left, .infinity => left
  | .at leftX leftY, .at rightX rightY =>
    if leftX = rightX then
      if (leftY + rightY) % curve.prime = 0 then .infinity
      else
        let rise := Residue.difference curve.prime (3 * leftX * leftX) 3
        let slope := rise * Residue.inverse curve.prime (2 * leftY) % curve.prime
        curve.third slope leftX leftY rightX
    else
      let rise := Residue.difference curve.prime rightY leftY
      let run := Residue.difference curve.prime rightX leftX
      curve.third (rise * Residue.inverse curve.prime run % curve.prime) leftX leftY rightX

def multipleOfBase (number : Nat) : Point :=
  Residue.multiple curve.add .infinity (.at curve.baseX curve.baseY)
    (Residue.bitsOf (8 * curve.size) number)

/-- The written form of a point, which for the one at infinity is empty: a mark, and both
coordinates. -/
def encodePoint : Point → Bytes
  | .infinity => []
  | .at x y => 0x04 :: Element.digits curve.size x ++ Element.digits curve.size y

/-- The public key of a private key that is stored in as many octets as a coordinate. Zero is no
private key, and neither is anything from the order on. -/
def publicKey? (secret : Bytes) : Option Bytes :=
  let number := Element.number secret
  if secret.length = curve.size ∧ 0 < number ∧ number < curve.order then
    some (curve.encodePoint (curve.multipleOfBase number))
  else none

end Curve

end HttpServer
