import HttpServer.Bytes

/-!
# Octets written as base64

Four characters of a 64-letter alphabet stand for three octets. Blanks and line endings may stand
anywhere. The last group may be short, as it is or filled up to four with equals signs.
-/

namespace HttpServer.Base64

inductive Error where
  /-- A character outside the alphabet. -/
  | character (byte : UInt8)
  /-- A group before the last is not full. -/
  | earlyFiller
  /-- The last group cannot be what it is. -/
  | ending
deriving DecidableEq, Repr

def Error.message : Error → String
  | .character byte => "InvalidCharacter(" ++ toString byte.toNat ++ ")"
  | .earlyFiller => "PrematurePadding"
  | .ending => "InvalidTrailingPadding"

def value? (byte : UInt8) : Option Nat :=
  if Bytes.isUpper byte then some (byte.toNat - 0x41)
  else if Bytes.isLower byte then some (byte.toNat - 0x61 + 26)
  else if Bytes.isDigit byte then some (byte.toNat - 0x30 + 52)
  else if byte == 0x2B then some 62
  else if byte == 0x2F then some 63
  else none

/-- The equals sign, which fills the last group. -/
def filler : UInt8 := 0x3D

/-- The octets of a list of six-bit values. Bits that make up no whole octet are dropped. -/
def join : List Nat → Bytes
  | first :: second :: third :: fourth :: rest =>
    let word := ((first * 64 + second) * 64 + third) * 64 + fourth
    (word / 65536).toUInt8 :: (word / 256).toUInt8 :: word.toUInt8 :: join rest
  | [first, second, third] =>
    let word := (first * 64 + second) * 64 + third
    [(word / 1024).toUInt8, (word / 4).toUInt8]
  | [first, second] => [((first * 64 + second) / 16).toUInt8]
  | _ => []

/-- Whether an octet may stand anywhere without meaning anything: the blanks and line endings. -/
def isIgnored (byte : UInt8) : Bool := byte == Bytes.space || (0x09 ≤ byte && byte ≤ 0x0D)

/-- Whether a count of characters may be followed by a count of equals signs. A group of one stands
for nothing, and equals signs fill a group up. -/
def isWhole (characters fillers : Nat) : Bool :=
  characters % 4 != 1 && (fillers == 0 || (fillers ≤ 2 && (characters + fillers) % 4 == 0))

def decode (text : Bytes) : Except Error Bytes :=
  let written := text.filter fun byte => !isIgnored byte
  let characters := written.takeWhile (· != filler)
  let others := written.dropWhile (· != filler)
  match written.find? fun byte => byte != filler && (value? byte).isNone with
  | some byte => .error (.character byte)
  | none =>
    if others.all (· == filler) && isWhole characters.length others.length then
      .ok (join (characters.filterMap value?))
    else if !others.isEmpty && characters.length / 4 < (written.length - 1) / 4 then
      .error .earlyFiller
    else .error .ending

end HttpServer.Base64
