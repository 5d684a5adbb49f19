import HttpServer.Bytes

/-!
# Written numbers

Decimal numbers as configuration, command line and framing fields write them: an optional sign and
at least one digit, within the bounds of the quantity they stand for. Reading goes digit by digit
and stops at the first one that cannot be accepted, so `65536x` is too large where `6553x` has a
wrong digit. Hexadecimal digits are those of chunk sizes, in either letter case.
-/

namespace HttpServer.Numeral

inductive Error where
  | empty
  | invalidDigit
  | tooLarge
  | tooSmall
deriving DecidableEq, Repr

def Error.message : Error → String
  | .empty => "cannot parse integer from empty string"
  | .invalidDigit => "invalid digit found in string"
  | .tooLarge => "number too large to fit in target type"
  | .tooSmall => "number too small to fit in target type"

def plus : UInt8 := 0x2B
def minus : UInt8 := 0x2D

def digitValue (byte : UInt8) : Nat := byte.toNat - 0x30

def digit (value : Nat) : UInt8 := (0x30 + value).toUInt8

/-! ## Reading -/

/-- Appends decimal digits to a value that may not pass `limit`; `excess` names the passing. -/
def appendDigits (limit : Nat) (excess : Error) (value : Nat) : Bytes → Except Error Nat
  | [] => .ok value
  | byte :: rest =>
    if Bytes.isDigit byte then
      if value * 10 + digitValue byte ≤ limit then
        appendDigits limit excess (value * 10 + digitValue byte) rest
      else .error excess
    else .error .invalidDigit

/-- Reads an unsigned number of at most `limit`. A plus sign may stand before the digits. -/
def readNatural (limit : Nat) (text : Bytes) : Except Error Nat :=
  match text with
  | [] => .error .empty
  | first :: rest =>
    if first == plus && !rest.isEmpty then appendDigits limit .tooLarge 0 rest
    else appendDigits limit .tooLarge 0 text

/-- Reads a signed number from `-lowest` to `highest`. -/
def readInteger (lowest highest : Nat) (text : Bytes) : Except Error Int :=
  match text with
  | [] => .error .empty
  | first :: rest =>
    if first == minus && !rest.isEmpty then
      (appendDigits lowest .tooSmall 0 rest).map fun magnitude => -(magnitude : Int)
    else
      (readNatural highest text).map Int.ofNat

/-! ## Writing -/

/-- The decimal digits of a number, without leading zeros. -/
def decimal (number : Nat) : Bytes :=
  if number < 10 then [digit number]
  else decimal (number / 10) ++ [digit (number % 10)]

/-! ## Hexadecimal digits -/

def isHexDigit (byte : UInt8) : Bool :=
  Bytes.isDigit byte || (0x61 ≤ byte && byte ≤ 0x66) || (0x41 ≤ byte && byte ≤ 0x46)

def hexDigitValue (byte : UInt8) : Nat :=
  if Bytes.isDigit byte then byte.toNat - 0x30
  else if 0x61 ≤ byte then byte.toNat - 0x61 + 10
  else byte.toNat - 0x41 + 10

/-- The value of a run of hexadecimal digits, the most significant first. -/
def hexValue (digits : Bytes) : Nat :=
  digits.foldl (fun value byte => value * 16 + hexDigitValue byte) 0

/-- The hexadecimal digits of a number, in small letters, without leading zeros. -/
def hexadecimal (number : Nat) : Bytes :=
  if number < 16 then [hexDigit number]
  else hexadecimal (number / 16) ++ [hexDigit (number % 16)]
where
  /-- The hexadecimal digit of a value below sixteen. -/
  hexDigit (value : Nat) : UInt8 :=
    if value < 10 then digit value else (0x57 + value).toUInt8

end HttpServer.Numeral
