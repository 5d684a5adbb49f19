import HttpServer.Config.Document
import HttpServer.Config.Toml.Text

/-!
# Numbers, dates and flags of TOML

Integers fit a signed machine word and are decimal, or unsigned in another base. A number with a
fraction or an exponent may not be so large that it stands for infinity, though its negative may.
Underscores may stand between digits. Dates and times have to exist.
-/

namespace HttpServer.Toml

/-! ## Digits -/

/-- The digits at the front of a text, without the underscores between them. -/
def digitRun (accepts : Char → Bool) : List Char → List Char × List Char
  | [] => ([], [])
  | first :: rest =>
    if accepts first then
      let (others, rest) := digitRun accepts rest
      (first :: others, rest)
    else if first == '_' && rest.head?.any accepts then digitRun accepts rest
    else ([], first :: rest)

def digits? (accepts : Char → Bool) (text : List Char) : Option (List Char × List Char) :=
  if text.head?.any accepts then some (digitRun accepts text) else none

def valueOf (base : Nat) (digits : List Char) : Nat :=
  digits.foldl (fun value digit => value * base + (hexDigit? digit).getD 0) 0

/-- Decimal digits of which the first is no zero, unless it is the only one. -/
def wholePart (text : List Char) : Option (List Char × List Char) :=
  match text with
  | '0' :: rest => some (['0'], rest)
  | _ => digits? Char.isDigit text

/-! ## Integers -/

/-- An integer that fits a signed machine word. -/
def wordInteger? (value : Int) : Option Document :=
  if Int64.minValue.toInt ≤ value ∧ value ≤ Int64.maxValue.toInt then some (.integer value)
  else none

def isDigitBelow (base : Nat) (character : Char) : Bool :=
  (hexDigit? character).any (· < base)

def basedInteger (base : Nat) (text : List Char) : Option (Document × List Char) := do
  let (digits, rest) ← digits? (isDigitBelow base) text
  some (← wordInteger? (valueOf base digits), rest)

/-! ## Numbers with a fraction or an exponent -/

/-- The least number that is too large for the binary format: half way from its greatest number
to the next power of two. -/
def infinityBound : Nat := 1 <<< 1024 - 1 <<< 970

/-- Whether a number given by digits and a power of ten reaches the bound. -/
def reachesInfinity (digits : List Char) (exponent : Int) : Bool :=
  let significant := digits.dropWhile (· == '0')
  let places : Int := significant.length + exponent
  if significant.isEmpty || places < 300 then false
  else if 310 < places then true
  else if 0 ≤ exponent then infinityBound ≤ valueOf 10 significant * Nat.pow 10 exponent.toNat
  else infinityBound * Nat.pow 10 (-exponent).toNat ≤ valueOf 10 significant

/-- The digits of a fraction, after the whole part; there may be none. -/
def fraction (text : List Char) : Option (List Char × List Char) :=
  match text with
  | '.' :: rest => digits? Char.isDigit rest
  | _ => some ([], text)

def exponent (text : List Char) : Option (Option Int × List Char) :=
  match text with
  | first :: rest =>
    if first == 'e' || first == 'E' then
      match rest with
      | '-' :: rest =>
        (digits? Char.isDigit rest).map fun (digits, rest) =>
          (some (-(valueOf 10 digits : Int)), rest)
      | '+' :: rest =>
        (digits? Char.isDigit rest).map fun (digits, rest) => (some (valueOf 10 digits), rest)
      | _ =>
        (digits? Char.isDigit rest).map fun (digits, rest) => (some (valueOf 10 digits), rest)
    else some (none, text)
  | [] => some (none, text)

def decimal (negative : Bool) (text : List Char) : Option (Document × List Char) := do
  let (whole, rest) ← wholePart text
  let (places, rest) ← fraction rest
  let (power, rest) ← exponent rest
  if places.isEmpty && power.isNone then
    let magnitude : Int := valueOf 10 whole
    some (← wordInteger? (if negative then -magnitude else magnitude), rest)
  else if !negative && reachesInfinity (whole ++ places) (power.getD 0 - places.length) then none
  else some (.real, rest)

def afterWord? (word : String) (text : List Char) : Option (List Char) :=
  if word.toList.isPrefixOf text then some (text.drop word.length) else none

/-- A number after its sign: infinity, an undefined number, or a decimal one. -/
def signedNumber (negative : Bool) (text : List Char) : Option (Document × List Char) :=
  match afterWord? "inf" text, afterWord? "nan" text with
  | some rest, _ | none, some rest => some (.real, rest)
  | none, none => decimal negative text

def number : List Char → Option (Document × List Char)
  | '0' :: 'x' :: rest => basedInteger 16 rest
  | '0' :: 'o' :: rest => basedInteger 8 rest
  | '0' :: 'b' :: rest => basedInteger 2 rest
  | '-' :: rest => signedNumber true rest
  | '+' :: rest => signedNumber false rest
  | text => signedNumber false text

/-! ## Dates and times -/

/-- A number of exactly `count` digits between two bounds. -/
def fixedDigits (count least most : Nat) (text : List Char) : Option (Nat × List Char) :=
  let digits := text.take count
  let value := valueOf 10 digits
  if digits.length = count ∧ digits.all Char.isDigit ∧ least ≤ value ∧ value ≤ most then
    some (value, text.drop count)
  else none

def after? (expected : Char) : List Char → Option (List Char)
  | first :: rest => if first = expected then some rest else none
  | [] => none

def daysOf (year month : Nat) : Nat :=
  if month = 2 then
    if year % 4 = 0 ∧ (year % 100 ≠ 0 ∨ year % 400 = 0) then 29 else 28
  else if month = 4 ∨ month = 6 ∨ month = 9 ∨ month = 11 then 30
  else 31

def date? (text : List Char) : Option (List Char) := do
  let (year, rest) ← fixedDigits 4 0 9999 text
  let (month, rest) ← fixedDigits 2 1 12 (← after? '-' rest)
  let (_, rest) ← fixedDigits 2 1 (daysOf year month) (← after? '-' rest)
  some rest

/-- What follows the digits of a fraction of a second, if there are any. -/
def skipFraction (text : List Char) : List Char :=
  match text with
  | '.' :: rest =>
    if rest.head?.any Char.isDigit then rest.dropWhile Char.isDigit else text
  | _ => text

/-- What follows a time of day. A minute may have a leap second. -/
def time? (text : List Char) : Option (List Char) := do
  let (_, rest) ← fixedDigits 2 0 23 text
  let (_, rest) ← fixedDigits 2 0 59 (← after? ':' rest)
  let (_, rest) ← fixedDigits 2 0 60 (← after? ':' rest)
  some (skipFraction rest)

def offset? : List Char → Option (List Char)
  | 'Z' :: rest => some rest
  | 'z' :: rest => some rest
  | sign :: rest => do
    if sign == '+' || sign == '-' then
      let (_, rest) ← fixedDigits 2 0 23 rest
      let (_, rest) ← fixedDigits 2 0 59 (← after? ':' rest)
      some rest
    else none
  | [] => none

/-- What follows a time of day after a date, with its distance from universal time. -/
def timeOfDate? : List Char → Option (List Char)
  | mark :: rest =>
    if mark == 'T' || mark == 't' || mark == ' ' then
      (time? rest).map fun rest => (offset? rest).getD rest
    else none
  | [] => none

def moment? (text : List Char) : Option (List Char) :=
  match date? text with
  | some rest => some ((timeOfDate? rest).getD rest)
  | none => time? text

/-! ## All of them -/

def scalar (text : List Char) : Option (Document × List Char) :=
  match text with
  | '"' :: _ | '\'' :: _ => (anyString text).map fun (value, rest) => (.text value, rest)
  | _ =>
    match afterWord? "true" text, afterWord? "false" text, moment? text with
    | some rest, _, _ => some (.boolean true, rest)
    | _, some rest, _ => some (.boolean false, rest)
    | _, _, some rest => some (.moment, rest)
    | none, none, none => number text

end HttpServer.Toml
