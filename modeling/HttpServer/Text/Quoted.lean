import HttpServer.Text.Unprintable

/-!
# Texts and values as diagnostics show them

Messages show a text in double quotes, with escapes that make every character visible. This module
also has the shapes in which messages show lists, options and spans of time.
-/

namespace HttpServer.Text

def escape (character : Char) : List Char :=
  match character with
  | '\x00' => ['\\', '0']
  | '\t' => ['\\', 't']
  | '\r' => ['\\', 'r']
  | '\n' => ['\\', 'n']
  | '"' => ['\\', '"']
  | '\\' => ['\\', '\\']
  | other =>
    if isUnprintable other then
      ['\\', 'u', '\x7b'] ++ Nat.toDigits 16 other.toNat ++ ['\x7d']
    else [other]

def quoted (text : String) : String :=
  String.ofList ('"' :: text.toList.flatMap escape ++ ['"'])

def bracketed (values : List String) : String :=
  "[" ++ String.intercalate ", " values ++ "]"

def optional : Option String → String
  | some value => "Some(" ++ value ++ ")"
  | none => "None"

def record (name : String) (fields : List (String × String)) : String :=
  let shown := fields.map fun (label, value) => label ++ ": " ++ value
  name ++ " \x7b " ++ String.intercalate ", " shown ++ " \x7d"

def wrapped (name : String) (values : List String) : String :=
  name ++ "(" ++ String.intercalate ", " values ++ ")"

/-! ## Spans of time -/

/-- The digits of a number, filled with zeros on the left to a width. -/
def padded (width number : Nat) : List Char :=
  let digits := Nat.toDigits 10 number
  List.replicate (width - digits.length) '0' ++ digits

/-- A span of whole milliseconds: seconds with the digits of their fraction that matter, or
milliseconds below one second. -/
def milliseconds (span : Nat) : String :=
  if span = 0 then "0ns"
  else if span < 1000 then toString span ++ "ms"
  else
    let fraction := ((padded 3 (span % 1000)).reverse.dropWhile (· == '0')).reverse
    let point := if fraction.isEmpty then [] else '.' :: fraction
    toString (span / 1000) ++ String.ofList point ++ "s"

end HttpServer.Text
