import HttpServer.Address

/-!
# Names of hosts

A name is one or more labels with points between them, and perhaps a point after the last. In its
written form a character may stand behind a backslash, or be given there by the three digits of its
number. A text that is no name is never asked for, so that nobody can answer.
-/

namespace HttpServer.HostName

def isLabelCharacter (character : Char) : Bool :=
  character.isAlphanum || character = '-' || character = '_'

/-- The character whose number three digits give. -/
def ofDigits? (hundreds tens ones : Char) : Option Char :=
  let digits := [hundreds, tens, ones]
  if digits.all Char.isDigit then
    some (.ofNat (digits.foldl (fun value digit => value * 10 + (digit.toNat - '0'.toNat)) 0))
  else none

/-- The labels of a name with points between them, without backslashes. What stands behind a
backslash must be fit for a label. -/
def plain? : List Char → Option (List Char)
  | [] => some []
  | '\\' :: first :: rest =>
    if first.isDigit then
      match rest with
      | second :: third :: rest => do
        let character ← ofDigits? first second third
        if isLabelCharacter character then return character :: (← plain? rest) else none
      | _ => none
    else if isLabelCharacter first then return first :: (← plain? rest)
    else none
  | character :: rest =>
    if character = '.' || isLabelCharacter character then return character :: (← plain? rest)
    else none

def labelLimit : Nat := 63

/-- The most octets of a name in which each label stands after its length, and nothing after the
last. -/
def limit : Nat := 255

/-- Whether labels make up a name. The first does not begin with a hyphen. -/
def areName (labels : List String) : Bool :=
  labels.all (fun label => 0 < label.length && label.length ≤ labelLimit)
    && labels.foldl (fun size label => size + label.length + 1) 0 < limit
    && labels.head?.all fun label => label.front ≠ '-'

/-- Whether a text is a name. A point by itself names what is above all names. -/
def isName (text : List Char) : Bool :=
  match plain? text with
  | none => false
  | some plain =>
    let labels := (String.ofList plain).splitOn "."
    plain = ['.'] || areName (if labels.getLast? = some "" then labels.dropLast else labels)

/-- The name that every host has for itself, whatever its case. -/
def isLocal (text : List Char) : Bool := text.map Char.toLower = "localhost".toList

end HttpServer.HostName
