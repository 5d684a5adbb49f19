/-!
# Blanks, comments, strings and keys of TOML

Every reader takes its item from the front of a text and gives what follows it, or nothing when the
item is not there. Why a text is refused is nowhere told, so a reader may stop early: whatever it
leaves behind is refused by the next one.
-/

namespace HttpServer.Toml

/-! ## Repetition -/

/-- Reads pieces as long as there are any, at most `most`, in front of those already read. -/
def piecesOnto {α : Type} (piece : List Char → Option (α × List Char)) :
    (most : Nat) → List α → List Char → List α × List Char
  | 0, seen, text => (seen, text)
  | most + 1, seen, text =>
    match piece text with
    | none => (seen, text)
    | some (found, rest) => piecesOnto piece most (found :: seen) rest

/-- Reads pieces as long as there are any. Every piece takes at least one character, so there are
no more of them than characters. -/
def pieces {α : Type} (piece : List Char → Option (α × List Char)) (text : List Char) :
    List α × List Char :=
  let (seen, rest) := piecesOnto piece text.length [] text
  (seen.reverse, rest)

/-! ## Blanks and comments -/

def isBlank (character : Char) : Bool := character == ' ' || character == '\t'

def skipBlanks (text : List Char) : List Char := text.dropWhile isBlank

/-- A character of a comment: the tab, or anything but a control character. -/
def isCommentText (character : Char) : Bool :=
  character == '\t' || (' ' ≤ character && character != '\x7f')

def newline? : List Char → Option (List Char)
  | '\n' :: rest => some rest
  | '\r' :: '\n' :: rest => some rest
  | _ => none

def skipComment : List Char → List Char
  | '#' :: rest => rest.dropWhile isCommentText
  | text => text

/-- What follows the rest of a line, which may hold blanks and a comment only. -/
def lineEnd? (text : List Char) : Option (List Char) :=
  match skipComment (skipBlanks text) with
  | [] => some []
  | rest => newline? rest

def blankPiece (text : List Char) : Option (Unit × List Char) :=
  match text with
  | '#' :: _ => some ((), skipComment text)
  | first :: _ =>
    if isBlank first then some ((), skipBlanks text)
    else (newline? text).map fun rest => ((), rest)
  | [] => none

def skipBlankLines (text : List Char) : List Char := (pieces blankPiece text).2

/-! ## Characters of strings -/

def hexDigit? (character : Char) : Option Nat :=
  if character.isDigit then some (character.toNat - '0'.toNat)
  else if 'a' ≤ character ∧ character ≤ 'f' then some (character.toNat - 'a'.toNat + 10)
  else if 'A' ≤ character ∧ character ≤ 'F' then some (character.toNat - 'A'.toNat + 10)
  else none

/-- The character whose number is given by exactly `count` hexadecimal digits. -/
def numberedCharacter (count : Nat) (text : List Char) : Option (Char × List Char) := do
  let digits ← (text.take count).mapM hexDigit?
  let number := digits.foldl (fun value digit => value * 16 + digit) 0
  if digits.length = count ∧ number.isValidChar then
    some (Char.ofNat number, text.drop count)
  else none

def escaped : List Char → Option (Char × List Char)
  | 'b' :: rest => some ('\x08', rest)
  | 'f' :: rest => some ('\x0c', rest)
  | 'n' :: rest => some ('\n', rest)
  | 'r' :: rest => some ('\r', rest)
  | 't' :: rest => some ('\t', rest)
  | '\\' :: rest => some ('\\', rest)
  | '"' :: rest => some ('"', rest)
  | 'u' :: rest => numberedCharacter 4 rest
  | 'U' :: rest => numberedCharacter 8 rest
  | _ => none

def basicPiece : List Char → Option (Char × List Char)
  | '\\' :: rest => escaped rest
  | first :: rest => if isCommentText first && first != '"' then some (first, rest) else none
  | [] => none

def basicString (text : List Char) : Option (String × List Char) :=
  match pieces basicPiece text with
  | (characters, '"' :: rest) => some (String.ofList characters, rest)
  | _ => none

def literalString (text : List Char) : Option (String × List Char) :=
  let isLiteral := fun character => isCommentText character && character != '\''
  match text.dropWhile isLiteral with
  | '\'' :: rest => some (String.ofList (text.takeWhile isLiteral), rest)
  | _ => none

/-! ## Strings of several lines -/

/-- One or two quotes, which belong to a string of several lines. -/
def innerQuotes (quote : Char) (text : List Char) : Option (List Char × List Char) :=
  let quotes := text.takeWhile (· == quote)
  if 1 ≤ quotes.length ∧ quotes.length ≤ 2 then some (quotes, text.drop quotes.length) else none

/-- What follows an escaped line ending: the blanks and line endings after it are left out too. -/
def afterEscapedLine? (text : List Char) : Option (List Char) :=
  (newline? (skipBlanks text)).map fun rest =>
    (pieces
      (fun text =>
        match text with
        | '#' :: _ => none
        | _ => blankPiece text)
      rest).2

def basicLinesPiece : List Char → Option (List Char × List Char)
  | '"' :: rest => innerQuotes '"' ('"' :: rest)
  | '\\' :: rest =>
    match afterEscapedLine? rest with
    | some rest => some ([], rest)
    | none => (escaped rest).map fun (character, rest) => ([character], rest)
  | text =>
    match newline? text, text with
    | some rest, _ => some (['\n'], rest)
    | none, first :: rest => if isCommentText first then some ([first], rest) else none
    | none, [] => none

def literalLinesPiece : List Char → Option (List Char × List Char)
  | '\'' :: rest => innerQuotes '\'' ('\'' :: rest)
  | text =>
    match newline? text, text with
    | some rest, _ => some (['\n'], rest)
    | none, first :: rest => if isCommentText first then some ([first], rest) else none
    | none, [] => none

/-- The end of a string of several lines: three quotes, after at most two that belong to it. -/
def closingQuotes (quote : Char) (text : List Char) : Option (List Char × List Char) :=
  let quotes := text.takeWhile (· == quote)
  if 3 ≤ quotes.length ∧ quotes.length ≤ 5 then
    some (quotes.drop 3, text.drop quotes.length)
  else none

/-- A string of several lines, after its opening quotes. A line ending just there is left out. -/
def linesString (quote : Char) (piece : List Char → Option (List Char × List Char))
    (text : List Char) : Option (String × List Char) := do
  let (found, rest) := pieces piece ((newline? text).getD text)
  let (last, rest) ← closingQuotes quote rest
  some (String.ofList (found.flatten ++ last), rest)

def anyString : List Char → Option (String × List Char)
  | '"' :: '"' :: '"' :: rest => linesString '"' basicLinesPiece rest
  | '"' :: rest => basicString rest
  | '\'' :: '\'' :: '\'' :: rest => linesString '\'' literalLinesPiece rest
  | '\'' :: rest => literalString rest
  | _ => none

/-! ## Keys -/

/-- A character of a key without quotes. -/
def isBare (character : Char) : Bool :=
  character.isAlphanum || character == '-' || character == '_'

def keyPart : List Char → Option (String × List Char)
  | '"' :: rest => basicString rest
  | '\'' :: rest => literalString rest
  | text =>
    let bare := text.takeWhile isBare
    if bare.isEmpty then none else some (String.ofList bare, text.drop bare.length)

/-- How many parts no key may have, and how deep no value may be nested. -/
def tooDeep : Nat := 80

def dottedPart : List Char → Option (String × List Char)
  | '.' :: rest => (keyPart (skipBlanks rest)).map fun (part, rest) => (part, skipBlanks rest)
  | _ => none

/-- A key: parts with points between them. The last part is given apart from those before it. -/
def key (text : List Char) : Option ((List String × String) × List Char) := do
  let (first, rest) ← keyPart (skipBlanks text)
  let (others, rest) := pieces dottedPart (skipBlanks rest)
  let parts := first :: others
  if tooDeep ≤ parts.length then none
  else some ((parts.dropLast, others.getLast?.getD first), rest)

end HttpServer.Toml
