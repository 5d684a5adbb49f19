import HttpServer.Text.Alphanumeric

/-!
# Patterns

A pattern says how a text may look: most characters stand for themselves, others for classes of
characters, choices, groups and repetitions. This module tells which texts are patterns, for texts
without commas, equals signs and closing braces; what needs a closing brace is never complete in
them. Classes and letter cases that take knowledge of all scripts are not at hand.
-/

namespace HttpServer.Text.Pattern

structure Mode where
  /-- Whether letters stand for both of their cases. -/
  ignoresCase : Bool := false
  /-- Whether classes reach beyond ASCII. -/
  isWide : Bool := true
deriving DecidableEq, Repr

/-! ## Escapes -/

inductive Escape where
  | character (code : Nat)
  /-- An octet by two digits, which is a character only where classes reach beyond ASCII. -/
  | octet (value : Nat)
  /-- Digits, blanks, the characters of words, or all others. -/
  | group ( isNegated : Bool)
  /-- The place between a word and what is no word. -/
  | boundary
  /-- The place before or after everything. -/
  | edge
deriving DecidableEq, Repr

def digitValue (character : Char) : Nat :=
  if character.isDigit then character.toNat - 0x30 else character.toLower.toNat - 0x61 + 10

def isDigit (character : Char) : Bool :=
  character.isDigit || ('a' ≤ character.toLower && character.toLower ≤ 'f')

/-- A number of so many hexadecimal digits, and what follows it. -/
def number? (count : Nat) (text : List Char) : Option (Nat × List Char) :=
  let digits := text.take count
  if digits.length = count ∧ digits.all isDigit then
    some (digits.foldl (fun value digit => value * 16 + digitValue digit) 0, text.drop count)
  else none

/-- A character by so many hexadecimal digits, and what follows it. -/
def code? (count : Nat) (text : List Char) : Option (Escape × List Char) := do
  let (code, rest) ← number? count text
  if code.isValidChar then some (.character code, rest) else none

def controls : List (Char × Nat) :=
  [('a', 0x07), ('t', 0x09), ('n', 0x0A), ('v', 0x0B), ('f', 0x0C), ('r', 0x0D)]

def escape? : List Char → Option (Escape × List Char)
  | [] => none
  | 'x' :: rest => do
    let (value, rest) ← number? 2 rest
    return (if value < 0x80 then .character value else .octet value, rest)
  | 'u' :: rest => code? 4 rest
  | 'U' :: rest => code? 8 rest
  | first :: rest =>
    if ['d', 's', 'w'].contains first.toLower then some (.group first.isUpper, rest)
    else if ['A', 'z'].contains first then some (.edge, rest)
    else if ['b', 'B', '<', '>'].contains first then some (.boundary, rest)
    else if first.isAlphanum then
      (controls.find? fun control => control.1 = first).map fun control =>
        (.character control.2, rest)
    else if first.toNat < 0x80 then some (.character first.toNat, rest)
    else none

/-- Whether an escape is of use in a mode, outside brackets. -/
def Escape.isSound (mode : Mode) : Escape → Bool
  | .character _ => !(mode.ignoresCase && mode.isWide)
  | .octet _ => !mode.ignoresCase && mode.isWide
  | .group isNegated => !mode.isWide && !isNegated
  | .boundary | .edge => true

/-! ## Brackets -/

def Escape.code? (mode : Mode) : Escape → Option Nat
  | .character code => if mode.isWide || code < 0x80 then some code else none
  | .octet value => if mode.isWide then some value else none
  | _ => none

/-- What follows the opening of a bracket. A caret turns the class around; hyphens, or else a closing
bracket, that come next stand for themselves. -/
def opening? (mode : Mode) (text : List Char) : Option (List Char) :=
  let isNegated := text.head? = some '^'
  if isNegated ∧ !mode.isWide then none
  else
    match if isNegated then text.drop 1 else text with
    | ']' :: rest => some rest
    | text => some (text.dropWhile (· == '-'))

def member? : List Char → Option (Escape × List Char)
  | [] => none
  | '\\' :: rest => escape? rest
  | first :: rest => some (.character first.toNat, rest)

/-- A character in brackets or a range of them, and what follows it. A hyphen before a closing
bracket or another hyphen makes no range. -/
def members? (mode : Mode) (text : List Char) : Option (List Char) := do
  let (first, rest) ← member? text
  let first? := first.code? mode
  match rest with
  | '-' :: next =>
    if next.head? = some ']' ∨ next.head? = some '-' then first?.map fun _ => rest
    else
      let (last, rest) ← member? next
      if (← first?) ≤ (← last.code? mode) then some rest else none
  | _ =>
    match first with
    | .group isNegated => if !mode.isWide && !isNegated then some rest else none
    | _ => first?.map fun _ => rest

/-- What follows a bracket that has been opened so many times, in at most `most` steps. Two equal
marks combine what is before and after them. -/
def closingUpTo (mode : Mode) : (most depth : Nat) → List Char → Option (List Char)
  | 0, _, _ => none
  | most + 1, depth, text =>
    match text with
    | [] => none
    | '[' :: rest => do closingUpTo mode most (depth + 1) (← opening? mode rest)
    | ']' :: rest => if depth ≤ 1 then some rest else closingUpTo mode most (depth - 1) rest
    | '&' :: '&' :: rest | '-' :: '-' :: rest | '~' :: '~' :: rest =>
      closingUpTo mode most depth rest
    | _ => do closingUpTo mode most depth (← members? mode text)

/-- What follows a class in brackets, of which the first has been read. -/
def class? (mode : Mode) (text : List Char) : Option (List Char) := do
  if mode.ignoresCase && mode.isWide then none
  else closingUpTo mode (text.length + 1) 1 (← opening? mode text)

/-! ## Groups -/

inductive Opening where
  | plain
  | named (name : List Char)
  | withMode (mode : Mode)
  /-- No group at all: the mode for the rest of the group around it. -/
  | onlyMode (mode : Mode)

/-- The marks that set a mode; after a hyphen they unset it. Each may stand once. `sign` is whether
marks set a mode now, and `met` are the marks so far, latest first. -/
def marks? (mode : Mode) (sign : Bool) (met : List Char) : List Char → Option (Opening × List Char)
  | [] => none
  | mark :: rest =>
    if met.head? = some '-' ∧ (mark = ':' ∨ mark = ')') then none
    else if mark = ':' then some (.withMode mode, rest)
    else if mark = ')' then if met.isEmpty then none else some (.onlyMode mode, rest)
    else if met.contains mark then none
    else
      match mark with
      | '-' => marks? mode false (mark :: met) rest
      | 'i' => marks? { mode with ignoresCase := sign } sign (mark :: met) rest
      | 'u' => marks? { mode with isWide := sign } sign (mark :: met) rest
      | 'm' | 's' | 'U' | 'R' | 'x' => marks? mode sign (mark :: met) rest
      | _ => none

def isName : List Char → Bool
  | [] => false
  | first :: others =>
    (first == '_' || (isAlphanumeric first && !first.isDigit))
      && others.all fun character =>
        ['_', '.', '[', ']'].contains character || isAlphanumeric character

def name? (text : List Char) : Option (Opening × List Char) :=
  let name := text.takeWhile (· != '>')
  match text.drop name.length with
  | _ :: rest => if isName name then some (.named name, rest) else none
  | [] => none

/-- What stands after the opening parenthesis of a group, and what follows that. -/
def opening (mode : Mode) : List Char → Option (Opening × List Char)
  | '?' :: '!' :: _ | '?' :: '<' :: '!' :: _ => none
  | '?' :: 'P' :: '<' :: rest | '?' :: '<' :: rest => name? rest
  | '?' :: rest => marks? mode true [] rest
  | text => some (.plain, text)

/-! ## Reading -/

structure Progress where
  mode : Mode := {}
  /-- The modes of the groups around the one that is being read, innermost first. -/
  enclosing : List Mode := []
  /-- The names of groups. -/
  names : List (List Char) := []
  /-- Whether what was read last can be repeated. -/
  canRepeat : Bool := false
  /-- Whether the bounds of words of all scripts are asked for. -/
  needsWords : Bool := false

def Progress.afterItem (progress : Progress) : Progress := { progress with canRepeat := true }

def Progress.within (progress : Progress) (mode : Mode) : Progress :=
  { progress with mode, enclosing := progress.mode :: progress.enclosing, canRepeat := false }

def Progress.enter (progress : Progress) : Opening → Option Progress
  | .onlyMode mode => some { progress with mode, canRepeat := false }
  | .plain => some (progress.within progress.mode)
  | .withMode mode => some (progress.within mode)
  | .named name =>
    if progress.names.contains name then none
    else some { progress.within progress.mode with names := name :: progress.names }

def Progress.pass (progress : Progress) (escape : Escape) : Option Progress :=
  if !escape.isSound progress.mode then none
  else if escape = .boundary ∧ progress.mode.isWide then
    some { progress.afterItem with needsWords := true }
  else some progress.afterItem

def Progress.read (progress : Progress) (first : Char) (rest : List Char) :
    Option (Progress × List Char) :=
  match first with
  | '(' => do
    let (opening, rest) ← opening progress.mode rest
    return (← progress.enter opening, rest)
  | ')' =>
    match progress.enclosing with
    | [] => none
    | mode :: enclosing => some ({ progress with mode, enclosing, canRepeat := true }, rest)
  | '|' => some ({ progress with canRepeat := false }, rest)
  | '[' => do return (progress.afterItem, ← class? progress.mode rest)
  | '?' | '*' | '+' =>
    if progress.canRepeat then some (progress, if rest.head? = some '?' then rest.drop 1 else rest)
    else none
  | '\x7b' => none
  | '\\' => do
    let (escape, rest) ← escape? rest
    return (← progress.pass escape, rest)
  | '.' => if progress.mode.isWide then some (progress.afterItem, rest) else none
  | '^' | '$' => some (progress.afterItem, rest)
  | _ => do return (← progress.pass (.character first.toNat), rest)

def readUpTo : (most : Nat) → Progress → List Char → Option Progress
  | _, progress, [] => some progress
  | 0, _, _ => none
  | most + 1, progress, first :: rest => do
    let (progress, rest) ← progress.read first rest
    readUpTo most progress rest

inductive Fault where
  | malformed
  /-- The bounds of words of all scripts are asked for. -/
  | needsWords
deriving DecidableEq, Repr

def Fault.message : Fault → String
  | .malformed => "error building NFA"
  | .needsWords =>
    "unsupported regex feature for DFAs: cannot build DFAs for regexes with Unicode word boundaries; "
      ++ "switch to ASCII word boundaries, or heuristically enable Unicode word boundaries or use a "
      ++ "different regex engine"

def fault? (text : List Char) : Option Fault :=
  match readUpTo text.length {} text with
  | none => some .malformed
  | some progress =>
    if !progress.enclosing.isEmpty then some .malformed
    else if progress.needsWords then some .needsWords
    else none

end HttpServer.Text.Pattern
