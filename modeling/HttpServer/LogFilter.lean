import HttpServer.Bytes.Numeral
import HttpServer.Bytes.Utf8
import HttpServer.Log
import HttpServer.Text.Blank
import HttpServer.Text.Pattern

/-!
# Which log entries are shown

A filter is a list of directives with commas between them. A directive gives a level, for all
entries or for those whose source begins with a text, that have a field, or that are written inside
a span; entries that are less important than the level are not shown. Of several directives about an
entry the most specific decides, and of equally specific ones the last. An entry that no directive
is about is not shown.
-/

namespace HttpServer

structure FieldCondition where
  name : String
  /-- Whether the value of the field is asked for too. -/
  hasValue : Bool := false
deriving DecidableEq, Repr

structure LogDirective where
  /-- How the names of the sources begin that it is about. -/
  source : Option String := none
  /-- The span that it is about. -/
  span : Option String := none
  field : Option FieldCondition := none
  /-- The greatest rank of a level that is shown. -/
  reach : Nat
deriving DecidableEq, Repr

inductive LogDirectiveError where
  | form
  | level
  /-- The value of a field is no pattern. -/
  | field (fault : Text.Pattern.Fault)
  /-- A part begins or ends within a character. This is fatal to whoever reads the directive. -/
  | torn
deriving DecidableEq, Repr

def LogDirectiveError.message : LogDirectiveError → String
  | .form => "invalid filter directive"
  | .level =>
    "error parsing level filter: expected one of \"off\", \"error\", \"warn\", \"info\", "
      ++ "\"debug\", \"trace\", or a number 0-5"
  | .field fault => "invalid field filter: " ++ fault.message
  | .torn => "a part of the filter is cut within a character"

namespace LogDirective

/-! ## Levels -/

/-- The rank up to which everything is shown. -/
def everything : Nat := LogLevel.trace.rank

def levelNames : List (String × Nat) :=
  [("off", 0), ("error", LogLevel.error.rank), ("warn", LogLevel.warning.rank),
    ("info", LogLevel.info.rank), ("debug", LogLevel.debug.rank), ("trace", LogLevel.trace.rank)]

/-- The rank of a level that is given by number or by name. -/
def reach? (text : String) : Option Nat :=
  match Numeral.readNatural (UInt64.size - 1) (Utf8.encode text) with
  | .ok rank => if rank ≤ everything then some rank else none
  | .error _ => (levelNames.find? fun entry => entry.1 = text.toLower).map Prod.snd

/-! ## Fields -/

/-- A decimal number with a sign before it, perhaps with a fraction and an exponent. Such a number is
a value although no pattern begins with a plus sign. -/
def isSignedNumber : List Char → Bool
  | '+' :: text =>
    let fraction := text.dropWhile Char.isDigit
    let exponent :=
      if fraction.head? = some '.' then (fraction.drop 1).dropWhile Char.isDigit else fraction
    let mantissa := text.take (text.length - exponent.length)
    let isExponent : Bool :=
      match exponent with
      | [] => true
      | mark :: rest =>
        let digits := if rest.head? = some '+' ∨ rest.head? = some '-' then rest.drop 1 else rest
        mark.toLower == 'e' && !digits.isEmpty && digits.all Char.isDigit
    (mantissa.any Char.isDigit && isExponent)
      || ["inf", "infinity", "nan"].contains (String.ofList text).toLower
  | _ => false

/-- Reads a condition on a field: its name, and perhaps its value after an equals sign. What follows
a second equals sign has no meaning. -/
def readField (text : String) : Except LogDirectiveError FieldCondition :=
  match text.splitOn "=" with
  | name :: value :: _ =>
    if isSignedNumber value.toList then .ok { name, hasValue := true }
    else
      match Text.Pattern.fault? value.toList with
      | some fault => .error (.field fault)
      | none => .ok { name, hasValue := true }
  | _ => .ok { name := text }

/-! ## Reading -/

/-- Whether a text can be cut at a place, counted in octets. -/
def isCut (octets : Bytes) (place : Nat) : Bool :=
  (octets.drop place).head?.all fun byte => byte < 0x80 || 0xC0 ≤ byte

/-- The part of a text between two places, counted in octets. -/
def cut (text : String) (start stop : Nat) : Except LogDirectiveError String :=
  let octets := Utf8.encode text
  if isCut octets start && isCut octets stop then
    match Utf8.decode ((octets.drop start).take (stop - start)) with
    | some part => .ok part
    | none => .error .torn
  else .error .torn

inductive Stage where
  /-- A level or the name of a source. -/
  | name
  | span (start : Nat)
  | field (start : Nat)
  | afterField
  | afterSpan
  | level (start : Nat)
deriving DecidableEq, Repr

structure Progress where
  directive : LogDirective := { reach := everything }
  stage : Stage

/-- Reads a character at a place. Parts are cut out of the whole text, although places are counted
from its first character that is not blank. -/
def Progress.read (text : String) (progress : Progress) (place : Nat) (character : Char) :
    Except LogDirectiveError Progress := do
  let directive := progress.directive
  match progress.stage, character with
  | .name, '=' =>
    return ⟨{ directive with source := some (← cut text 0 place) }, .level (place + 1)⟩
  | .name, '[' =>
    return ⟨{ directive with source := some (← cut text 0 place) }, .span (place + 1)⟩
  | .afterSpan, '=' => return ⟨directive, .level (place + 1)⟩
  | .span start, ']' =>
    return ⟨{ directive with span := some (← cut text start place) }, .afterSpan⟩
  | .span start, '\x7b' =>
    let name ← cut text start place
    let span := if name.isEmpty then none else some name
    return ⟨{ directive with span }, .field (place + 1)⟩
  | .field start, '\x7d' =>
    let condition ← cut text start place
    if condition.isEmpty then throw .form
    return ⟨{ directive with field := some (← readField condition) }, .afterField⟩
  | .afterField, ']' => return ⟨directive, .afterSpan⟩
  | .name, _ | .span _, _ | .field _, _ | .level _, _ => return progress
  | _, _ => throw .form

def Progress.readAll (text : String) (progress : Progress) (place : Nat) :
    List Char → Except LogDirectiveError Progress
  | [] => .ok progress
  | character :: rest => do
    (← progress.read text place character).readAll text (place + character.utf8Size) rest

/-- The directive at the end of the text. A name alone is a level if it can be one, and else a source
of which everything is shown; no level at all shows everything. -/
def Progress.finish (text : String) (progress : Progress) :
    Except LogDirectiveError LogDirective := do
  let directive := progress.directive
  match progress.stage with
  | .name =>
    match reach? text with
    | some reach => return { directive with reach }
    | none => return { directive with source := some text }
  | .level start =>
    let level ← cut text start text.utf8ByteSize
    if level.isEmpty then return directive
    match reach? level with
    | some reach => return { directive with reach }
    | none => throw .level
  | .afterSpan => return directive
  | _ => throw .form

def beginsName (character : Char) : Bool :=
  Text.isAlphanumeric character || ['-', ':', '_'].contains character

def trimmed (text : String) : List Char :=
  ((text.toList.dropWhile Text.isBlank).reverse.dropWhile Text.isBlank).reverse

def parse (text : String) : Except LogDirectiveError LogDirective :=
  match trimmed text with
  | [] => .error .form
  | first :: others =>
    if first != '[' && !beginsName first then .error .form
    else do
      let progress : Progress := { stage := if first = '[' then .span 1 else .name }
      (← progress.readAll text first.utf8Size others).finish text

/-! ## Deciding -/

/-- Whether a directive is about an entry. No entry is written inside a span, and values of fields
are only asked for of spans. -/
def isAbout (directive : LogDirective) (entry : LogEntry) : Bool :=
  directive.span.isNone
    && directive.source.all (fun source => source.toList.isPrefixOf entry.source.target.toList)
    && directive.field.all fun field => !field.hasValue && entry.fieldNames.contains field.name

/-- Whether a directive is less specific than another about the same entry. A longer source is more
specific than a shorter one or none, then a field is than none, and of two fields the one whose name
comes later in the order of characters. -/
def isLessSpecific (left right : LogDirective) : Bool :=
  let size (directive : LogDirective) := directive.source.map String.length
  if size left = size right then
    match left.field, right.field with
    | none, some _ => true
    | some left, some right => left.name < right.name
    | _, none => false
  else
    match size left, size right with
    | some left, some right => left < right
    | left, _ => left.isNone

end LogDirective

structure LogFilter where
  directives : List LogDirective
deriving DecidableEq, Repr

namespace LogFilter

/-! ## Reading -/

/-- The texts between commas that are not empty. -/
def pieces (text : String) : List String :=
  (text.splitOn ",").filter fun piece => !piece.isEmpty

/-- A filter of some directives. When there are none, errors are shown. -/
def ofDirectives (directives : List LogDirective) : LogFilter :=
  ⟨if directives.isEmpty then [{ reach := LogLevel.error.rank }] else directives⟩

/-- Reads a filter all of whose parts are directives. The first part that is none is what is wrong
with it. -/
def parse (text : String) : Except LogDirectiveError LogFilter :=
  ((pieces text).mapM LogDirective.parse).map ofDirectives

/-- What is said of a part that is not a directive. -/
def complaint? (piece : String) : Option String :=
  match LogDirective.parse piece with
  | .ok _ => none
  | .error error => some ("ignoring `" ++ piece ++ "`: " ++ error.message)

structure Reading where
  /-- The filter, unless a fault was fatal. -/
  filter : Except LogDirectiveError LogFilter
  /-- What is said of the parts that are left out. -/
  complaints : List String := []

/-- Whether a text can be told to be a directive or not. -/
def isIntact (piece : String) : Bool :=
  match LogDirective.parse piece with
  | .error .torn => false
  | _ => true

/-- Reads a filter and leaves out the parts that are no directives. -/
def parseLeniently (text : String) : Reading :=
  let intact := (pieces text).takeWhile isIntact
  let directives := intact.filterMap fun piece => (LogDirective.parse piece).toOption
  let complaints := intact.filterMap complaint?
  if intact.length < (pieces text).length then { filter := .error .torn, complaints }
  else { filter := .ok (ofDirectives directives), complaints }

/-! ## Showing -/

def deciding? (filter : LogFilter) (entry : LogEntry) : Option LogDirective :=
  (filter.directives.filter fun directive => directive.isAbout entry).foldl
    (fun best directive =>
      match best with
      | some found => if directive.isLessSpecific found then best else some directive
      | none => some directive)
    none

def shows (filter : LogFilter) (entry : LogEntry) : Bool :=
  match filter.deciding? entry with
  | some directive => entry.level.rank ≤ directive.reach
  | none => false

end LogFilter

end HttpServer
