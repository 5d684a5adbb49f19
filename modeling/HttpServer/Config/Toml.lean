import HttpServer.Config.Toml.Scalar
import HttpServer.Config.Toml.Tree

/-!
# Documents in TOML

A TOML text is a list of statements, one a line: headers, which say to which table the lines after
them belong, and values under keys. `Toml.parse` reads the statements and builds the tables they
describe. Neither repeated names nor values nested too deeply are accepted.
-/

namespace HttpServer.Toml

/-! ## Values -/

/-- The elements of a list, after its opening bracket; `seen` holds those before, latest first. -/
def listElements (element : List Char → Option (Document × List Char)) :
    (most : Nat) → List Document → List Char → Option (Document × List Char)
  | 0, _, _ => none
  | most + 1, seen, text =>
    match skipBlankLines text with
    | ']' :: rest => some (.list seen.reverse, rest)
    | start => do
      let (found, rest) ← element start
      match skipBlankLines rest with
      | ',' :: rest => listElements element most (found :: seen) rest
      | ']' :: rest => some (.list (found :: seen).reverse, rest)
      | _ => none

def inlineEntry (element : List Char → Option (Document × List Char)) (entries : Entries)
    (text : List Char) : Option (Entries × List Char) := do
  let ((path, name), rest) ← key text
  let (found, rest) ← element (skipBlanks (← after? '=' rest))
  some (← entries.assign path name found, skipBlanks rest)

/-- The values of a table within one line, of which there is at least one more. -/
def inlineEntries (element : List Char → Option (Document × List Char)) :
    (most : Nat) → Entries → List Char → Option (Document × List Char)
  | 0, _, _ => none
  | most + 1, entries, text => do
    let (entries, rest) ← inlineEntry element entries text
    match rest with
    | ',' :: rest => inlineEntries element most entries rest
    | '\x7d' :: rest => some (.table (entriesToDocuments entries), rest)
    | _ => none

def inlineTable (element : List Char → Option (Document × List Char)) (text : List Char) :
    Option (Document × List Char) :=
  match skipBlanks text with
  | '\x7d' :: rest => some (.table [], rest)
  | start => inlineEntries element start.length [] start

/-- A value in which at most `depth` lists and tables are nested. -/
def value : (depth : Nat) → List Char → Option (Document × List Char)
  | depth + 1, '[' :: rest => listElements (value depth) (rest.length + 1) [] rest
  | depth + 1, '\x7b' :: rest => inlineTable (value depth) rest
  | _, text => scalar text

/-! ## Statements -/

inductive Statement where
  /-- The lines that follow belong to a table. -/
  | table (path : List String) (name : String)
  /-- The lines that follow belong to one more table of a name. -/
  | series (path : List String) (name : String)
  | assign (path : List String) (name : String) (document : Document)

def seriesHeader (text : List Char) : Option (Statement × List Char) := do
  let ((path, name), rest) ← key text
  let rest ← after? ']' (← after? ']' rest)
  some (.series path name, ← lineEnd? rest)

def tableHeader (text : List Char) : Option (Statement × List Char) := do
  let ((path, name), rest) ← key text
  some (.table path name, ← lineEnd? (← after? ']' rest))

def assignment (text : List Char) : Option (Statement × List Char) := do
  let ((path, name), rest) ← key text
  let (document, rest) ← value (tooDeep - 1) (skipBlanks (← after? '=' rest))
  some (.assign path name document, ← lineEnd? rest)

def statement : List Char → Option (Statement × List Char)
  | '[' :: '[' :: rest => seriesHeader rest
  | '[' :: rest => tableHeader rest
  | text => assignment text

def line (text : List Char) : Option (Option Statement × List Char) :=
  match skipBlanks text with
  | [] => none
  | start =>
    match lineEnd? start with
    | some rest => some (none, rest)
    | none => (statement start).map fun (found, rest) => (some found, rest)

def statements (text : List Char) : Option (List Statement) :=
  match pieces line text with
  | (lines, rest) => if (skipBlanks rest).isEmpty then some (lines.filterMap id) else none

/-! ## The tables they describe -/

/-- The tables described so far, and the path to the one that lines belong to. -/
structure Building where
  root : Entries := []
  current : List String := []

def Building.add (building : Building) : Statement → Option Building
  | .table path name => do
    let root ← building.root.changeAt .passed (fun _ => Entries.state name) path .stated
    some { root, current := path ++ [name] }
  | .series path name => do
    let root ← building.root.changeAt .passed (fun _ => Entries.extend name) path .stated
    some { root, current := path ++ [name] }
  | .assign path name document => do
    let root ← building.root.changeAt .passed
      (fun _ => Entries.assign path name document) building.current .stated
    some { building with root }

/-- The mark that may stand before a text to show how it is encoded. -/
def byteOrderMark : Char := '\uFEFF'

def parse (text : String) : Option Document := do
  let characters := match text.toList with
    | first :: rest => if first = byteOrderMark then rest else first :: rest
    | [] => []
  let building ← (← statements characters).foldlM Building.add {}
  some (.table (entriesToDocuments building.root))

end HttpServer.Toml
