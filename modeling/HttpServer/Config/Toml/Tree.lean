import HttpServer.Config.Document

/-!
# Tables and where they come from

A TOML document builds its tables piece by piece, and which pieces may be added to a table depends
on how it came to be. A table may be stated once, by a header of its own. Tables on the way to a
header come to be without being stated, and may be stated later. Tables on the way to a key with
points belong to the place where that key stands: only further keys of that kind add values to
them. A value is closed once it is written.
-/

namespace HttpServer.Toml

inductive Origin where
  /-- By a header of its own. -/
  | stated
  /-- On the way to a header. -/
  | passed
  /-- On the way to a key with points. -/
  | dotted
deriving DecidableEq, Repr

inductive Node where
  | value (document : Document)
  | table (origin : Origin) (entries : List (String × Node))
  /-- Tables of one name, each with its header, the latest first. -/
  | series (latest : List (String × Node)) (earlier : List (List (String × Node)))

abbrev Entries := List (String × Node)

namespace Entries

def named? (entries : Entries) (name : String) : Option Node :=
  (entries.find? fun entry => entry.1 = name).map Prod.snd

def put (entries : Entries) (name : String) (node : Node) : Entries :=
  if (named? entries name).isSome then
    entries.map fun entry => if entry.1 = name then (name, node) else entry
  else entries ++ [(name, node)]

/-- Changes the table at the end of a path, and makes the tables on the way that are missing; they
come to be with the given origin. The change may ask how the table came to be. A key with points
may not enter a stated table. -/
def changeAt (origin : Origin) (change : Origin → Entries → Option Entries) :
    List String → Origin → Entries → Option Entries
  | [], here, entries => change here entries
  | name :: path, _, entries =>
    match named? entries name with
    | none => do
      let inner ← changeAt origin change path origin []
      some (entries.put name (.table origin inner))
    | some (.value _) => none
    | some (.table inside inner) =>
      if origin = .dotted ∧ inside = .stated then none
      else do
        let inner ← changeAt origin change path inside inner
        some (entries.put name (.table inside inner))
    | some (.series latest earlier) => do
      let latest ← changeAt origin change path .stated latest
      some (entries.put name (.series latest earlier))

def write (name : String) (document : Document) (entries : Entries) : Option Entries :=
  if (named? entries name).isSome then none
  else some (entries.put name (.value document))

/-- Writes a value under a key whose parts before the last are a path. Values are added only to
tables of the same kind: those that keys with points made, when the key has points. -/
def assign (path : List String) (name : String) (document : Document) (entries : Entries) :
    Option Entries :=
  changeAt .dotted
    (fun here entries =>
      if path.isEmpty || here = .dotted then write name document entries else none)
    path .stated entries

def state (name : String) (entries : Entries) : Option Entries :=
  match named? entries name with
  | none => some (entries.put name (.table .stated []))
  | some (.table .passed inner) => some (entries.put name (.table .stated inner))
  | some _ => none

/-- Adds an empty table to those of one name. -/
def extend (name : String) (entries : Entries) : Option Entries :=
  match named? entries name with
  | none => some (entries.put name (.series [] []))
  | some (.series latest earlier) => some (entries.put name (.series [] (latest :: earlier)))
  | some _ => none

end Entries

/-! ## The data of a tree -/

mutual

def Node.toDocument : Node → Document
  | .value document => document
  | .table _ entries => .table (entriesToDocuments entries)
  | .series latest earlier =>
    .list ((.table (entriesToDocuments latest)) :: seriesToDocuments earlier).reverse

def entriesToDocuments : List (String × Node) → List (String × Document)
  | [] => []
  | (name, node) :: rest => (name, node.toDocument) :: entriesToDocuments rest

def seriesToDocuments : List (List (String × Node)) → List Document
  | [] => []
  | entries :: rest => .table (entriesToDocuments entries) :: seriesToDocuments rest

end

end HttpServer.Toml
