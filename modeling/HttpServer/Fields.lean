import HttpServer.Bytes

/-!
# Header fields

A message head carries fields: a name, which is a token compared without regard to letter case,
and one or more values. `Fields` keeps the names in the order of their first appearance and the
values of a name together in the order they were added.

The order is part of the contract, because a response head is written in it. Inserting under a
present name keeps the position of the name, and removing a name fills its position with the last
one.
-/

namespace HttpServer

/-! ## Names and values -/

def FieldName.maximumLength : Nat := 65535

/-- Whether a run is a field name in small letters. -/
def FieldName.isLegal (text : Bytes) : Bool :=
  !text.isEmpty && text.length ≤ FieldName.maximumLength
    && text.all fun byte => Bytes.isToken byte && !Bytes.isUpper byte

structure FieldName where
  text : Bytes
  legal : FieldName.isLegal text = true
deriving DecidableEq

/-- Whether a run is a field value: no control character but the tab. -/
def FieldValue.isLegal (text : Bytes) : Bool :=
  text.all fun byte => byte == 0x09 || (0x20 ≤ byte && byte != 0x7F)

structure FieldValue where
  text : Bytes
  legal : FieldValue.isLegal text = true
deriving DecidableEq

namespace FieldName

/-- The name a run of octets spells, in whatever letter case. -/
def parse (text : Bytes) : Option FieldName :=
  if legal : isLegal text.lowered = true then some ⟨text.lowered, legal⟩ else none

def refusal : String := "invalid HTTP header name"

def connection : FieldName := ⟨Bytes.ascii "connection", by decide⟩

def contentLength : FieldName := ⟨Bytes.ascii "content-length", by decide⟩

def contentType : FieldName := ⟨Bytes.ascii "content-type", by decide⟩

def transferEncoding : FieldName := ⟨Bytes.ascii "transfer-encoding", by decide⟩

def server : FieldName := ⟨Bytes.ascii "server", by decide⟩

end FieldName

namespace FieldValue

def parse (text : Bytes) : Option FieldValue :=
  if legal : isLegal text = true then some ⟨text, legal⟩ else none

def refusal : String := "failed to parse header value"

/-- The octets of a value made of visible ASCII, spaces and tabs; other values are not textual. -/
def textual? (value : FieldValue) : Option Bytes :=
  if value.text.all Bytes.isTextual then some value.text else none

end FieldValue

/-! ## The collection -/

/-- A name with its values, of which there is always a first. -/
structure Field where
  name : FieldName
  first : FieldValue
  others : List FieldValue := []
deriving DecidableEq

namespace Field

/-- All values, in the order they were added. -/
def values (field : Field) : List FieldValue := field.first :: field.others

def lines (field : Field) : List (FieldName × FieldValue) :=
  field.values.map fun value => (field.name, value)

end Field

/-- The fields of a head: distinct names in the order of their first appearance. -/
structure Fields where
  entries : List Field := []
  distinct : (entries.map Field.name).Nodup := by simp
deriving DecidableEq

namespace Fields

def empty : Fields := {}

instance : Inhabited Fields := ⟨empty⟩

def names (fields : Fields) : List FieldName := fields.entries.map Field.name

def contains (fields : Fields) (name : FieldName) : Bool :=
  fields.entries.any fun field => field.name == name

/-- All values of a name, in the order they were added. -/
def getAll (fields : Fields) (name : FieldName) : List FieldValue :=
  match fields.entries.find? fun field => field.name == name with
  | some field => field.values
  | none => []

def get? (fields : Fields) (name : FieldName) : Option FieldValue :=
  (fields.entries.find? fun field => field.name == name).map Field.first

/-- The lines of the head: every name in order, with each of its values. -/
def lines (fields : Fields) : List (FieldName × FieldValue) :=
  fields.entries.flatMap Field.lines

/-! ## Adding -/

/-- Changes the entry of one name, which keeps its name. -/
def modify (fields : Fields) (name : FieldName) (change : Field → Field)
    (kept : ∀ field, (change field).name = field.name) : Fields where
  entries := fields.entries.map fun field => if field.name = name then change field else field
  distinct := by
    have same : (Field.name ∘ fun field => if field.name = name then change field else field)
        = Field.name := by
      funext field
      simp only [Function.comp]
      split
      · exact kept field
      · rfl
    rw [List.map_map, same]
    exact fields.distinct

/-- Adds a field whose name is not present, after all others. -/
def extend (fields : Fields) (field : Field)
    (absent : fields.contains field.name = false) : Fields where
  entries := fields.entries ++ [field]
  distinct := by
    rw [List.map_append, List.nodup_append]
    refine ⟨fields.distinct, by simp, ?_⟩
    intro left leftMember right rightMember
    simp only [List.map_cons, List.map_nil, List.mem_singleton] at rightMember
    obtain ⟨entry, entryMember, rfl⟩ := List.mem_map.mp leftMember
    subst rightMember
    intro same
    have := List.any_eq_false.mp absent entry entryMember
    simp [same] at this

/-- Gives a name one value. A present name keeps its position and loses its other values. -/
def insert (fields : Fields) (name : FieldName) (value : FieldValue) : Fields :=
  if absent : fields.contains name = false then
    fields.extend { name, first := value } absent
  else
    fields.modify name (fun field => { field with first := value, others := [] }) fun _ => rfl

/-- Adds a value to a name, after the values it has. -/
def append (fields : Fields) (name : FieldName) (value : FieldValue) : Fields :=
  if absent : fields.contains name = false then
    fields.extend { name, first := value } absent
  else
    fields.modify name (fun field => { field with others := field.others ++ [value] }) fun _ => rfl

/-! ## Removing -/

/-- Takes out the first entry of a name and puts the last entry in its place. -/
def withoutEntry (name : FieldName) : List Field → List Field
  | [] => []
  | field :: rest =>
    if field.name = name then
      match rest.getLast? with
      | some last => last :: rest.dropLast
      | none => []
    else field :: withoutEntry name rest

/-- The entries left after a removal are among those before it, rearranged. -/
theorem withoutEntry_subperm (name : FieldName) (entries : List Field) :
    ∃ removed, (withoutEntry name entries ++ removed).Perm entries := by
  induction entries with
  | nil => exact ⟨[], by simp [withoutEntry]⟩
  | cons field rest inductionHypothesis =>
    unfold withoutEntry
    split
    · refine ⟨[field], ?_⟩
      cases rest with
      | nil => simp
      | cons second tail =>
        have whole : (second :: tail).dropLast ++ [(second :: tail).getLast (by simp)]
            = second :: tail := List.dropLast_concat_getLast (by simp)
        rw [List.getLast?_eq_some_getLast (by simp)]
        simp only
        refine (List.perm_append_singleton field _).trans (List.Perm.cons field ?_)
        refine List.Perm.trans ?_ (List.Perm.of_eq whole)
        exact (List.perm_append_singleton _ _).symm
    · obtain ⟨removed, permuted⟩ := inductionHypothesis
      exact ⟨removed, by simpa using List.Perm.cons field permuted⟩

/-- Removes a name with all its values; the last name moves into its position. -/
def remove (fields : Fields) (name : FieldName) : Fields where
  entries := withoutEntry name fields.entries
  distinct := by
    obtain ⟨removed, permuted⟩ := withoutEntry_subperm name fields.entries
    have whole : ((withoutEntry name fields.entries ++ removed).map Field.name).Nodup :=
      ((permuted.map Field.name).nodup_iff).mpr fields.distinct
    rw [List.map_append] at whole
    exact (List.nodup_append.mp whole).1

/-- The fields that a list of lines spells, read from the first line to the last. -/
def ofLines (lines : List (FieldName × FieldValue)) : Fields :=
  lines.foldl (fun fields line => fields.append line.1 line.2) empty

end Fields

end HttpServer
