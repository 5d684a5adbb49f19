/-!
# Documents

A configuration is written in some notation for nested data. A document is what such a notation
says, before anyone has looked for settings in it.
-/

namespace HttpServer

inductive Document where
  /-- The absence of a value, which only some notations can write. -/
  | absent
  | boolean (value : Bool)
  | integer (value : Int)
  /-- A number that is not written as an integer. No setting has one, so its value is not kept. -/
  | real
  | text (value : String)
  /-- A date or a time of day. No setting has one, so its value is not kept. -/
  | moment
  | list (elements : List Document)
  /-- Values by name; names are distinct. -/
  | table (entries : List (String × Document))

namespace Document

instance : Inhabited Document := ⟨absent⟩

def find? (entries : List (String × Document)) (name : String) : Option Document :=
  (entries.find? fun entry => entry.1 = name).map Prod.snd

end Document

end HttpServer
