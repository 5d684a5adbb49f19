import HttpServer.Request

/-!
# Whether a client asks to keep its connection

A connection is kept only when the request asks for it: when one of the elements of its connection
fields, which are lists with commas between the elements, is `keep-alive` in whatever letter case.
A field value that is not textual has no elements.
-/

namespace HttpServer

namespace FieldValue

/-- The element that asks to keep a connection. -/
def keepAlive : Bytes := Bytes.ascii "keep-alive"

/-- The elements of a list with commas between them, without the blanks around them. -/
def elements (value : FieldValue) : List Bytes :=
  match value.textual? with
  | some text => (Bytes.splitAtCommas text).map Bytes.trim
  | none => []

end FieldValue

/-- Whether the fields of a request ask to keep the connection. -/
def Fields.askKeepAlive (fields : Fields) : Bool :=
  (fields.getAll .connection).any fun value =>
    value.elements.any (Bytes.sameLetters FieldValue.keepAlive)

end HttpServer
