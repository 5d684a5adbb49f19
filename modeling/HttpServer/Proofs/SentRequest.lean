import HttpServer.Body.Framing
import HttpServer.Proofs.FieldLines
import HttpServer.Response

/-!
# Requests as a client writes them

A client writes a request line, field lines, an empty line and a body. The body goes without a
field of its own when there is none, after a line with its length, or in chunks. `SentRequest` is
what the client means and `encode` is what it writes; `IsSendable` says what a client may write.
-/

namespace HttpServer

/-- A body, and how it is sent. -/
inductive SentBody where
  | absent
  | sized (octets : Bytes)
  | chunked (chunks : List Bytes)
deriving DecidableEq

namespace SentBody

def octets : SentBody → Bytes
  | .absent => []
  | .sized octets => octets
  | .chunked chunks => chunks.flatten

/-- The field line that says how the body is sent. -/
def framingLines : SentBody → List (Bytes × Bytes)
  | .absent => []
  | .sized octets => [(Bytes.ascii "Content-Length", Numeral.decimal octets.length)]
  | .chunked _ => [(Bytes.ascii "Transfer-Encoding", Framing.chunkedCoding)]

def sizeLine (size : Nat) : Bytes := Numeral.hexadecimal size ++ Bytes.lineEnd

def encodeChunk (chunk : Bytes) : Bytes := sizeLine chunk.length ++ (chunk ++ Bytes.lineEnd)

def encodeChunks (chunks : List Bytes) : Bytes :=
  chunks.flatMap encodeChunk ++ (sizeLine 0 ++ Bytes.lineEnd)

def chunks : SentBody → List Bytes
  | .chunked chunks => chunks
  | _ => []

def sizeLines : SentBody → List Bytes
  | .chunked chunks => chunks.map (fun chunk => sizeLine chunk.length) ++ [sizeLine 0]
  | _ => []

def encode : SentBody → Bytes
  | .absent => []
  | .sized octets => octets
  | .chunked chunks => encodeChunks chunks

end SentBody

/-- A request to be sent. The line that says how the body is sent stands between other lines. -/
structure SentRequest where
  method : Bytes
  target : Bytes
  version : Version
  before : List (Bytes × Bytes) := []
  body : SentBody := .absent
  after : List (Bytes × Bytes) := []
deriving DecidableEq

namespace SentRequest

def lines (sent : SentRequest) : List (Bytes × Bytes) :=
  sent.before ++ sent.body.framingLines ++ sent.after

def requestLine (sent : SentRequest) : Bytes :=
  sent.method ++ Bytes.space :: (sent.target ++ Bytes.space :: (sent.version.wireText ++
    Bytes.lineEnd))

def encodeHead (sent : SentRequest) : Bytes :=
  sent.requestLine ++ (sent.lines.flatMap (fun line => Response.fieldLine line.1 line.2) ++
    Bytes.lineEnd)

def encode (sent : SentRequest) : Bytes := sent.encodeHead ++ sent.body.encode

/-- A run of one or more token characters. -/
def IsToken (text : Bytes) : Prop := text ≠ [] ∧ ∀ byte ∈ text, Bytes.isToken byte = true

/-- A field line with a token for its name, and with a value that has no control characters and no
blanks around it. -/
structure IsWritable (line : Bytes × Bytes) : Prop where
  token : IsToken line.1
  legal : FieldValue.isLegal line.2 = true
  trimmed : line.2.trim = line.2

/-- A field line that says nothing about the body. -/
structure IsFreeLine (line : Bytes × Bytes) : Prop extends IsWritable line where
  noLength : line.1.lowered ≠ FieldName.contentLength.text
  noCoding : line.1.lowered ≠ FieldName.transferEncoding.text

/-- A request that follows the grammar. -/
structure IsWellFormed (sent : SentRequest) : Prop where
  method : IsToken sent.method
  /-- The target is a path with an optional query, in ASCII and without a fragment. -/
  path : sent.target.head? = some Target.slash
  ascii : ∀ byte ∈ sent.target, byte < 0x80
  noFragment : Target.numberSign ∉ sent.target
  accepted : ∃ target, Target.parse sent.target = .ok target
  version : sent.version = .http10 ∨ sent.version = .http11
  few : sent.lines.length ≤ HeadLines.maximumFields
  free : ∀ line ∈ sent.before ++ sent.after, IsFreeLine line
  chunks : ∀ chunk ∈ sent.body.chunks, chunk ≠ []

/-- What a client may write. A delete character passes for a part of a path but cannot stand in a
request line, and a name can be too long for a field. -/
structure IsSendable (sent : SentRequest) : Prop extends IsWellFormed sent where
  noDelete : 0x7F ∉ sent.target
  short : ∀ line ∈ sent.before ++ sent.after, line.1.length ≤ FieldName.maximumLength

/-- The request keeps to the bounds of the reader and leaves memory for twice its octets. -/
structure Within (limits : Limits) (memory : Memory) (sent : SentRequest) : Prop where
  head : sent.encodeHead.length ≤ limits.head
  sizeLines : ∀ line ∈ sent.body.sizeLines, line.length ≤ limits.head
  body : sent.body.octets.length ≤ limits.body
  room : 2 * sent.encode.length + ReadBuffer.readRoom < memory.size

instance (text : Bytes) : Decidable (IsToken text) :=
  decidable_of_iff (text ≠ [] ∧ text.all Bytes.isToken = true) (by
    rw [IsToken, List.all_eq_true])

instance (line : Bytes × Bytes) : Decidable (IsFreeLine line) :=
  decidable_of_iff (IsToken line.1 ∧ FieldValue.isLegal line.2 = true ∧ line.2.trim = line.2 ∧
      line.1.lowered ≠ FieldName.contentLength.text ∧
      line.1.lowered ≠ FieldName.transferEncoding.text)
    ⟨fun ⟨token, legal, trimmed, noLength, noCoding⟩ =>
        ⟨⟨token, legal, trimmed⟩, noLength, noCoding⟩,
      fun ⟨⟨token, legal, trimmed⟩, noLength, noCoding⟩ =>
        ⟨token, legal, trimmed, noLength, noCoding⟩⟩

instance (text : Bytes) : Decidable (∃ target, Target.parse text = .ok target) :=
  match parsed : Target.parse text with
  | .ok target => isTrue ⟨target, rfl⟩
  | .error _ => isFalse fun ⟨_, accepted⟩ => by simp at accepted

instance (sent : SentRequest) : Decidable sent.IsSendable :=
  decidable_of_iff (IsToken sent.method ∧ sent.target.head? = some Target.slash ∧
      sent.target.all (· < 0x80) = true ∧ Target.numberSign ∉ sent.target ∧
      (∃ target, Target.parse sent.target = .ok target) ∧
      (sent.version = .http10 ∨ sent.version = .http11) ∧
      sent.lines.length ≤ HeadLines.maximumFields ∧
      (∀ line ∈ sent.before ++ sent.after, IsFreeLine line) ∧
      (∀ chunk ∈ sent.body.chunks, chunk ≠ []) ∧ 0x7F ∉ sent.target ∧
      ∀ line ∈ sent.before ++ sent.after, line.1.length ≤ FieldName.maximumLength)
    ⟨fun ⟨method, path, ascii, noFragment, accepted, version, few, free, chunks, noDelete, short⟩ =>
        ⟨⟨method, path, by simpa using ascii, noFragment, accepted, version, few, free, chunks⟩,
          noDelete, short⟩,
      fun ⟨⟨method, path, ascii, noFragment, accepted, version, few, free, chunks⟩, noDelete,
          short⟩ =>
        ⟨method, path, by simpa using ascii, noFragment, accepted, version, few, free, chunks,
          noDelete, short⟩⟩

instance (limits : Limits) (memory : Memory) (sent : SentRequest) :
    Decidable (sent.Within limits memory) :=
  decidable_of_iff (sent.encodeHead.length ≤ limits.head ∧
      (∀ line ∈ sent.body.sizeLines, line.length ≤ limits.head) ∧
      sent.body.octets.length ≤ limits.body ∧
      2 * sent.encode.length + ReadBuffer.readRoom < memory.size)
    ⟨fun ⟨head, sizeLines, body, room⟩ => ⟨head, sizeLines, body, room⟩,
      fun ⟨head, sizeLines, body, room⟩ => ⟨head, sizeLines, body, room⟩⟩

/-- The request that has been read is the one that was sent. -/
structure Reads (sent : SentRequest) (request : Request) : Prop where
  method : request.method = sent.method
  target : request.target.render = sent.target
  version : request.version = sent.version
  /-- Every name has the values of its lines, in order. -/
  fields : ∀ name, (request.fields.getAll name).map FieldValue.text =
    Fields.valuesOf name sent.lines
  body : request.body = sent.body.octets

end SentRequest

end HttpServer
