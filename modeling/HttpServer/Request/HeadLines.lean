import HttpServer.Bytes.Utf8
import HttpServer.Request
import HttpServer.Scan

/-!
# The lines of a request head

A head is a request line, field lines and an empty line; blank lines before the request line are
skipped. Every line may end in a line feed alone. `HeadLines.scan` reads the lines, and stops at the
first octet that no head could have there. `RequestHead.ofLines` then reads the target and the field
names, which can fail on grounds of their own.
-/

namespace HttpServer

inductive HeadLinesError where
  | token
  | newLine
  | version
  | fieldName
  | fieldValue
  | tooManyFields
deriving DecidableEq, Repr

def HeadLinesError.message : HeadLinesError → String
  | .token => "invalid token"
  | .newLine => "invalid new line"
  | .version => "invalid HTTP version"
  | .fieldName => "invalid header name"
  | .fieldValue => "invalid header value"
  | .tooManyFields => "too many headers"

/-- The lines of a head, with names and values as they were written. -/
structure HeadLines where
  method : Bytes
  target : Bytes
  version : Version
  fields : List (Bytes × Bytes)
deriving DecidableEq

namespace HeadLines

abbrev Scanned (α : Type) := Scan HeadLinesError α

/-- The most field lines a head may have. -/
def maximumFields : Nat := 64

/-! ## Line endings -/

/-- Reads the end of a line; `error` is what any other octet means there. -/
def scanLineEnd (error : HeadLinesError) : Bytes → Scanned Unit
  | [] => .partly
  | first :: rest =>
    if first == Bytes.lineFeed then .found () rest
    else if first == Bytes.carriageReturn then
      match rest with
      | [] => .partly
      | second :: tail => if second == Bytes.lineFeed then .found () tail else .wrong error
    else .wrong error

def skipBlankLines : Bytes → Scanned Unit
  | [] => .partly
  | first :: rest =>
    if first == Bytes.lineFeed then skipBlankLines rest
    else if first == Bytes.carriageReturn then
      match rest with
      | [] => .partly
      | second :: tail => if second == Bytes.lineFeed then skipBlankLines tail else .wrong .newLine
    else .found () (first :: rest)

/-! ## Request line -/

def scanMethod (bytes : Bytes) : Scanned Bytes :=
  let method := bytes.takeWhile Bytes.isToken
  match bytes.dropWhile Bytes.isToken with
  | [] => .partly
  | mark :: rest =>
    if mark == Bytes.space && !method.isEmpty then .found method rest else .wrong .token

def scanTarget (bytes : Bytes) : Scanned Bytes :=
  let target := bytes.takeWhile Bytes.isTarget
  match bytes.dropWhile Bytes.isTarget with
  | [] => .partly
  | mark :: rest =>
    if mark == Bytes.space && !target.isEmpty && Utf8.isWellFormed target then .found target rest
    else .wrong .token

def version10 : Bytes := Bytes.ascii "HTTP/1.0"
def version11 : Bytes := Bytes.ascii "HTTP/1.1"
def versionStart : Bytes := Bytes.ascii "HTTP/1."

/-- Reads a version. Fewer octets than a version has are judged by what both versions share. -/
def scanVersion (bytes : Bytes) : Scanned Version :=
  let text := bytes.take 8
  if text.length < 8 then
    if text == versionStart.take text.length then .partly else .wrong .version
  else if text == version10 then .found .http10 (bytes.drop 8)
  else if text == version11 then .found .http11 (bytes.drop 8)
  else .wrong .version

/-! ## Field lines -/

/-- Reads a field line: a name, a colon, and a value without the blanks around it. -/
def scanField (bytes : Bytes) : Scanned (Bytes × Bytes) :=
  let name := bytes.takeWhile Bytes.isToken
  match bytes.dropWhile Bytes.isToken with
  | [] => .partly
  | mark :: rest =>
    if mark == Target.colon && !name.isEmpty then
      let content := rest.dropWhile Bytes.isBlank
      let value := content.takeWhile Bytes.isFieldValue
      (scanLineEnd .fieldValue (content.dropWhile Bytes.isFieldValue)).map fun _ =>
        (name, Bytes.trimRight value)
    else .wrong .fieldName

/-- Reads field lines through the empty line that ends the head. Past `room` lines, one more whole
line is one too many. -/
def scanFields : Nat → Bytes → Scanned (List (Bytes × Bytes))
  | room, bytes =>
    match bytes with
    | [] => .partly
    | first :: _ =>
      if first == Bytes.lineFeed || first == Bytes.carriageReturn then
        (scanLineEnd .newLine bytes).map fun _ => []
      else
        match scanField bytes with
        | .found line rest =>
          match room with
          | 0 => .wrong .tooManyFields
          | room + 1 => (scanFields room rest).map (line :: ·)
        | .partly => .partly
        | .wrong error => .wrong error

def scan (bytes : Bytes) : Scanned HeadLines :=
  (skipBlankLines bytes).andThen fun _ rest =>
  (scanMethod rest).andThen fun method rest =>
  (scanTarget rest).andThen fun target rest =>
  (scanVersion rest).andThen fun version rest =>
  (scanLineEnd .newLine rest).andThen fun _ rest =>
  (scanFields maximumFields rest).map fun fields => { method, target, version, fields }

end HeadLines

/-! ## From lines to a head -/

inductive HeadError where
  | target (error : TargetError)
  | fieldName
  | fieldValue
deriving DecidableEq, Repr

def HeadError.message : HeadError → String
  | .target error => error.message
  | .fieldName => FieldName.refusal
  | .fieldValue => "failed to parse header value"

def Fields.appendLine (fields : Fields) (line : Bytes × Bytes) : Except HeadError Fields :=
  match FieldName.parse line.1, FieldValue.parse line.2 with
  | none, _ => .error .fieldName
  | some _, none => .error .fieldValue
  | some name, some value => .ok (fields.append name value)

/-- The head that lines spell: the target is read first, then the fields in order. -/
def RequestHead.ofLines (lines : HeadLines) : Except HeadError RequestHead := do
  let target ← (Target.parse lines.target).mapError .target
  let fields ← lines.fields.foldlM Fields.appendLine .empty
  .ok { method := lines.method, target, version := lines.version, fields }

end HttpServer
