import HttpServer.Body.Chunked

/-!
# How long a request body is

The fields of a head say how its body is framed. A transfer coding decides alone when there is one,
and then chunked must be the last coding; otherwise the content length decides; with neither there
is no body. Only the first line of each of the two fields is looked at.
-/

namespace HttpServer

inductive Framing where
  | absent
  | sized (length : Nat)
  | chunked
deriving DecidableEq, Repr

namespace Framing

def chunkedCoding : Bytes := Bytes.ascii "chunked"

/-- Whether a list of codings ends with chunked. -/
def endsInChunked (codings : Bytes) : Bool :=
  match (Bytes.splitAtCommas codings).getLast? with
  | some last => Bytes.sameLetters last.trim chunkedCoding
  | none => false

/-- The length a textual value spells, as far as a machine word reaches. -/
def lengthOf (value : FieldValue) : Option Nat := do
  let text ← value.textual?
  (Numeral.readNatural (wordSize - 1) text.trim).toOption

def ofFields (fields : Fields) : Except DecodeError Framing :=
  match fields.get? .transferEncoding with
  | some value =>
    match value.textual? with
    | some codings =>
      if endsInChunked codings then .ok .chunked else .error .unsupportedTransferEncoding
    | none => .error .unsupportedTransferEncoding
  | none =>
    match fields.get? .contentLength with
    | none => .ok .absent
    | some value =>
      match lengthOf value with
      | none => .error .invalidContentLength
      | some 0 => .ok .absent
      | some length => .ok (.sized length)

def scanSized (limits : Limits) (length : Nat) (bytes : Bytes) : Attempt Bytes :=
  if limits.body < length then .refused (.bodyTooLarge limits.body)
  else if bytes.length < length then .wait length
  else .found (bytes.take length) (bytes.drop length)

def scanBody (limits : Limits) (framing : Framing) (bytes : Bytes) : Attempt Bytes :=
  match framing with
  | .absent => .found [] bytes
  | .sized length => scanSized limits length bytes
  | .chunked => Chunked.scan limits bytes

end Framing

end HttpServer
