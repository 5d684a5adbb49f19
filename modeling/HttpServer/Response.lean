import HttpServer.Outlet
import HttpServer.Request
import HttpServer.Status

/-!
# Responses and their wire format

A response has its whole body at hand, so its length is always known and chunked framing is never
used: a transfer coding set by anyone is left out, and the length of the body is added where a body
is allowed and nobody has set one. No body is written for a request that asked for the head only,
nor for a status that allows none.
-/

namespace HttpServer

structure Response where
  status : Status := .ok
  version : Version := .http11
  fields : Fields := .empty
  body : Bytes := []
deriving DecidableEq

namespace Response

/-! ## Making -/

def plainText : FieldValue := ⟨Bytes.ascii "text/plain; charset=utf-8", by decide⟩

def text (status : Status) (body : Bytes) : Response where
  status := status
  fields := Fields.empty.insert .contentType plainText
  body := body

def notFound : Response := text .notFound (Bytes.ascii "Not Found")

/-- The value that announces a further request on the connection. -/
def keepAliveValue : FieldValue := ⟨Bytes.ascii "keep-alive", by decide⟩

/-- The value that announces the end of the connection. -/
def closeValue : FieldValue := ⟨Bytes.ascii "close", by decide⟩

/-- Tells the client whether the connection survives the response. -/
def withKeepAlive (response : Response) (keepAlive : Bool) : Response :=
  let value := if keepAlive then keepAliveValue else closeValue
  { response with fields := response.fields.insert .connection value }

/-! ## Encoding -/

def statusLine (response : Response) : Bytes :=
  response.version.wireText ++ [Bytes.space] ++ response.status.digits ++ [Bytes.space]
    ++ response.status.reasonText ++ Bytes.lineEnd

def fieldLine (name value : Bytes) : Bytes :=
  name ++ Bytes.ascii ": " ++ value ++ Bytes.lineEnd

/-- Whether the length of the body has to be added to the head. -/
def needsLength (response : Response) : Bool :=
  response.status.allowsBody && !response.fields.contains .contentLength

/-- The lines of the head after the status line: the fields without transfer codings, and the
length when it has to be added. -/
def headLines (response : Response) : List (Bytes × Bytes) :=
  (response.fields.lines.filter fun line => line.1 != FieldName.transferEncoding).map
      (fun line => (line.1.text, line.2.text))
    ++ if response.needsLength then
        [(FieldName.contentLength.text, Numeral.decimal response.body.length)]
      else []

/-- The head of a response. -/
def encodeHead (response : Response) : Bytes :=
  response.statusLine ++ response.headLines.flatMap (fun line => fieldLine line.1 line.2)
    ++ Bytes.lineEnd

/-- Whether the body is written, given whether the request asked for the head only. -/
def writesBody (response : Response) (headOnly : Bool) : Bool :=
  !headOnly && response.status.allowsBody

def encode (response : Response) (headOnly : Bool) : Bytes :=
  response.encodeHead ++ if response.writesBody headOnly then response.body else []

/-! ## Writing -/

/-- Writes a response: the head, then the body where one is written. -/
def write (response : Response) (headOnly : Bool) (outlet : Outlet) :
    Except WriteFailure Unit × Outlet :=
  match outlet.write response.encodeHead with
  | (.error failure, outlet) => (.error failure, outlet)
  | (.ok (), outlet) =>
    if response.writesBody headOnly then outlet.write response.body else (.ok (), outlet)

end Response

end HttpServer
