import HttpServer.Fields
import HttpServer.Request.Target

/-!
# Requests

A request is a method, a target, a protocol version, header fields and a body. Methods are tokens
and keep their letter case, so `HEAD` is the only spelling of the method whose responses carry no
body.
-/

namespace HttpServer

/-- A protocol version. Requests have 1.0 or 1.1; a response may be stamped with any. -/
inductive Version where
  | http09
  | http10
  | http11
  | http2
  | http3
deriving DecidableEq, Repr

/-- The text of a version on the wire, where everything but 1.0 is written as 1.1. -/
def Version.wireText : Version → Bytes
  | .http10 => Bytes.ascii "HTTP/1.0"
  | _ => Bytes.ascii "HTTP/1.1"

structure RequestHead where
  method : Bytes
  target : Target
  version : Version
  fields : Fields
deriving DecidableEq

structure Request extends RequestHead where
  body : Bytes
deriving DecidableEq

def Request.headMethod : Bytes := Bytes.ascii "HEAD"

/-- Whether the request asks for a response without its body. -/
def Request.asksHeadOnly (request : Request) : Bool := request.method == headMethod

/-- A head with its body. -/
def RequestHead.withBody (head : RequestHead) (body : Bytes) : Request := { head with body }

end HttpServer
