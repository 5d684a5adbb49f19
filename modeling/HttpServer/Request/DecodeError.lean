import HttpServer.IoFailure
import HttpServer.ReadBuffer
import HttpServer.Request.HeadLines

/-!
# Refused requests

Why a connection gives no further request. A peer that went away is told apart from a peer that
sent something unacceptable: the first is an ordinary end, the second is worth reporting. A fault
is neither; it ends the task in the middle of what it does, and there is one that ends the whole
process.
-/

namespace HttpServer

inductive DecodeError where
  /-- The peer went away between requests. -/
  | closed
  /-- The peer went away inside a request. -/
  | truncated
  | malformed (error : HeadLinesError)
  | invalidHead (error : HeadError)
  | headTooLarge (limit : Nat)
  | bodyTooLarge (limit : Nat)
  | invalidContentLength
  | invalidChunk
  | unsupportedTransferEncoding
  | readFailed (kind : IoFailure)
deriving DecidableEq, Repr

namespace DecodeError

def name : DecodeError → String
  | .closed => "Closed"
  | .truncated => "UnexpectedEof"
  | .malformed _ => "Malformed"
  | .invalidHead _ => "InvalidHead"
  | .headTooLarge _ => "HeadTooLarge"
  | .bodyTooLarge _ => "BodyTooLarge"
  | .invalidContentLength => "InvalidContentLength"
  | .invalidChunk => "InvalidChunk"
  | .unsupportedTransferEncoding => "UnsupportedTransferEncoding"
  | .readFailed _ => "Io"

def message : DecodeError → String
  | .closed => "connection closed by peer"
  | .truncated => "connection closed mid-request"
  | .malformed error => "malformed request: " ++ error.message
  | .invalidHead error => "invalid request head: " ++ error.message
  | .headTooLarge limit => "request head exceeds " ++ toString limit ++ " bytes"
  | .bodyTooLarge limit => "request body exceeds " ++ toString limit ++ " bytes"
  | .invalidContentLength => "invalid content-length"
  | .invalidChunk => "invalid chunked body"
  | .unsupportedTransferEncoding => "unsupported transfer-encoding"
  | .readFailed kind => "read failed: " ++ kind.message

/-- Whether the refusal only means that the peer has stopped talking. -/
def meansPeerLeft : DecodeError → Bool
  | .closed | .truncated => true
  | .readFailed kind => kind.meansPeerLeft
  | _ => false

end DecodeError

inductive Fault where
  /-- Memory that had to be there could not be reserved. -/
  | reservation (error : ReservationError)
  /-- An offset beyond the range of a machine word was used. -/
  | offsetOverflow
  /-- A stage of a pipeline failed by its own doing. -/
  | stage
deriving DecidableEq, Repr

/-- Whether a fault ends the process with all its tasks, and not the task alone that met it. Only
memory that the allocator refuses does. -/
def Fault.endsProcess : Fault → Bool
  | .reservation .allocatorRefused => true
  | .reservation .capacityOverflow | .offsetOverflow | .stage => false

inductive ReadFailure where
  | refused (error : DecodeError)
  | fault (fault : Fault)
deriving DecidableEq, Repr

/-- Bounds on what a peer may send. -/
structure Limits where
  head : Nat := 64 * 1024
  body : Nat := 8 * 1024 * 1024
deriving DecidableEq, Repr

end HttpServer
