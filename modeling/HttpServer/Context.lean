import HttpServer.Address
import HttpServer.Request
import HttpServer.Timeline

/-!
# What a pipeline knows about a request

The context of a request carries the request itself, its place on its connection, and the timeline
of the stages it passed. Stages may change the request and add to the timeline.
-/

namespace HttpServer

/-- The number of a connection, counted from one in the order they were accepted. -/
structure ConnectionId where
  number : Nat
deriving DecidableEq, Repr

def ConnectionId.text (id : ConnectionId) : String := "conn-" ++ toString id.number

structure ConnectionInfo where
  id : ConnectionId
  peer : SocketAddress
  listener : SocketAddress
  secure : Bool := false
deriving DecidableEq, Repr

structure Context where
  request : Request
  connection : ConnectionInfo
  sequence : Nat
  timeline : Timeline

namespace Context

/-- Hexadecimal digits of a number, filled with zeros to a width. -/
def hexadecimal (width number : Nat) : String :=
  let digits := Nat.toDigits 16 number
  String.ofList (List.replicate (width - digits.length) '0' ++ digits)

/-- What names a request in diagnostics: the numbers of its connection and of its place there, in
the form of a unique identifier of the fourth version. -/
def id (context : Context) : String :=
  let connection := context.connection.id.number
  String.intercalate "-"
    [hexadecimal 8 (connection / 0x10000), hexadecimal 4 (connection % 0x10000), "4000", "8000",
      hexadecimal 12 context.sequence]

def onTimeline (context : Context) (change : Timeline → Timeline) : Context :=
  { context with timeline := change context.timeline }

def startStage (context : Context) (name : String) : Context :=
  context.onTimeline (·.start name)

def finishStage (context : Context) : Context := context.onTimeline Timeline.finishStage

def finish (context : Context) : Context := context.onTimeline Timeline.finish

def withBody (context : Context) (body : Bytes) : Context :=
  { context with request := { context.request with body } }

/-- Releases the body, which is not needed once there is a response. -/
def discardBody (context : Context) : Context := context.withBody []

end Context

end HttpServer
