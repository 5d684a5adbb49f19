import HttpServer.Rehearsal

/-!
# All connections of a server

The handlers of a server run side by side. Each takes its next step when its turn comes; between
two of its steps others take theirs, connections are accepted, and shutdown is asked for. A crowd is
an accept loop with the handlers of all that it has accepted. `Crowd.step` takes one step of one of
them, where it is possible. All of them share one process, and none takes a step once it has ended.
-/

namespace HttpServer

structure Arrival where
  peer : SocketAddress
  listener : SocketAddress
  handshake : Connection.Handshake := .plain
  /-- All that its peer will ever send. -/
  stream : Stream
  /-- The point from which its peer takes no more octets. -/
  bound : Option WriteBound := none

/-- What serves an accepted connection. -/
inductive Handler where
  | serving (connection : Connection)
  /-- The connection has not come to be. -/
  | refused (event : ConnectionEvent) (exit : HandlerExit)

namespace Handler

def isOver : Handler → Bool
  | .serving connection => connection.phase.isOver
  | .refused _ _ => true

/-- Whether the process has ended with the handler. -/
def endsProcess : Handler → Bool
  | .serving connection => connection.phase.endsProcess
  | .refused _ _ => false

/-- Whether the connection has been shut down or dropped, so that nothing is left to do but to
release the guard. -/
def hasShut (handler : Handler) : Bool := handler.isOver && !handler.endsProcess

def exit : Handler → HandlerExit
  | .serving connection => Rehearsal.exitOf connection
  | .refused _ exit => exit

/-- The handler of a connection that is accepted as the one with this number. -/
def ofArrival (service : Service) (id : ConnectionId) (arrival : Arrival) : Handler :=
  match Connection.start service id arrival.peer arrival.listener arrival.handshake
      arrival.stream with
  | .ok connection => .serving { connection with outlet := { bound := arrival.bound } }
  | .error event =>
    .refused event
      (match arrival.handshake with
        | .plain | .secured => .bufferRefused
        | .peerLeft | .failed _ => .handshakeFailed)

/-- Lets the handler take its next step at a time, if it has one. -/
def step (service : Service) (time : Instant) : Handler → Option Handler
  | .serving connection =>
    if connection.phase.isOver then none
    else some (.serving ((connection.atTime time).step service))
  | .refused _ _ => none

/-- Lets the handler of a connection take at most `most` steps with nobody else there. -/
def runUpTo (service : Service) (most : Nat) : Handler → Handler
  | .serving connection => .serving (Connection.runUpTo service most connection)
  | .refused event exit => .refused event exit

/-- Lets the handler of a connection come to its end with nobody else there. -/
def run (service : Service) : Handler → Handler
  | .serving connection => .serving (connection.run service)
  | .refused event exit => .refused event exit

end Handler

def LoopStep.isOfLoop : LoopStep → Bool
  | .accept (.ok _) | .shut _ _ | .leave _ => false
  | .accept (.error _) | .look | .requestStop | .finish => true

/-- The loop after a handler has taken a step, with which it may have shut its connection. -/
def AcceptLoop.behind (loop : AcceptLoop) (index : Nat) (handler : Handler) : Option AcceptLoop :=
  if handler.hasShut then loop.step (.shut index handler.exit) else some loop

/-- An accept loop and the handlers of all connections it has accepted, in order. -/
structure Crowd where
  loop : AcceptLoop
  handlers : List Handler := []

/-- Something that happens at once. -/
inductive CrowdStep where
  | accept (arrival : Arrival)
  /-- A handler takes its next step. -/
  | serve (handler : Nat) (time : Instant)
  /-- A handler that has shut its connection releases its guard and is gone. -/
  | leave (handler : Nat)
  /-- The accept loop takes a step of its own. -/
  | loop (next : LoopStep)

namespace Crowd

/-- Whether the process has ended. -/
def hasAborted (crowd : Crowd) : Bool := crowd.handlers.any Handler.endsProcess

/-- Takes a step of a process that goes on, if it is possible. -/
def advance (service : Service) (crowd : Crowd) : CrowdStep → Option Crowd
  | .accept arrival => do
    let handler := Handler.ofArrival service ⟨crowd.handlers.length + 1⟩ arrival
    let accepted ← crowd.loop.step (.accept (.ok ()))
    let loop ← accepted.behind crowd.handlers.length handler
    some { loop, handlers := crowd.handlers ++ [handler] }
  | .serve index time => do
    let handler ← crowd.handlers[index]?
    let next ← handler.step service time
    let loop ← crowd.loop.behind index next
    some { loop, handlers := crowd.handlers.set index next }
  | .leave index => (crowd.loop.step (.leave index)).map fun loop => { crowd with loop }
  | .loop next =>
    if next.isOfLoop then (crowd.loop.step next).map fun loop => { crowd with loop } else none

def step (service : Service) (crowd : Crowd) (next : CrowdStep) : Option Crowd :=
  if crowd.hasAborted then none else crowd.advance service next

/-- Takes steps one after the other, each of which must be possible. -/
def follow (service : Service) (crowd : Crowd) (taken : List CrowdStep) : Option Crowd :=
  taken.foldlM (step service) crowd

end Crowd

end HttpServer
