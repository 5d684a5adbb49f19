import HttpServer.Listener
import HttpServer.Log
import HttpServer.Tracker

/-!
# Accepting connections until shutdown

An accept loop takes connections one after the other and starts a handler for each. After each
accept it looks whether shutdown has been asked for; then it accepts no more, waits until every
handler has ended, and stops. Failures to accept never end it.

`AcceptLoop.step` takes one step where it is possible. Handlers, requests for shutdown and the loop
itself take their steps in any order.
-/

namespace HttpServer

inductive LoopPhase where
  | accepting
  /-- It waits for the handlers. -/
  | draining
  | stopped
deriving DecidableEq, Repr

inductive HandlerExit where
  | handshakeFailed
  | bufferRefused
  | readFailed
  | writeFailed
  | finished
  | fault
deriving DecidableEq, Repr

inductive HandlerPhase where
  | running
  /-- The connection has been shut down or dropped. -/
  | shut (exit : HandlerExit)
  /-- Its guard has been released too. -/
  | ended (exit : HandlerExit)
deriving DecidableEq, Repr

structure AcceptLoop where
  phase : LoopPhase := .accepting
  /-- Whether the loop has taken the outcome of an accept and has yet to look. -/
  looking : Bool := false
  stopRequested : Bool := false
  tracker : Tracker := {}
  /-- The handler of each accepted connection, in order. -/
  handlers : List HandlerPhase := []
  log : List LogEntry := []
  metrics : List Metric := []
  /-- What the log entries carry. -/
  logPrefix : String := ""
deriving DecidableEq, Repr

inductive LoopStep where
  /-- An accept gives a connection or fails. -/
  | accept (outcome : Except AcceptError Unit)
  /-- The loop looks whether shutdown has been asked for. -/
  | look
  | requestStop
  /-- The handler of a connection shuts it down or drops it. -/
  | shut (handler : Nat) (exit : HandlerExit)
  /-- The handler of a connection releases its guard and is gone. -/
  | leave (handler : Nat)
  /-- The loop finds that no handler is running. -/
  | finish

namespace AcceptLoop

def note (loop : AcceptLoop) (level : LogLevel) (message : String) (fields : List LogField) :
    AcceptLoop :=
  let prefixField : LogField := ⟨"prefix", loop.logPrefix, false⟩
  { loop with log := loop.log ++ [⟨level, .server, message, prefixField :: fields⟩] }

def take (loop : AcceptLoop) : Except AcceptError Unit → AcceptLoop
  | .ok () =>
    { loop with
      tracker := loop.tracker.track
      handlers := loop.handlers ++ [.running]
      metrics := loop.metrics ++ [.opened, .accepted] }
  | .error error =>
    if error.isTransient then loop
    else
      ({ loop with metrics := loop.metrics ++ [.acceptFailed] } : AcceptLoop).note .error
        "SERVER Accept Error" [⟨"error", error.message, false⟩]

/-- Accepts no more when shutdown has been asked for. -/
def look (loop : AcceptLoop) : AcceptLoop :=
  if loop.stopRequested then
    { loop.note .info "Stopped accepting, waiting for handlers"
        [⟨"active", toString loop.tracker.active, false⟩] with
      phase := .draining, looking := false }
  else { loop with looking := false }

def step (loop : AcceptLoop) : LoopStep → Option AcceptLoop
  | .accept outcome =>
    if loop.phase = .accepting ∧ loop.looking = false then
      some { loop.take outcome with looking := true }
    else none
  | .look => if loop.looking then some loop.look else none
  | .requestStop => some { loop with stopRequested := true }
  | .shut index exit =>
    if loop.handlers[index]? = some .running then
      some { loop with handlers := loop.handlers.set index (.shut exit) }
    else none
  | .leave index =>
    match loop.handlers[index]? with
    | some (.shut exit) =>
      some { loop with
        handlers := loop.handlers.set index (.ended exit)
        tracker := loop.tracker.release index
        metrics := loop.metrics ++ [.closed] }
    | _ => none
  | .finish =>
    if loop.phase = .draining ∧ loop.tracker.active = 0 then
      some { loop.note .info "All handlers finished" [] with phase := .stopped }
    else none

/-- Takes those of a list of steps that are possible when it is their turn. -/
def steps (loop : AcceptLoop) (list : List LoopStep) : AcceptLoop :=
  list.foldl (fun loop next => (loop.step next).getD loop) loop

/-- The loop of a listener, which says that it accepts connections now. -/
def start (logPrefix : String) (listener : Listener) : AcceptLoop :=
  ({ logPrefix } : AcceptLoop).note .info "Accepting connections"
    [⟨"address", listener.address.render, false⟩, ⟨"fd", toString listener.number.toInt, false⟩,
      ⟨"tls", toString listener.isSecure, false⟩,
      ⟨"accept_timeout", Text.milliseconds listener.acceptTimeout.toNat, false⟩]

/-- Gives the loop the outcome of an accept and lets it look. -/
def turn (loop : AcceptLoop) (outcome : Except AcceptError Unit) : AcceptLoop :=
  loop.steps [.accept outcome, .look]

/-- Lets an accept run into its timeout. -/
def idle (loop : AcceptLoop) : AcceptLoop := loop.turn (.error .timedOut)

/-- Asks for shutdown, and lets the loop notice it at its next look. -/
def stop (loop : AcceptLoop) : AcceptLoop := (loop.steps [.requestStop]).idle

def endHandler (loop : AcceptLoop) (handler : Nat) (exit : HandlerExit) : AcceptLoop :=
  loop.steps [.shut handler exit, .leave handler]

/-- Lets the loop stop if it can. -/
def settle (loop : AcceptLoop) : AcceptLoop := loop.steps [.finish]

end AcceptLoop

end HttpServer
