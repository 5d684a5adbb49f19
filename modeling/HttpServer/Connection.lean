import HttpServer.Config
import HttpServer.KeepAlive
import HttpServer.Log
import HttpServer.Pipeline
import HttpServer.Request.Decode

/-!
# Serving one connection

A connection alternates between reading a request, having the pipeline answer it, and writing the
answer. The next request is not read before the last response is written. The connection goes on
only if the request asked for it and the response could be written; otherwise it closes. A fault of
the pipeline or of the program ends it on the spot.

`Connection.step` does one of these things. What becomes visible outside, apart from the octets on
the wire, is recorded as events in the order in which they happen.
-/

namespace HttpServer

structure Service where
  pipeline : Pipeline
  limits : Limits := {}
  /-- The capacity with which a read buffer starts. -/
  bufferCapacity : Nat := 8192
  memory : Memory := .largest
  /-- What the log entries carry. -/
  logPrefix : String := ""

def Service.ofConfig (config : Config) (logPrefix : String) (pipeline : Pipeline)
    (memory : Memory := .largest) : Service where
  pipeline := pipeline
  memory := memory
  limits := ⟨config.connection.maximumHead.toNat, config.connection.maximumBody.toNat⟩
  bufferCapacity := config.connection.readBuffer.toNat
  logPrefix := logPrefix

inductive ConnectionEvent where
  | logged (entry : LogEntry)
  | counted (metric : Metric)
  /-- The pipeline has been given a request. -/
  | submitted (context : Context)
  /-- The observer has been told of a request. -/
  | completed (context : Context)

/-- What a connection does next. -/
inductive Phase where
  | reading
  | dispatching (context : Context) (keepAlive : Bool)
  | writing (context : Context) (response : Response) (keepAlive : Bool)
  | closing
  | closed
  /-- A fault has ended it. -/
  | collapsed (fault : Fault)

def Phase.isOver : Phase → Bool
  | .closed | .collapsed _ => true
  | _ => false

/-- Whether the process has ended with the connection. -/
def Phase.endsProcess : Phase → Bool
  | .collapsed fault => fault.endsProcess
  | _ => false

/-- One connection. -/
structure Connection where
  info : ConnectionInfo
  reader : Reader
  outlet : Outlet := {}
  clock : Clock := {}
  /-- When the connection was accepted. -/
  startedAt : Instant := 0
  requests : Nat := 0
  phase : Phase := .reading
  events : List ConnectionEvent := []

namespace Connection

/-! ## Events -/

def emit (connection : Connection) (event : ConnectionEvent) : Connection :=
  { connection with events := connection.events ++ [event] }

def log (connection : Connection) (service : Service) (level : LogLevel) (message : String)
    (fields : List LogField) : Connection :=
  let prefixField : LogField := ⟨"prefix", service.logPrefix, false⟩
  connection.emit (.logged ⟨level, .connection, message, prefixField :: fields⟩)

def peerField (connection : Connection) : LogField :=
  ⟨"peer_addr", connection.info.peer.render, false⟩

def idField (connection : Connection) : LogField :=
  ⟨"connection_id", connection.info.id.text, false⟩

/-- The requests that the pipeline has been given, in order. -/
def submitted (connection : Connection) : List Context :=
  connection.events.filterMap fun event =>
    match event with
    | .submitted context => some context
    | _ => none

/-- The requests that the observer has been told of, in order. -/
def completed (connection : Connection) : List Context :=
  connection.events.filterMap fun event =>
    match event with
    | .completed context => some context
    | _ => none

def metrics (connection : Connection) : List Metric :=
  connection.events.filterMap fun event =>
    match event with
    | .counted metric => some metric
    | _ => none

/-! ## Reading -/

/-- The context of a request that has just been read. The first request of a connection also
accounts for setting it up. -/
def contextOf (connection : Connection) (request : Request) (began : Instant) : Context :=
  let clock := connection.clock.tick
  let timeline : Timeline := { startedAt := began, clock }
  { request
    connection := connection.info
    sequence := connection.requests + 1
    timeline := timeline.append Timeline.initStage began clock.time }

def accept (connection : Connection) (request : Request) (began : Instant) : Connection :=
  let context := connection.contextOf request began
  { connection with
    clock := context.timeline.clock
    requests := connection.requests + 1
    phase := .dispatching context request.fields.askKeepAlive }

def refuse (connection : Connection) (service : Service) (error : DecodeError) : Connection :=
  let connection :=
    if error.meansPeerLeft then
      connection.log service .trace "Peer closed connection"
        [connection.idField, ⟨"reason", error.message, false⟩]
    else
      connection.log service .error "ERROR reading request"
        [connection.peerField, connection.idField, ⟨"error", error.message, false⟩]
  { connection with phase := .closing }

def read (connection : Connection) (service : Service) : Connection :=
  let clock := if connection.requests = 0 then connection.clock else connection.clock.tick
  let began := if connection.requests = 0 then connection.startedAt else clock.time
  let (outcome, reader) := connection.reader.readRequest service.limits
  let connection := { connection with clock, reader }
  match outcome with
  | .ok request => connection.accept request began
  | .error (.refused error) => connection.refuse service error
  | .error (.fault fault) => { connection with phase := .collapsed fault }

/-! ## Answering -/

/-- Gives a request to the pipeline. A request that nothing answers gets the response for that. -/
def dispatch (connection : Connection) (service : Service) (context : Context)
    (keepAlive : Bool) : Connection :=
  let connection := connection.emit (.submitted context)
  match service.pipeline.execute context with
  | .error fault => { connection with phase := .collapsed fault }
  | .ok (answer, context) =>
    { connection with
      clock := context.timeline.clock
      phase := .writing context (answer.getD .notFound) keepAlive }

/-! ## Writing -/

/-- Tells the observer of a request whose response has been written. A fault of the observer is
its own affair. -/
def complete (connection : Connection) (service : Service) (context : Context) : Connection :=
  match service.pipeline.observer with
  | none => connection
  | some observer =>
    let counted := (observer.observe context).toOption.getD []
    counted.foldl (fun connection metric => connection.emit (.counted metric))
      (connection.emit (.completed context))

def logServed (connection : Connection) (service : Service) (context : Context)
    (response : Response) : Connection :=
  connection.log service .debug "Request served"
    [⟨"request_id", context.id, false⟩, connection.idField,
      ⟨"method", context.request.method.toText, false⟩,
      ⟨"path", context.request.target.path.toText, false⟩,
      ⟨"status", toString response.status.code, false⟩,
      ⟨"elapsed", Text.milliseconds context.timeline.elapsed, false⟩]

def afterWrite (connection : Connection) (service : Service) (context : Context)
    (response : Response) (keepAlive : Bool) : Except WriteFailure Unit → Connection
  | .ok () =>
    let connection := (connection.logServed service context response).complete service context
    { connection with phase := if keepAlive then .reading else .closing }
  | .error failure =>
    let connection := connection.log service .error "ERROR writing response"
      [connection.peerField, ⟨"request_id", context.id, false⟩,
        ⟨"error", failure.message, false⟩]
    { connection with phase := .closing }

/-- Writes a response. The body of the request is released first, and the response says whether
the connection survives it. -/
def write (connection : Connection) (service : Service) (context : Context)
    (response : Response) (keepAlive : Bool) : Connection :=
  let context := context.startStage Timeline.writeStage
  let headOnly := context.request.asksHeadOnly
  let context := context.discardBody
  let response := response.withKeepAlive keepAlive
  let (outcome, outlet) := response.write headOnly connection.outlet
  let context := context.finish
  let connection := { connection with outlet, clock := context.timeline.clock }
  (connection.emit (.counted (.responded response.status.code))).afterWrite service context
    response keepAlive outcome

/-! ## Closing -/

def close (connection : Connection) (service : Service) : Connection :=
  let connection := connection.log service .debug "Connection finished"
    [connection.peerField, connection.idField,
      ⟨"requests", toString connection.requests, false⟩]
  { connection with phase := .closed }

/-! ## Setting up -/

inductive Handshake where
  /-- The listener is not secure. -/
  | plain
  | secured
  /-- The peer went away before it was done. -/
  | peerLeft
  | failed (message : String)
deriving DecidableEq, Repr

def refusalEntry (service : Service) (peer : SocketAddress) (level : LogLevel) (message : String)
    (fields : List LogField) : ConnectionEvent :=
  .logged ⟨level, .connection, message,
    ⟨"prefix", service.logPrefix, false⟩ :: ⟨"peer_addr", peer.render, false⟩ :: fields⟩

/-- Sets up a connection whose octets come from a stream, or says what is logged when that fails. -/
def start (service : Service) (id : ConnectionId) (peer listener : SocketAddress)
    (handshake : Handshake) (stream : Stream) : Except ConnectionEvent Connection :=
  let refused := refusalEntry service peer
  match handshake with
  | .peerLeft => .error (refused .debug "Peer left during TLS handshake" [])
  | .failed message =>
    .error (refused .error "TLS handshake failed" [⟨"error", message, false⟩])
  | .plain | .secured =>
    match ReadBuffer.ofCapacity service.bufferCapacity service.memory with
    | .error error => .error (refused .error "Read buffer fail" [⟨"error", error.message, false⟩])
    | .ok buffer =>
      .ok { info := { id, peer, listener, secure := handshake = .secured }
            reader := { buffer, stream } }

/-! ## Running -/

def step (connection : Connection) (service : Service) : Connection :=
  match connection.phase with
  | .reading => connection.read service
  | .dispatching context keepAlive => connection.dispatch service context keepAlive
  | .writing context response keepAlive => connection.write service context response keepAlive
  | .closing => connection.close service
  | .closed | .collapsed _ => connection

/-- Takes at most `most` steps. -/
def runUpTo (service : Service) : (most : Nat) → Connection → Connection
  | 0, connection => connection
  | most + 1, connection =>
    if connection.phase.isOver then connection else runUpTo service most (connection.step service)

/-- More steps than a connection can take: a request takes three, and at least one octet. -/
def stepBound (connection : Connection) : Nat := 3 * connection.reader.unused.length + 5

def run (connection : Connection) (service : Service) : Connection :=
  runUpTo service connection.stepBound connection

/-! ## Time -/

/-- The connection at a time, at which it stands still. -/
def atTime (connection : Connection) (time : Instant) : Connection :=
  let onContext (context : Context) := context.onTimeline fun timeline =>
    { timeline with clock := timeline.clock.stopAt time }
  { connection with
    clock := connection.clock.stopAt time
    phase := match connection.phase with
      | .dispatching context keepAlive => .dispatching (onContext context) keepAlive
      | .writing context response keepAlive => .writing (onContext context) response keepAlive
      | phase => phase }

/-! ## Running while the peer may send more -/

def receive (connection : Connection) (delivery : Delivery) : Connection :=
  let reader := connection.reader
  { connection with reader := { reader with stream := reader.stream ++ [delivery] } }

/-- Whether nothing can be done before the peer sends more: the next thing to do is a read, and it
would have to wait. -/
def awaitsPeer (connection : Connection) (service : Service) : Bool :=
  match connection.phase with
  | .reading =>
    let waiting := connection.receive (.failure .wouldBlock)
    match waiting.reader.readRequest service.limits with
    | (.error (.refused (.readFailed .wouldBlock)), _) => true
    | _ => false
  | _ => false

/-- Takes at most `most` steps before the connection is over or awaits its peer. -/
def advanceUpTo (service : Service) : (most : Nat) → Connection → Connection
  | 0, connection => connection
  | most + 1, connection =>
    if connection.phase.isOver || connection.awaitsPeer service then connection
    else advanceUpTo service most (connection.step service)

/-- Serves a connection as far as what its peer has sent allows. -/
def advance (connection : Connection) (service : Service) : Connection :=
  advanceUpTo service connection.stepBound connection

end Connection

end HttpServer
