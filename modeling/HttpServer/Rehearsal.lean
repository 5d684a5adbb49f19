import HttpServer.AcceptLoop
import HttpServer.Connection
import HttpServer.Response.Framing
import HttpServer.Server

/-!
# A server with its clients

A rehearsal runs a server together with clients that are told what to do. It goes cue by cue:
after each cue the handlers get as far as they can, so that what a client sees never depends on who
is faster. Everything that the handlers log and count goes into the books of the accept loop, in
the order in which it happens.
-/

namespace HttpServer

inductive Cue where
  /-- A new client connects; it speaks the secure protocol or not. -/
  | connect (secure : Bool)
  | send (client : Nat) (octets : Bytes)
  /-- A client waits for one response. -/
  | receive (client : Nat) (headOnly : Bool)
  /-- A client sends no more, reads to the end, and leaves. -/
  | finish (client : Nat)
  | stop
  /-- Someone waits until no handler runs. -/
  | idle
  /-- Someone waits until the server has stopped. -/
  | join
deriving DecidableEq

inductive Seen where
  | connected (client : Nat) (isOpen : Bool)
  | sent
  | response (octets : Bytes) (active : Nat)
  /-- The server has closed the connection; these octets were left. -/
  | closed (octets : Bytes) (active : Nat)
  /-- The server no longer accepts, and has stopped or not; nobody knows once it has been joined. -/
  | draining (stopped : Option Bool)
  | idle (isIdle : Bool) (active : Nat)
  | joined (stopped : Bool)
  /-- There is no such client, or the server has been joined before. -/
  | gone
deriving DecidableEq

inductive Line where
  /-- Security has not been agreed on. -/
  | shaking
  | serving (connection : Connection)
  /-- The server is done with it, after writing these octets. -/
  | over (wire : Bytes)

/-- The octets that the server has written. -/
def Line.wire : Line → Bytes
  | .shaking => []
  | .serving connection => connection.outlet.wire
  | .over wire => wire

/-- Whether the process has ended with the handler. -/
def Line.endsProcess : Line → Bool
  | .serving connection => connection.phase.endsProcess
  | .shaking | .over _ => false

structure Client where
  /-- Which of the accepted connections it has; nothing when it came too late to be accepted. -/
  line : Option Nat
  /-- How many octets it has read. -/
  read : Nat := 0
deriving DecidableEq, Repr

/-- A server with its clients. -/
structure Rehearsal where
  service : Service
  listener : Listener
  /-- Whether clients can reach the listener. -/
  reachable : Bool := true
  /-- The clients that are cut off while the pipeline answers a request. -/
  cutOff : Context → List Nat := fun _ => []
  loop : AcceptLoop
  /-- The accepted connections, in order. -/
  lines : List Line := []
  /-- All clients there ever were, in order; nothing for one that is not there any more. -/
  clients : List (Option Client) := []
  /-- The requests that the observer has been told of. -/
  completed : List Context := []
  joined : Bool := false

namespace Rehearsal

/-! ## The server's side -/

def enter (rehearsal : Rehearsal) : ConnectionEvent → Rehearsal
  | .logged entry =>
    { rehearsal with loop := { rehearsal.loop with log := rehearsal.loop.log ++ [entry] } }
  | .counted metric =>
    { rehearsal with
      loop := { rehearsal.loop with metrics := rehearsal.loop.metrics ++ [metric] } }
  | .submitted _ => rehearsal
  | .completed context => { rehearsal with completed := rehearsal.completed ++ [context] }

/-- Puts a connection in its place and enters what it has made visible. -/
def put (rehearsal : Rehearsal) (line : Nat) (connection : Connection) : Rehearsal :=
  let quiet := { connection with events := [] }
  connection.events.foldl enter
    { rehearsal with lines := rehearsal.lines.set line (.serving quiet) }

def hangUp (rehearsal : Rehearsal) (line : Nat) (wire : Bytes) (exit : HandlerExit) : Rehearsal :=
  { rehearsal with
    lines := rehearsal.lines.set line (.over wire)
    loop := rehearsal.loop.endHandler line exit }

/-- Takes a client away without a word. What the server reads from it next fails, and so does what
it writes to it. -/
def lose (rehearsal : Rehearsal) (client : Nat) : Rehearsal :=
  match rehearsal.clients[client]? with
  | some (some ⟨some line, _⟩) =>
    let rehearsal : Rehearsal :=
      { rehearsal with clients := rehearsal.clients.set client none }
    match rehearsal.lines[line]? with
    | some (.serving connection) =>
      let connection := connection.receive (.failure .connectionReset)
      let bound : WriteBound := ⟨connection.outlet.wire.length, .system .connectionReset⟩
      let outlet := { connection.outlet with bound }
      { rehearsal with
        lines := rehearsal.lines.set line (.serving { connection with outlet }) }
    | _ => rehearsal
  | _ => rehearsal

/-- Takes away the clients that are cut off while a request is answered. -/
def loseCutOff (rehearsal : Rehearsal) : Phase → Rehearsal
  | .dispatching context _ => (rehearsal.cutOff context).foldl lose rehearsal
  | _ => rehearsal

def exitOf (connection : Connection) : HandlerExit :=
  match connection.phase with
  | .collapsed _ => .fault
  | _ => .finished

/-- Lets the handler of a connection take at most `most` steps before it has to wait. -/
def attendUpTo (line : Nat) : (most : Nat) → Rehearsal → Rehearsal
  | 0, rehearsal => rehearsal
  | most + 1, rehearsal =>
    match rehearsal.lines[line]? with
    | some (.serving connection) =>
      if connection.phase.endsProcess then rehearsal
      else if connection.phase.isOver then
        rehearsal.hangUp line connection.outlet.wire (exitOf connection)
      else if connection.awaitsPeer rehearsal.service then rehearsal
      else
        let rehearsal := rehearsal.loseCutOff connection.phase
        match rehearsal.lines[line]? with
        | some (.serving connection) =>
          attendUpTo line most (rehearsal.put line (connection.step rehearsal.service))
        | _ => rehearsal
    | _ => rehearsal

def hasAborted (rehearsal : Rehearsal) : Bool := rehearsal.lines.any Line.endsProcess

/-- Lets the handler of a connection get as far as it can. -/
def attend (rehearsal : Rehearsal) (line : Nat) : Rehearsal :=
  if rehearsal.hasAborted then rehearsal
  else
    match rehearsal.lines[line]? with
    | some (.serving connection) => attendUpTo line (connection.stepBound + 1) rehearsal
    | _ => rehearsal

/-- Changes the accept loop, as long as there is the process. -/
def onLoop (rehearsal : Rehearsal) (change : AcceptLoop → AcceptLoop) : Rehearsal :=
  if rehearsal.hasAborted then rehearsal
  else { rehearsal with loop := change rehearsal.loop }

/-- Lets all handlers and then the accept loop get as far as they can. -/
def settle (rehearsal : Rehearsal) : Rehearsal :=
  ((List.range rehearsal.lines.length).foldl attend rehearsal).onLoop AcceptLoop.settle

/-- Gives a connection one more delivery of its peer. -/
def deliver (rehearsal : Rehearsal) (line : Nat) (delivery : Delivery) : Rehearsal :=
  match rehearsal.lines[line]? with
  | some (.serving connection) =>
    { rehearsal with
      lines := rehearsal.lines.set line (.serving (connection.receive delivery)) }
  | _ => rehearsal

/-! ## Connecting -/

def peerOf (line : Nat) : SocketAddress := .short ⟨127, 0, 0, 1⟩ (50000 + line).toUInt16

def setUp (rehearsal : Rehearsal) (line : Nat) (handshake : Connection.Handshake) (wire : Bytes)
    (exit : HandlerExit) : Rehearsal :=
  match Connection.start rehearsal.service ⟨line + 1⟩ (peerOf line) rehearsal.listener.address
      handshake [] with
  | .error event => (rehearsal.enter event).hangUp line wire exit
  | .ok connection => rehearsal.put line connection

/-- Accepts a connection. A client that does not speak the secure protocol leaves the handler of a
secure listener waiting. -/
def accept (rehearsal : Rehearsal) (secure : Bool) : Rehearsal :=
  let line := rehearsal.lines.length
  let rehearsal : Rehearsal :=
    { rehearsal with
      loop := rehearsal.loop.turn (.ok ())
      lines := rehearsal.lines ++ [.shaking]
      clients := rehearsal.clients ++ [some { line := some line }] }
  if rehearsal.listener.isSecure then
    if secure then rehearsal.setUp line .secured [] .bufferRefused else rehearsal
  else rehearsal.setUp line .plain [] .bufferRefused

/-- A new client connects. A server that drains does not accept it, and one that has stopped or
whose process has ended does not even let it connect. -/
def connect (rehearsal : Rehearsal) (secure : Bool) : Rehearsal :=
  if !rehearsal.reachable || rehearsal.loop.phase = .stopped || rehearsal.hasAborted then
    { rehearsal with clients := rehearsal.clients ++ [none] }
  else if rehearsal.loop.phase = .accepting then rehearsal.accept secure
  else { rehearsal with clients := rehearsal.clients ++ [some { line := none }] }

/-- What a peer is told that does not speak the secure protocol: an alert about a message that was
not expected. -/
def alert : Bytes := [0x15, 0x03, 0x03, 0x00, 0x02, 0x02, 0x32]

def corruptMessage : String := "received corrupt message of type InvalidContentType"

/-! ## The clients' side -/

def client? (rehearsal : Rehearsal) (client : Nat) : Option Client :=
  (rehearsal.clients[client]?).join

/-- The octets that a client can read. -/
def unread (rehearsal : Rehearsal) (client : Client) : Bytes :=
  match client.line.bind fun line => rehearsal.lines[line]? with
  | some line => line.wire.drop client.read
  | none => []

def active (rehearsal : Rehearsal) : Nat := rehearsal.loop.tracker.active

def send (rehearsal : Rehearsal) (client : Client) (octets : Bytes) : Rehearsal :=
  match client.line with
  | none => rehearsal
  | some line =>
    match rehearsal.lines[line]?, octets with
    | _, [] => rehearsal
    | some .shaking, _ => rehearsal.setUp line (.failed corruptMessage) alert .handshakeFailed
    | _, _ => rehearsal.deliver line (.octets octets)

def endSending (rehearsal : Rehearsal) (client : Client) : Rehearsal :=
  match client.line with
  | none => rehearsal
  | some line =>
    match rehearsal.lines[line]? with
    | some .shaking => rehearsal.setUp line .peerLeft [] .handshakeFailed
    | _ => rehearsal.deliver line (.octets [])

def readTo (rehearsal : Rehearsal) (index : Nat) (client : Client) (count : Nat) : Rehearsal :=
  { rehearsal with
    clients := rehearsal.clients.set index (some { client with read := client.read + count }) }

/-- A client waits for one response. -/
def receive (rehearsal : Rehearsal) (index : Nat) (client : Client) (headOnly : Bool) :
    Seen × Rehearsal :=
  let unread := rehearsal.unread client
  match Response.splitFirst? headOnly unread with
  | some (octets, _) =>
    (.response octets rehearsal.active, rehearsal.readTo index client octets.length)
  | none => (.closed unread rehearsal.active, rehearsal.readTo index client unread.length)

/-- A client sends no more, reads to the end, and leaves. -/
def finish (rehearsal : Rehearsal) (index : Nat) (client : Client) : Seen × Rehearsal :=
  let rehearsal := (rehearsal.endSending client).settle
  (.closed (rehearsal.unread client) rehearsal.active,
    { rehearsal with clients := rehearsal.clients.set index none })

/-! ## Cues -/

def stop (rehearsal : Rehearsal) : Rehearsal :=
  (rehearsal.onLoop AcceptLoop.stop).settle

def hasStopped (rehearsal : Rehearsal) : Bool := rehearsal.loop.phase = .stopped

def follow (rehearsal : Rehearsal) : Cue → Seen × Rehearsal
  | .connect secure =>
    let rehearsal := (rehearsal.connect secure).settle
    let latest := rehearsal.clients.length - 1
    (.connected latest (rehearsal.client? latest).isSome, rehearsal)
  | .send index octets =>
    match rehearsal.client? index with
    | none => (.gone, rehearsal)
    | some client => (.sent, (rehearsal.send client octets).settle)
  | .receive index headOnly =>
    match rehearsal.client? index with
    | none => (.gone, rehearsal)
    | some client => rehearsal.receive index client headOnly
  | .finish index =>
    match rehearsal.client? index with
    | none => (.gone, rehearsal)
    | some client => rehearsal.finish index client
  | .stop =>
    let rehearsal := rehearsal.stop
    (.draining (if rehearsal.joined then none else some rehearsal.hasStopped), rehearsal)
  | .idle => (.idle (rehearsal.active = 0) rehearsal.active, rehearsal)
  | .join =>
    if rehearsal.joined then (.gone, rehearsal)
    else (.joined rehearsal.hasStopped, { rehearsal with joined := true })

def followAll (rehearsal : Rehearsal) (cues : List Cue) : List Seen × Rehearsal :=
  let (seen, rehearsal) := cues.foldl
    (fun (seen, rehearsal) cue =>
      let (latest, rehearsal) := rehearsal.follow cue
      (latest :: seen, rehearsal))
    ([], rehearsal)
  (seen.reverse, rehearsal)

/-- Ends everything: all clients leave in order, then the server stops. -/
def close (rehearsal : Rehearsal) : Rehearsal :=
  let leave := (List.range rehearsal.clients.length).map Cue.finish
  (rehearsal.followAll (leave ++ [.stop])).2

/-- A server that has just begun to accept connections; its own log comes first. -/
def start (server : Server) (listener : Listener) (pipeline : Pipeline) (reachable : Bool)
    (memory : Memory := .largest) : Rehearsal :=
  let loop := AcceptLoop.start server.logPrefix listener
  { service := Service.ofConfig server.config server.logPrefix pipeline memory
    listener
    reachable
    loop := { loop with log := server.log ++ loop.log } }

end Rehearsal

end HttpServer
