import HttpServer.MetricsPage
import HttpServer.Program
import Std.Async.DNS
import Std.Async.Signal
import Std.Async.TCP
import Std.Async.Timer
import Std.Internal.UV.System

/-!
# The program as a process

Here the program meets its host: arguments, variables, files, sockets, signals and the clock. What
they say is put into the terms of the library, the library decides, and what it decides is done.

Sockets are opened before the program is started, so that the host it is started on can answer
for them. The process opens all its sockets itself: it has no way to adopt one, to secure
a connection, or to start a successor. A listener that asks for the first is not there, the
handshakes of a secure one fail, and a signal for a successor leaves the process serving. A file
whose path is no text is not there either, as the process can only ask for texts.
-/

open Std.Async

namespace HttpServer.Main

/-! ## What the host says -/

def failureOf (error : IO.Error) : SystemFailure :=
  match error with
  | .alreadyExists _ code details | .otherError code details | .resourceBusy code details
  | .resourceVanished code details | .unsupportedOperation code details
  | .hardwareFault code details | .unsatisfiedConstraints code details
  | .illegalOperation code details | .protocolError code details | .timeExpired code details
  | .interrupted _ code details | .noFileOrDirectory _ code details
  | .invalidArgument _ code details | .permissionDenied _ code details
  | .resourceExhausted _ code details | .inappropriateType _ code details
  | .noSuchThing _ code details =>
    let number := if code < 0x80000000 then code else 0 - code
    .numbered number.toNat details
  | .unexpectedEof => .numbered 0 "end of file"
  | .userError message => .numbered 0 message

def kindOf (error : IO.Error) : IoFailure := (failureOf error).kind?.getD .other

def addressOf : Std.Net.SocketAddress → SocketAddress
  | .v4 ⟨⟨octets⟩, port⟩ => .short ⟨octets[0], octets[1], octets[2], octets[3]⟩ port
  | .v6 ⟨⟨groups⟩, port⟩ => .long ⟨groups.toList, by simp⟩ 0 port

def hostAddress : SocketAddress → Std.Net.SocketAddress
  | .short address port =>
    .v4 ⟨⟨#v[address.first, address.second, address.third, address.fourth]⟩, port⟩
  | .long address _ port => .v6 ⟨⟨⟨address.groups.toArray, by simp [address.eight]⟩⟩, port⟩

/-- Why a name leads to no host. The host has numbers of its own for this. -/
def lookupFailureOf (error : IO.Error) : LookupFailure :=
  let failure := failureOf error
  match failure.number with
  | 3001 => .noAnswer
  | 3008 => .noName
  | _ => .other failure.description

/-- What the host answers for the name in an address. It gives an address once for each type of
socket. -/
def namesAt (address : String) : IO NameService := do
  match BindAddress.aroundLastColon? address with
  | none => return .own
  | some (name, _) =>
    if !HostName.isName name.toList then return .own
    let answer ← match ← (DNS.getAddrInfo name "").block.toBaseIO with
      | .error error => pure (.error (lookupFailureOf error))
      | .ok found => pure (.ok (found.toList.eraseDups.map fun
        | .v4 address => addressOf (.v4 ⟨address, 0⟩)
        | .v6 address => addressOf (.v6 ⟨address, 0⟩)))
    return fun other => if other = name.toList then answer else .error .noAnswer

def nodeAt (path : Path) : IO (Except SystemFailure FileNode) := do
  let some name := Utf8.decode path | return .error .noSuchFile
  match ← (IO.FS.readBinFile name).toBaseIO with
  | .ok content => return .ok (.file content.toList)
  | .error error =>
    let failure := failureOf error
    return if failure = .isADirectory then .ok .directory else .error failure

def filesAt (paths : List Path) : IO FileSystem := do
  let nodes ← paths.mapM fun path => return (path, ← nodeAt path)
  return fun path =>
    match nodes.find? fun node => node.1 = path with
    | some (_, node) => node
    | none => .error .noSuchFile

def environment : IO Environment := do
  let values ← Program.variableNames.mapM fun name => return (name, ← IO.getEnv name)
  return fun name =>
    ((values.find? fun value => value.1 = name).bind Prod.snd).map fun value =>
      value.toUTF8.toList

/-! ## Sockets -/

structure Opening where
  /-- The addresses that were refused. -/
  refused : List (SocketAddress × SystemFailure) := []
  /-- The socket, with the address that was asked for and the one it has. -/
  opened : Option (TCP.Socket.Server × SocketAddress × SocketAddress) := none

def backlog : UInt32 := 1024

def listenOn (address : SocketAddress) : IO (TCP.Socket.Server × SocketAddress) := do
  let socket ← TCP.Socket.Server.mk
  socket.bind (hostAddress address)
  socket.listen backlog
  return (socket, addressOf (← socket.getSockName))

/-- Opens a socket on the first of some addresses that can be had. -/
def openFirst (addresses : List SocketAddress) (opening : Opening) : IO Opening := do
  match addresses with
  | [] => return opening
  | address :: rest =>
    match ← (listenOn address).toBaseIO with
    | .ok (socket, bound) => return { opening with opened := some (socket, address, bound) }
    | .error error =>
      openFirst rest { opening with refused := opening.refused ++ [(address, failureOf error)] }

/-- The port that was given where none was asked for. -/
def Opening.freePort? (opening : Opening) : Option UInt16 :=
  opening.opened.bind fun (_, asked, bound) => if asked.port = 0 then some bound.port else none

/-- The host as it has shown itself when sockets were opened. -/
def hostOf (files : FileSystem) (names : NameService) (openings : List Opening) : Host :=
  let refused := openings.flatMap Opening.refused
  let ports := openings.filterMap Opening.freePort?
  { files
    names
    refuses := fun address => (refused.find? fun refusal => refusal.1 = address).map Prod.snd
    freePort := fun given => (ports[given]?).getD 0 }

/-! ## Printing -/

def printTo (stream : IO.FS.Stream) (text : String) : IO Unit := do
  unless text.isEmpty do
    stream.putStrLn text
    stream.flush

def printLog (entries : List LogEntry) : IO Unit := do
  let stream ← IO.getStdout
  entries.forM fun entry => printTo stream entry.render

/-! ## The running program -/

/-- A program that serves, and what it has counted. -/
structure Running where
  program : IO.Ref Program
  registry : IO.Ref Registry
  startedAt : Nat
  /-- Whether the process has met a fault that ends it. -/
  aborted : IO.Ref Bool

namespace Running

/-- Changes the program, prints what it logs, and counts what it counts. -/
def update {α : Type} (running : Running) (change : Program → α × Program) : IO α := do
  let (result, entries, metrics) ← running.program.modifyGet fun program =>
    let (result, program) := change program
    let quiet := program.onLoop fun loop => { loop with log := [], metrics := [] }
    ((result, program.shown, program.rehearsal.loop.metrics), quiet)
  running.registry.modify fun registry => metrics.foldl Registry.record registry
  printLog entries
  return result

def onLoop (running : Running) (change : AcceptLoop → AcceptLoop) : IO Unit :=
  running.update fun program => ((), program.onLoop change)

def enter (running : Running) (events : List ConnectionEvent) : IO Unit :=
  running.update fun program => ((), events.foldl Program.enter program)

def now (running : Running) : IO Nat := return (← IO.monoMsNow) - running.startedAt

end Running

/-! ## Connections -/

/-- How much is read at once. -/
def readSize : UInt64 := 65536

def receive (client : TCP.Socket.Client) : Async Delivery := do
  try
    match ← client.recv? readSize with
    | some data => return .octets data.toList
    | none => return .octets []
  catch error => return .failure (kindOf error)

/-- Sends what a step has written. A step whose octets cannot be sent is taken again, with a wire
that takes none. -/
def transmit (client : TCP.Socket.Client) (service : Service) (connection : Connection) :
    Async Connection := do
  let next := connection.step service
  if next.outlet.wire.isEmpty then return next
  try
    client.send ⟨next.outlet.wire.toArray⟩
    return { next with outlet := {} }
  catch error =>
    let bound : WriteBound := ⟨0, .system (failureOf error)⟩
    return ({ connection with outlet := { bound := some bound } } : Connection).step service

partial def attend (client : TCP.Socket.Client) (service : Service) (now : IO Nat)
    (report : List ConnectionEvent → IO Unit) (connection : Connection) : Async Connection := do
  if connection.phase.isOver then return connection
  else if connection.awaitsPeer service then
    attend client service now report (connection.receive (← receive client))
  else
    let next ← transmit client service (connection.atTime (← now))
    report next.events
    attend client service now report { next with events := [] }

/-- Sets up and serves a connection, and says how its handler ends. -/
def converse (running : Running) (client : TCP.Socket.Client) (number : Nat) :
    Async HandlerExit := do
  let rehearsal := (← running.program.get).rehearsal
  let listener := rehearsal.listener
  let handshake : Connection.Handshake :=
    if listener.isSecure then .failed IoFailure.unsupported.message else .plain
  let peer := addressOf (← client.getPeerName)
  match Connection.start rehearsal.service ⟨number + 1⟩ peer listener.address handshake [] with
  | .error event =>
    running.enter [event]
    return if listener.isSecure then .handshakeFailed else .bufferRefused
  | .ok connection =>
    let now ← running.now
    let connection := { connection.atTime now with startedAt := now }
    let last ← attend client rehearsal.service running.now running.enter connection
    if last.phase.endsProcess then running.aborted.set true
    return Rehearsal.exitOf last

/-- Handles a connection that has been accepted, the first with the number zero. -/
def handle (running : Running) (client : TCP.Socket.Client) (number : Nat) : Async Unit := do
  let exit ← try converse running client number catch _ => pure .readFailed
  unless ← running.aborted.get do
    try client.shutdown catch _ => pure ()
    running.onLoop fun loop => loop.endHandler number exit

def handleMetrics (running : Running) (client : TCP.Socket.Client) : Async Unit := do
  let service := MetricsPage.service (← running.registry.get)
  let peer := addressOf (← client.getPeerName)
  match Connection.start service ⟨1⟩ peer peer .plain [] with
  | .error _ => return
  | .ok connection =>
    discard <| attend client service running.now (fun _ => pure ()) connection
    try client.shutdown catch _ => pure ()

/-! ## Accepting -/

def acceptOne (socket : TCP.Socket.Server) (timeout : Nat) : Async (Option TCP.Socket.Client) := do
  Selectable.one #[
    .case socket.acceptSelector fun client => return some client,
    .case (← Selector.sleep (.ofNat timeout)) fun _ => return none]

/-- How many milliseconds pass between two looks whether handlers still run. -/
def pause : Nat := 10

/-- Accepts and serves connections until the program has stopped or its process has to end. -/
partial def accepting (running : Running) (socket : TCP.Socket.Server) : Async Unit := do
  if ← running.aborted.get then return
  let rehearsal := (← running.program.get).rehearsal
  match rehearsal.loop.phase with
  | .stopped => return
  | .draining =>
    sleep (.ofNat pause)
    running.update fun program => ((), program.drain)
  | .accepting =>
    try
      match ← acceptOne socket rehearsal.listener.acceptTimeout.toNat with
      | some client =>
        let number ← running.update fun program =>
          (program.rehearsal.loop.handlers.length,
            program.onLoop fun loop => loop.turn (.ok ()))
        background (handle running client number)
      | none => running.update fun program => ((), program.drain)
    catch error =>
      running.onLoop fun loop => loop.turn (.error (.failed (kindOf error)))
  accepting running socket

partial def acceptingMetrics (running : Running) (socket : TCP.Socket.Server) : Async Unit := do
  let client ← socket.accept
  background (handleMetrics running client)
  acceptingMetrics running socket

/-! ## Signals -/

def signals : List (Std.Async.Signal × Program.Signal) :=
  [(.sigterm, .terminate), (.sigint, .interrupt), (.sighup, .hangUp)]

/-- Takes a signal into account whenever it comes, until the program has been asked to stop. -/
partial def watching (running : Running) (waiter : Std.Async.Signal.Waiter)
    (signal : Program.Signal) : Async Unit := do
  discard <| await (← waiter.wait)
  unless (← running.program.get).rehearsal.loop.stopRequested do
    match signal with
    | .terminate | .interrupt =>
      running.update fun program => ((), (program.receive 0 signal).1)
    | .hangUp =>
      running.update fun program => ((), program.keepServing .unsupported)
  watching running waiter signal

/-! ## The process -/

/-- The code of a process that a signal to abort has ended. -/
def abortCode : UInt32 := 134

/-- The host of a process with some options, and the sockets it has opened on it: for the metrics
and for its listener. -/
def prepare (options : Options) : IO (Host × Opening × Opening) := do
  let named := options.config.toList
  let files ← filesAt named
  match options.loadConfig files with
  | .error _ => return ({ files }, {}, {})
  | .ok config =>
    let credentials := config.listener.credentials.toList
    let files ← filesAt
      (named ++ credentials.flatMap fun paths => [paths.certificate, paths.key])
    let metrics ← openFirst (Program.metricsAddresses config.observability) {}
    let names ← namesAt config.listener.bindAddress
    let listener ← openFirst (Program.listenerAddresses names config.listener) {}
    return (hostOf files names [metrics, listener], metrics, listener)

/-- Starts the program, and gives the sockets it gets: for the metrics and for its listener. -/
def launch (arguments : List String) : IO (Launch × Opening × Opening) := do
  let environment ← environment
  let number := (← Std.Internal.UV.System.osGetPid).toNat
  let arguments := arguments.map fun argument => argument.toUTF8.toList
  let (host, metrics, listener) ←
    match CommandLine.parse environment arguments with
    | .ok options => prepare options
    | .error _ => pure ({ files := fun _ => .error .noSuchFile }, {}, {})
  return (Program.start { number, arguments, environment } host true, metrics, listener)

/-- Serves until the program has stopped, and gives the code that the process ends with. -/
def serve (program : Program) (metrics : Option TCP.Socket.Server) (socket : TCP.Socket.Server) :
    Async UInt32 := do
  let running : Running :=
    { program := ← IO.mkRef program, registry := ← IO.mkRef [], startedAt := ← IO.monoMsNow
      aborted := ← IO.mkRef false }
  running.update fun program => ((), program)
  for (signal, meaning) in signals do
    background (watching running (← Std.Async.Signal.Waiter.mk signal true) meaning)
  if let some metrics := metrics then background (acceptingMetrics running metrics)
  accepting running socket
  return if ← running.aborted.get then abortCode else 0

end HttpServer.Main

open HttpServer HttpServer.Main

def main (arguments : List String) : IO UInt32 := do
  let (launch, metrics, listener) ← launch arguments
  match launch with
  | .ended ending shown =>
    printLog shown
    printTo (← IO.getStdout) ending.output
    printTo (← IO.getStderr) ending.complaint
    return ending.code.toUInt32
  | .running program =>
    program.complaints.forM (printTo (← IO.getStderr))
    match listener.opened with
    | none => return 1
    | some (socket, _) =>
      (serve program (metrics.opened.map Prod.fst) socket).block
