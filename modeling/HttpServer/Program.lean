import HttpServer.CommandLine.Help
import HttpServer.CommandLine.Settings
import HttpServer.Diagnosis
import HttpServer.LogFilter
import HttpServer.Rehearsal

/-!
# The program

A process of the program reads its options, loads its configuration, and serves until a signal
tells it to stop. One of the signals makes it hand its listening socket to a successor first. It
stops by accepting no more and waiting for the connections it has.

A process that cannot serve ends with a code and says why. Whether what it logs is shown depends on
the filter that its environment or its configuration gives.
-/

namespace HttpServer

inductive StartError where
  | config (error : ConfigError)
  | metricsAddress
  | metrics (failure : SystemFailure)
  | server (error : ServerError)
deriving DecidableEq, Repr

def StartError.describe : StartError → String
  | .config error => error.describe
  | .metricsAddress => Text.wrapped "AddrParseError" ["Socket"]
  | .metrics failure =>
    Text.wrapped "FailedToCreateHTTPListener" [Text.quoted failure.message]
  | .server error => error.describe

/-! ## Running processes -/

/-- A process that serves. -/
structure Program where
  invocation : Invocation
  host : Host
  filter : LogFilter
  /-- What it has complained of. -/
  complaints : List String := []
  rehearsal : Rehearsal

inductive Launch where
  | ended (ending : Ending) (shown : List LogEntry)
  | running (program : Program)

namespace Program

def entry (logPrefix message : String) (fields : List LogField) : LogEntry :=
  ⟨.info, .program, message, ⟨"prefix", logPrefix, false⟩ :: fields⟩

def filterVariable : String := "RUST_LOG"

/-- The variables of the environment that a process looks at. -/
def variableNames : List String :=
  CommandOption.all.filterMap CommandOption.environmentName? ++ [filterVariable]

/-- The filter of a process: that of its environment, if there is one and all of it can be read,
and else that of its configuration. -/
def chooseFilter (environment : Environment) (config : ObservabilityConfig) : LogFilter.Reading :=
  match ((environment filterVariable).bind Utf8.decode).map LogFilter.parse with
  | some (.ok filter) => { filter := .ok filter }
  | some (.error .torn) => { filter := .error .torn }
  | _ => LogFilter.parseLeniently config.logFilter

def greeting (logPrefix : String) (config : ListenerConfig) : List LogEntry :=
  let inherited := config.inherited.map fun number => toString number.toInt
  [entry logPrefix "conveyor starting" [⟨"version", StatusPage.version, true⟩],
    entry logPrefix "Configuration loaded"
      [⟨"bind_address", config.bindAddress, false⟩,
        ⟨"inherited_fd", Text.optional inherited, false⟩,
        ⟨"tls", toString config.credentials.isSome, false⟩]]

/-- The addresses to try for those who ask for metrics, if metrics are wanted. -/
def metricsAddresses (config : ObservabilityConfig) : List SocketAddress :=
  if config.metricsEnabled then (SocketAddress.parse? config.metricsAddress).toList else []

/-- The addresses to try for the listener, unless it is adopted. -/
def listenerAddresses (names : NameService) (config : ListenerConfig) : List SocketAddress :=
  if config.inherited.isSome then []
  else (BindAddress.resolve config.bindAddress names).toOption.getD []

/-- Listens for those who ask for metrics, if metrics are wanted. -/
def openMetrics (logPrefix : String) (config : ObservabilityConfig) (host : Host) :
    Except StartError (List LogEntry × Host) :=
  if !config.metricsEnabled then .ok ([], host)
  else
    match SocketAddress.parse? config.metricsAddress with
    | none => .error .metricsAddress
    | some address =>
      match host.bind address with
      | (.error failure, _) => .error (.metrics failure)
      | (.ok _, host) =>
        .ok ([entry logPrefix "Metrics exporter listening"
          [⟨"address", address.render, false⟩]], host)

def giveUp (error : StartError) (complaints : List String) (shown : List LogEntry) : Launch :=
  let complaint := String.intercalate "\n" (complaints ++ ["Error: " ++ error.describe])
  .ended { code := 1, complaint } shown

def breakDown (error : LogDirectiveError) (complaints : List String) : Launch :=
  let complaint := String.intercalate "\n" (complaints ++ ["\n" ++ error.message])
  .ended { code := 101, complaint } []

def serveWith (filter : LogFilter) (complaints : List String) (invocation : Invocation)
    (host : Host) (reachable : Bool) (config : Config) : Launch :=
  let server := Server.ofConfig config invocation.number
  let greeting := greeting server.logPrefix config.listener
  match openMetrics server.logPrefix config.observability host with
  | .error error => giveUp error complaints (greeting.filter filter.shows)
  | .ok (entries, host) =>
    let log := greeting ++ entries
    let (outcome, server, host) := server.listen host
    match outcome, server.listener with
    | .error error, _ => giveUp (.server error) complaints (log.filter filter.shows)
    | .ok (), none => giveUp (.server .notListening) complaints (log.filter filter.shows)
    | .ok (), some listener =>
      let pipeline := (StatusPage.pipeline invocation.number 0).toPipeline
      let rehearsal := Rehearsal.start server listener pipeline reachable host.memory
      let loop := { rehearsal.loop with log := log ++ rehearsal.loop.log }
      .running { invocation, host, filter, complaints, rehearsal := { rehearsal with loop } }

def serve (invocation : Invocation) (host : Host) (reachable : Bool) (config : Config) : Launch :=
  let reading := chooseFilter invocation.environment config.observability
  match reading.filter with
  | .error error => breakDown error reading.complaints
  | .ok filter => serveWith filter reading.complaints invocation host reachable config

def start (invocation : Invocation) (host : Host) (reachable : Bool) : Launch :=
  match CommandLine.parse invocation.environment invocation.arguments with
  | .error exit => .ended exit.ending []
  | .ok options =>
    match options.loadConfig host.files with
    | .error error => giveUp (.config error) [] []
    | .ok config => serve invocation host reachable config

/-- The entries that are shown. -/
def shown (program : Program) : List LogEntry :=
  program.rehearsal.loop.log.filter program.filter.shows

def announces (program : Program) : Bool :=
  program.shown.any fun entry => entry.message = "Accepting connections"

def onLoop (program : Program) (change : AcceptLoop → AcceptLoop) : Program :=
  { program with rehearsal := program.rehearsal.onLoop change }

def enter (program : Program) (event : ConnectionEvent) : Program :=
  { program with rehearsal := program.rehearsal.enter event }

def note (program : Program) (message : String) (fields : List LogField) : Program :=
  program.enter (.logged (entry program.rehearsal.loop.logPrefix message fields))

/-! ## Peers -/

/-- The responses of a run of octets, each with its head, and what is left over. -/
def responses (headOnly : Bool) : (most : Nat) → Bytes → List Bytes
  | 0, _ => []
  | most + 1, octets =>
    match Response.splitFirst? headOnly octets with
    | some (response, rest) => response :: responses headOnly most rest
    | none => if octets.isEmpty then [] else [octets]

/-- Lets a peer connect, send octets, and read to the end. A peer that cannot connect gets
nothing. -/
def exchange (program : Program) (octets : Bytes) (headOnly : Bool) : List Bytes × Program :=
  let rehearsal := program.rehearsal
  let client := rehearsal.clients.length
  let (seen, rehearsal) := rehearsal.followAll
    [.connect rehearsal.listener.isSecure, .send client octets, .finish client]
  let answer := match seen.getLast? with
    | some (.closed octets _) => octets
    | _ => []
  (responses headOnly answer.length answer, { program with rehearsal })

/-! ## Signals -/

inductive Signal where
  | terminate
  | interrupt
  | hangUp
deriving DecidableEq, Repr

/-- Asks the accept loop to stop. It notices at its next look. -/
def requestStop (program : Program) : Program :=
  program.onLoop fun loop => loop.steps [.requestStop]

/-- Starts a successor, which gets the number `number`, with its host. -/
def handOff (program : Program) (number : Nat) : Program × Invocation × Host :=
  let listener := program.rehearsal.listener
  let host := listener.makeInheritable program.host
  let command := Handoff.command program.invocation.arguments listener.number
  let successor : Invocation := {
    number
    arguments := command.arguments
    environment := command.environment program.invocation.environment }
  let program := ({ program with host } : Program).note "Listener handed to successor, draining"
    [⟨"fd", toString listener.number.toInt, false⟩, ⟨"pid", toString number, false⟩]
  (program, successor, host.forSuccessor)

def keepServing (program : Program) (failure : IoFailure) : Program :=
  let entry := entry program.rehearsal.loop.logPrefix "Handoff failed, still serving"
    [⟨"error", failure.message, false⟩]
  program.enter (.logged { entry with level := .error })

/-- Takes a signal into account; gives the successor when one is started, which gets the number
`number`. -/
def receive (program : Program) (number : Nat) : Signal → Program × Option (Invocation × Host)
  | .terminate | .interrupt =>
    ((program.note "Shutdown signal received, draining" []).requestStop, none)
  | .hangUp =>
    let (program, successor) := program.handOff number
    (program.requestStop, some successor)

/-- Lets the accept loop look and the process end, if nothing keeps it. -/
def drain (program : Program) : Program :=
  let rehearsal := (program.rehearsal.onLoop AcceptLoop.idle).settle
  let program := { program with rehearsal }
  if rehearsal.hasStopped then program.note "Shutdown complete" [] else program

end Program

end HttpServer
