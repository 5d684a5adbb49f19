import HttpServer.Path

/-!
# What can be configured

A configuration says where a server listens, what it accepts from a peer, and how it is observed.
Everything has a default, so that an empty configuration is a working one. Sizes and times fit a
machine word and the number of a descriptor fits half of one, whatever source they come from.
-/

namespace HttpServer

abbrev Word := UInt64

/-- The number of an open file of the process. -/
abbrev DescriptorNumber := Int32

structure CredentialPaths where
  certificate : Path
  key : Path
deriving DecidableEq, Repr

structure ListenerConfig where
  /-- A host and port, or a port alone after a colon. -/
  bindAddress : String := ":8080"
  /-- A listener that is already open, to adopt instead of binding. -/
  inherited : Option DescriptorNumber := none
  /-- How many milliseconds one accept waits before shutdown is looked for again. -/
  acceptTimeout : Word := 3000
  credentials : Option CredentialPaths := none
deriving DecidableEq, Repr

structure ConnectionConfig where
  readBuffer : Word := 8192
  maximumHead : Word := 65536
  maximumBody : Word := 8388608
deriving DecidableEq, Repr

structure ObservabilityConfig where
  /-- The log filter, used when the environment gives none. -/
  logFilter : String := "conveyor=info"
  metricsEnabled : Bool := false
  metricsAddress : String := "127.0.0.1:9090"
deriving DecidableEq, Repr

structure Config where
  listener : ListenerConfig := {}
  connection : ConnectionConfig := {}
  observability : ObservabilityConfig := {}
  /-- What the log entries of the server carry; the process number where nothing is set. -/
  logPrefix : Option String := none
deriving DecidableEq, Repr

/-- The longest wait of one accept, as diagnostics show it. -/
def ListenerConfig.acceptTimeoutText (config : ListenerConfig) : String :=
  Text.milliseconds config.acceptTimeout.toNat

end HttpServer
