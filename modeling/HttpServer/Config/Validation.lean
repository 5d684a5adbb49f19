import HttpServer.Address.Reading
import HttpServer.Config
import HttpServer.Text.Blank

/-!
# Configurations that make sense

A configuration of the right form can still ask for the impossible. `Config.problems` lists every
rule that is broken, in a fixed order; each rule looks at its own settings alone.
-/

namespace HttpServer

inductive CredentialSetting where
  | certificate
  | key
deriving DecidableEq, Repr

def CredentialSetting.name : CredentialSetting → String
  | .certificate => "cert_path"
  | .key => "key_path"

inductive LimitSetting where
  | readBuffer
  | maximumHead
  | maximumBody
deriving DecidableEq, Repr

def LimitSetting.name : LimitSetting → String
  | .readBuffer => "read_buffer_size"
  | .maximumHead => "max_head_bytes"
  | .maximumBody => "max_body_bytes"

inductive ConfigProblem where
  | noListenerSource
  | negativeDescriptor (number : DescriptorNumber)
  | zeroAcceptTimeout
  | emptyCredentialPath (setting : CredentialSetting)
  | zeroLimit (setting : LimitSetting)
  | badMetricsAddress (address : String)
deriving DecidableEq, Repr

def ConfigProblem.message : ConfigProblem → String
  | .noListenerSource => "listener.bind_address is empty and no inherited_fd is set"
  | .negativeDescriptor number =>
    "listener.inherited_fd must be non-negative, got " ++ toString number.toInt
  | .zeroAcceptTimeout => "listener.accept_timeout_ms must be greater than zero"
  | .emptyCredentialPath setting => "listener.tls." ++ setting.name ++ " is empty"
  | .zeroLimit setting => "connection." ++ setting.name ++ " must be greater than zero"
  | .badMetricsAddress address =>
    "observability.metrics_address " ++ Text.quoted address ++ " is not a socket address"

/-! ## The rules -/

namespace ListenerConfig

/-- There is an address to bind or a descriptor to adopt. -/
def sourceProblems (config : ListenerConfig) : List ConfigProblem :=
  match config.inherited with
  | some number => if number < 0 then [.negativeDescriptor number] else []
  | none => if Text.isBlankText config.bindAddress then [.noListenerSource] else []

/-- An accept waits at all. -/
def timeoutProblems (config : ListenerConfig) : List ConfigProblem :=
  if config.acceptTimeout = 0 then [.zeroAcceptTimeout] else []

/-- Credentials that are wanted have names. -/
def credentialProblems (config : ListenerConfig) : List ConfigProblem :=
  match config.credentials with
  | none => []
  | some paths =>
    (if paths.certificate.isEmpty then [.emptyCredentialPath .certificate] else [])
      ++ (if paths.key.isEmpty then [.emptyCredentialPath .key] else [])

end ListenerConfig

/-- Every limit lets something through. -/
def ConnectionConfig.limitProblems (config : ConnectionConfig) : List ConfigProblem :=
  [(LimitSetting.readBuffer, config.readBuffer), (.maximumHead, config.maximumHead),
      (.maximumBody, config.maximumBody)].filterMap fun (setting, value) =>
    if value = 0 then some (.zeroLimit setting) else none

/-- Metrics that are wanted have an address. -/
def ObservabilityConfig.metricsProblems (config : ObservabilityConfig) : List ConfigProblem :=
  if config.metricsEnabled && (SocketAddress.parse? config.metricsAddress).isNone then
    [.badMetricsAddress config.metricsAddress]
  else []

namespace Config

/-- Every broken rule, in order. -/
def problems (config : Config) : List ConfigProblem :=
  config.listener.sourceProblems ++ config.listener.timeoutProblems
    ++ config.listener.credentialProblems ++ config.connection.limitProblems
    ++ config.observability.metricsProblems

def isValid (config : Config) : Bool := config.problems.isEmpty

end Config

end HttpServer
