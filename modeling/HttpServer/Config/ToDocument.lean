import HttpServer.Config
import HttpServer.Config.Document

/-!
# Configurations as documents

A configuration is written as a document that names all its settings, also those that have their
default value. Only a configuration whose paths are texts can be written.
-/

namespace HttpServer

namespace Document

def ofOption {α : Type} (write : α → Document) : Option α → Document
  | some value => write value
  | none => .absent

def ofWord (word : Word) : Document := .integer word.toNat

def ofDescriptor (number : DescriptorNumber) : Document := .integer number.toInt

end Document

open Document

def CredentialPaths.toDocument? (paths : CredentialPaths) : Option Document := do
  let certificate ← Utf8.decode paths.certificate
  let key ← Utf8.decode paths.key
  return .table [("cert_path", .text certificate), ("key_path", .text key)]

def ListenerConfig.toDocument? (config : ListenerConfig) : Option Document := do
  let credentials ← config.credentials.mapM CredentialPaths.toDocument?
  return .table [("bind_address", .text config.bindAddress),
    ("inherited_fd", ofOption ofDescriptor config.inherited),
    ("accept_timeout_ms", ofWord config.acceptTimeout), ("tls", credentials.getD .absent)]

def ConnectionConfig.toDocument (config : ConnectionConfig) : Document :=
  .table [("read_buffer_size", ofWord config.readBuffer),
    ("max_head_bytes", ofWord config.maximumHead), ("max_body_bytes", ofWord config.maximumBody)]

def ObservabilityConfig.toDocument (config : ObservabilityConfig) : Document :=
  .table [("log_filter", .text config.logFilter),
    ("metrics_enabled", .boolean config.metricsEnabled),
    ("metrics_address", .text config.metricsAddress)]

def Config.toDocument? (config : Config) : Option Document := do
  let listener ← config.listener.toDocument?
  return .table [("listener", listener), ("connection", config.connection.toDocument),
    ("observability", config.observability.toDocument),
    ("log_prefix", ofOption .text config.logPrefix)]

/-- All settings, or none where they cannot be written. -/
def Config.toDocument (config : Config) : Document := config.toDocument?.getD .absent

end HttpServer
