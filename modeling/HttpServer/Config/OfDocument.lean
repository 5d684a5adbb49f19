import HttpServer.Config
import HttpServer.Config.Document

/-!
# Settings in a document

`Config.ofDocument?` finds the settings of a configuration in a document. A group of settings is a
table, whose unknown names are ignored, or a list of values in the order of the settings. A setting
that is missing has its default, except that credentials are given in full or not at all. A value
that cannot be one of its setting refuses the whole document.
-/

namespace HttpServer

namespace Document

/-! ## Values of settings -/

def flag? : Document → Option Bool
  | .boolean value => some value
  | _ => none

def text? : Document → Option String
  | .text value => some value
  | _ => none

def path? (document : Document) : Option Path := (text? document).map Utf8.encode

def word? : Document → Option Word
  | .integer value =>
    if 0 ≤ value ∧ value < UInt64.size then some (UInt64.ofNat value.toNat) else none
  | _ => none

def descriptor? : Document → Option DescriptorNumber
  | .integer value =>
    if Int32.minValue.toInt ≤ value ∧ value ≤ Int32.maxValue.toInt then some (Int32.ofInt value)
    else none
  | _ => none

def optional? {α : Type} (read : Document → Option α) : Document → Option (Option α)
  | .absent => some none
  | document => (read document).map some

/-! ## Groups of settings -/

/-- The values of a group of settings, by name. A moment is a group in which nothing is set.
`longLists` tells whether a list may go on after the last setting. -/
def settings? (longLists : Bool) (names : List String) :
    Document → Option (List (String × Document))
  | .table entries => some entries
  | .list values =>
    if longLists || values.length ≤ names.length then some (names.zip values) else none
  | .moment => some []
  | _ => none

def setting? {α : Type} (entries : List (String × Document)) (name : String)
    (read : Document → Option α) (default : α) : Option α :=
  match find? entries name with
  | none => some default
  | some document => read document

def required? {α : Type} (entries : List (String × Document)) (name : String)
    (read : Document → Option α) : Option α :=
  (find? entries name).bind read

end Document

open Document

variable (longLists : Bool)

def CredentialPaths.ofDocument? (document : Document) : Option CredentialPaths := do
  let entries ← settings? longLists ["cert_path", "key_path"] document
  let certificate ← required? entries "cert_path" path?
  let key ← required? entries "key_path" path?
  some { certificate, key }

def ListenerConfig.ofDocument? (document : Document) : Option ListenerConfig := do
  let names := ["bind_address", "inherited_fd", "accept_timeout_ms", "tls"]
  let entries ← settings? longLists names document
  let default : ListenerConfig := {}
  let bindAddress ← setting? entries "bind_address" text? default.bindAddress
  let inherited ← setting? entries "inherited_fd" (optional? descriptor?) default.inherited
  let acceptTimeout ← setting? entries "accept_timeout_ms" word? default.acceptTimeout
  let credentials ← setting? entries "tls"
    (optional? (CredentialPaths.ofDocument? longLists)) default.credentials
  some { bindAddress, inherited, acceptTimeout, credentials }

def ConnectionConfig.ofDocument? (document : Document) : Option ConnectionConfig := do
  let names := ["read_buffer_size", "max_head_bytes", "max_body_bytes"]
  let entries ← settings? longLists names document
  let default : ConnectionConfig := {}
  let readBuffer ← setting? entries "read_buffer_size" word? default.readBuffer
  let maximumHead ← setting? entries "max_head_bytes" word? default.maximumHead
  let maximumBody ← setting? entries "max_body_bytes" word? default.maximumBody
  some { readBuffer, maximumHead, maximumBody }

def ObservabilityConfig.ofDocument? (document : Document) : Option ObservabilityConfig := do
  let names := ["log_filter", "metrics_enabled", "metrics_address"]
  let entries ← settings? longLists names document
  let default : ObservabilityConfig := {}
  let logFilter ← setting? entries "log_filter" text? default.logFilter
  let metricsEnabled ← setting? entries "metrics_enabled" flag? default.metricsEnabled
  let metricsAddress ← setting? entries "metrics_address" text? default.metricsAddress
  some { logFilter, metricsEnabled, metricsAddress }

def Config.ofDocument? (document : Document) : Option Config := do
  let names := ["listener", "connection", "observability", "log_prefix"]
  let entries ← settings? longLists names document
  let listener ← setting? entries "listener" (ListenerConfig.ofDocument? longLists) {}
  let connection ← setting? entries "connection" (ConnectionConfig.ofDocument? longLists) {}
  let observability ←
    setting? entries "observability" (ObservabilityConfig.ofDocument? longLists) {}
  let logPrefix ← setting? entries "log_prefix" (optional? text?) none
  some { listener, connection, observability, logPrefix }

end HttpServer
