import HttpServer.Listener
import HttpServer.Log

/-!
# Servers and their listener

A server gets its listener once: from its configuration, by binding an address, or by adopting a
descriptor. An operation that fails leaves the server as it was. Credentials that are configured
are loaded before any socket is touched; others can be added as long as there is a listener.
-/

namespace HttpServer

inductive ServerError where
  | listener (error : ListenerError)
  | credentials (error : CredentialsError)
  | alreadyListening
  | notListening
deriving DecidableEq, Repr

def ServerError.message : ServerError → String
  | .listener error => error.message
  | .credentials error => error.message
  | .alreadyListening => "server already has a listener"
  | .notListening => "server has no listener"

/-! ## The listener of a configuration -/

namespace ListenerConfig

/-- The socket that is configured: the descriptor to adopt, or else the address to bind. -/
def openSocket (config : ListenerConfig) (host : Host) : Except ListenerError Listener × Host :=
  match config.inherited with
  | some number => Listener.adopt number config.acceptTimeout host
  | none => Listener.bind config.bindAddress config.acceptTimeout host

/-- The listener that is configured. Credentials come first, so that no socket is touched when
they fail. -/
def openListener (config : ListenerConfig) (host : Host) : Except ServerError Listener × Host :=
  match config.credentials.mapM (Credentials.load host.files) with
  | .error error => (.error (.credentials error), host)
  | .ok credentials =>
    match config.openSocket host with
    | (.error error, host) => (.error (.listener error), host)
    | (.ok listener, host) => (.ok { listener with credentials }, host)

end ListenerConfig

/-! ## Servers -/

/-- A server before it serves. -/
structure Server where
  config : Config
  /-- What its log entries carry. -/
  logPrefix : String
  listener : Option Listener := none
  log : List LogEntry := []

namespace Server

def ofConfig (config : Config) (process : Nat) : Server where
  config := config
  logPrefix := config.logPrefix.getD (toString process)

def prefixField (server : Server) : LogField := ⟨"prefix", server.logPrefix, false⟩

def listenerFields (listener : Listener) : List LogField :=
  [⟨"address", listener.address.render, false⟩, ⟨"fd", toString listener.number.toInt, false⟩,
    ⟨"tls", toString listener.isSecure, false⟩]

def note (server : Server) (message : String) (fields : List LogField) : Server :=
  { server with
    log := server.log ++ [⟨.info, .server, message, server.prefixField :: fields⟩] }

def attach (server : Server) (message : String) (opened : Except ServerError Listener) :
    Except ServerError Unit × Server :=
  match opened with
  | .error error => (.error error, server)
  | .ok listener =>
    (.ok (), { server.note message (listenerFields listener) with listener := some listener })

/-- Does something that gives a listener, unless there is one already. -/
def attachWith (server : Server) (host : Host) (message : String)
    (openWith : Host → Except ServerError Listener × Host) :
    Except ServerError Unit × Server × Host :=
  if server.listener.isSome then (.error .alreadyListening, server, host)
  else
    let (opened, host) := openWith host
    let (outcome, server) := server.attach message opened
    (outcome, server, host)

def ofListener (opened : Except ListenerError Listener × Host) :
    Except ServerError Listener × Host :=
  (opened.1.mapError ServerError.listener, opened.2)

/-- Gets the listener that is configured. -/
def listen (server : Server) (host : Host) : Except ServerError Unit × Server × Host :=
  server.attachWith host "Listener ready" server.config.listener.openListener

def bind (server : Server) (address : String) (host : Host) :
    Except ServerError Unit × Server × Host :=
  server.attachWith host "Listener bound" fun host =>
    ofListener (Listener.bind address server.config.listener.acceptTimeout host)

def adopt (server : Server) (number : DescriptorNumber) (host : Host) :
    Except ServerError Unit × Server × Host :=
  server.attachWith host "Adopted inherited listener" fun host =>
    ofListener (Listener.adopt number server.config.listener.acceptTimeout host)

def secure (server : Server) (paths : CredentialPaths) (host : Host) :
    Except ServerError Unit × Server :=
  match server.listener with
  | none => (.error .notListening, server)
  | some listener =>
    match Credentials.load host.files paths with
    | .error error => (.error (.credentials error), server)
    | .ok credentials =>
      let server := server.note "TLS enabled" [⟨"cert", paths.certificate.quoted, false⟩]
      (.ok (), { server with listener := some (listener.secured credentials) })

end Server

/-! ## Calls -/

inductive ServerCall where
  | listen
  | bind (address : String)
  | adopt (number : DescriptorNumber)
  | secure (paths : CredentialPaths)
deriving DecidableEq, Repr

def Server.call (server : Server) (host : Host) :
    ServerCall → Except ServerError Unit × Server × Host
  | .listen => server.listen host
  | .bind address => server.bind address host
  | .adopt number => server.adopt number host
  | .secure paths =>
    let (outcome, server) := server.secure paths host
    (outcome, server, host)

end HttpServer
