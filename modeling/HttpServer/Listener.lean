import HttpServer.Credentials
import HttpServer.Host

/-!
# Listeners

A listener is a bound socket that accepts connections, plain or secure. It is bound anew, to the
first of the resolved addresses that can be bound, or it adopts a descriptor that is already a
listening socket. A descriptor that is refused stays with whoever offered it; one that has passed
the check belongs to the listener, and is closed if anything fails after that, as a socket is that
has been bound anew.
-/

namespace HttpServer

inductive AdoptionError where
  | negative
  | system (failure : SystemFailure)
  | notStream
  | notListening
  | notInternet
deriving DecidableEq, Repr

def AdoptionError.message : AdoptionError → String
  | .negative => "negative descriptor"
  | .system failure => failure.message
  | .notStream => "not a stream socket"
  | .notListening => "socket is not listening"
  | .notInternet => "not an inet socket"

inductive ListenerError where
  | unresolved (address : String) (error : ResolveError)
  | bind (address : SocketAddress) (failure : SystemFailure)
  | notAListener (number : DescriptorNumber) (error : AdoptionError)
  | setup (failure : SystemFailure)
deriving DecidableEq, Repr

def ListenerError.message : ListenerError → String
  | .unresolved address error => BindAddress.unresolvedMessage address error
  | .bind address failure => "failed to bind " ++ address.render ++ ": " ++ failure.message
  | .notAListener number error =>
    "descriptor " ++ toString number.toInt ++ " is not a TCP listener: " ++ error.message
  | .setup failure => "listener setup failed: " ++ failure.message

structure Listener where
  number : DescriptorNumber
  address : SocketAddress
  /-- How many milliseconds one accept waits. -/
  acceptTimeout : Word
  credentials : Option Credentials := none
deriving DecidableEq

namespace Listener

def isSecure (listener : Listener) : Bool := listener.credentials.isSome

/-- Secures every connection accepted from now on. -/
def secured (listener : Listener) (credentials : Credentials) : Listener :=
  { listener with credentials := some credentials }

def describe (listener : Listener) : String :=
  Text.record "Listener"
    [("fd", toString listener.number.toInt), ("local_addr", listener.address.render),
      ("accept_timeout", Text.milliseconds listener.acceptTimeout.toNat),
      ("tls", toString listener.isSecure)]

/-! ## Setting up -/

/-- Sets up a listening socket, which belongs to the listener from now on and is closed if that
fails. -/
def setUp (number : DescriptorNumber) (address : SocketAddress) (acceptTimeout : Word)
    (host : Host) : Except ListenerError Listener × Host :=
  match host.setupFailure number with
  | some failure => (.error (.setup failure), host.close number)
  | none => (.ok { number, address, acceptTimeout }, host)

/-! ## Binding -/

/-- Binds the first of the addresses that can be bound. The failure told is that of the last. -/
def bindFirst (acceptTimeout : Word) (failure : ListenerError) :
    List SocketAddress → Host → Except ListenerError Listener × Host
  | [], host => (.error failure, host)
  | address :: rest, host =>
    match host.bind address with
    | (.ok (number, bound), host) => setUp number bound acceptTimeout host
    | (.error refused, host) => bindFirst acceptTimeout (.bind address refused) rest host

def bind (address : String) (acceptTimeout : Word) (host : Host) :
    Except ListenerError Listener × Host :=
  match BindAddress.resolve address host.names with
  | .error error => (.error (.unresolved address error), host)
  | .ok addresses => bindFirst acceptTimeout (.unresolved address .noAddresses) addresses host

/-! ## Adopting -/

/-- The address of what is open under a number, if it is a listening socket. -/
def check (host : Host) (number : DescriptorNumber) : Except AdoptionError SocketAddress :=
  match (host.find? number).map Descriptor.file with
  | none => .error (.system .badDescriptor)
  | some .file => .error (.system .notASocket)
  | some .messages => .error .notStream
  | some .stream => .error .notListening
  | some .localListener => .error .notInternet
  | some (.listener address) => .ok address

def adopt (number : DescriptorNumber) (acceptTimeout : Word) (host : Host) :
    Except ListenerError Listener × Host :=
  if number < 0 then (.error (.notAListener number .negative), host)
  else
    match check host number with
    | .error error => (.error (.notAListener number error), host)
    | .ok address => setUp number address acceptTimeout host

/-- Lets a program started by the process get the listening socket. -/
def makeInheritable (listener : Listener) (host : Host) : Host := host.keepOnStart listener.number

end Listener

/-! ## Accepting -/

inductive AcceptError where
  /-- Nobody connected while the accept waited. -/
  | timedOut
  | failed (kind : IoFailure)
deriving DecidableEq, Repr

namespace AcceptError

def message : AcceptError → String
  | .timedOut => "accept timed out"
  | .failed kind => kind.message

/-- Whether the failure is expected now and then and not worth reporting. -/
def isTransient : AcceptError → Bool
  | .timedOut => true
  | .failed kind => kind.isTransient

end AcceptError

end HttpServer
