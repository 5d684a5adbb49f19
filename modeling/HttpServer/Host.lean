import HttpServer.BindAddress
import HttpServer.Config
import HttpServer.Files
import HttpServer.Memory
import HttpServer.Network

/-!
# The process and its host

What a server asks of its host: files, the open descriptors of the process, and sockets bound to
addresses. A descriptor is a number under which something is open. The host hands out numbers that
have not been used before, and ports likewise where none is asked for.
-/

namespace HttpServer

inductive OpenFile where
  /-- A listening socket for internet addresses. -/
  | listener (address : SocketAddress)
  /-- A stream socket that does not listen. -/
  | stream
  /-- A socket of another type, which keeps the bounds of messages. -/
  | messages
  /-- A listening socket within the host. -/
  | localListener
  /-- Something that is no socket. -/
  | file
deriving DecidableEq, Repr

structure Descriptor where
  number : DescriptorNumber
  file : OpenFile
  /-- Whether a program started by the process does not get it. -/
  closedOnStart : Bool := true
deriving DecidableEq, Repr

/-- What is open in a process that has just started: its three streams, what it waits for events
with, and the sockets through which it hears of signals. -/
def Descriptor.initial : List Descriptor :=
  [0, 1, 2].map (⟨·, .file, false⟩) ++ [3, 4, 5].map (⟨·, .file, true⟩)
    ++ [6, 7, 8].map (⟨·, .stream, true⟩)

/-- The host of a server. -/
structure Host where
  files : FileSystem
  names : NameService := .own
  descriptors : List Descriptor := []
  /-- Why nothing can be bound to an address whoever else uses it, where that is so. -/
  refuses : SocketAddress → Option SystemFailure := ({} : Network).refuses
  /-- Addresses that other processes listen on. -/
  taken : List SocketAddress := []
  nextNumber : DescriptorNumber := 3
  /-- The ports to give, one after the other, where none is asked for. -/
  freePort : Nat → UInt16 := fun given => (49152 + given).toUInt16
  /-- How many of them have been given. -/
  portsGiven : Nat := 0
  /-- The listening sockets that cannot be set up once they are open. -/
  setupFailure : DescriptorNumber → Option SystemFailure := fun _ => none
  memory : Memory := .largest

namespace Host

def find? (host : Host) (number : DescriptorNumber) : Option Descriptor :=
  host.descriptors.find? fun descriptor => descriptor.number = number

def isOpen (host : Host) (number : DescriptorNumber) : Bool := (host.find? number).isSome

/-- Opens something under a new number. -/
def openFile (host : Host) (opened : OpenFile) : DescriptorNumber × Host :=
  (host.nextNumber,
    { host with
      descriptors := host.descriptors ++ [{ number := host.nextNumber, file := opened }]
      nextNumber := host.nextNumber + 1 })

def close (host : Host) (number : DescriptorNumber) : Host :=
  { host with descriptors := host.descriptors.filter fun descriptor => descriptor.number ≠ number }

/-- Lets programs started by the process get a descriptor. -/
def keepOnStart (host : Host) (number : DescriptorNumber) : Host :=
  { host with
    descriptors := host.descriptors.map fun descriptor =>
      if descriptor.number = number then { descriptor with closedOnStart := false }
      else descriptor }

/-- The host as a program sees it that the process starts: with the descriptors it gets. -/
def forSuccessor (host : Host) : Host :=
  { host with descriptors := host.descriptors.filter fun descriptor => !descriptor.closedOnStart }

/-- The addresses that someone listens on. -/
def inUse (host : Host) : List SocketAddress :=
  host.taken ++ host.descriptors.filterMap fun descriptor =>
    match descriptor.file with
    | .listener address => some address
    | _ => none

/-- Whether someone listens on an address, or on one that has peers in common with it. -/
def isTaken (host : Host) (address : SocketAddress) : Bool := host.inUse.any address.overlaps

/-- Binds a listening socket to an address. A port of zero stands for any port. -/
def bind (host : Host) (address : SocketAddress) :
    Except SystemFailure (DescriptorNumber × SocketAddress) × Host :=
  match host.refuses address with
  | some failure => (.error failure, host)
  | none =>
    if address.port = 0 then
      let bound := address.withPort (host.freePort host.portsGiven)
      let host := { host with portsGiven := host.portsGiven + 1 }
      let (number, host) := host.openFile (.listener bound)
      (.ok (number, bound), host)
    else if host.isTaken address then (.error .addressInUse, host)
    else
      let (number, host) := host.openFile (.listener address)
      (.ok (number, address), host)

end Host

end HttpServer
