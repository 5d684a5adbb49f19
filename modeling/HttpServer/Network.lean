import HttpServer.Address
import HttpServer.Outlet

/-!
# Which addresses can be bound

A socket can be bound to an address of the host, to one that stands for many hosts, and to every
interface at once. Ports below a limit are kept from ordinary processes. The two kinds of internet
address are judged in different orders: for the shorter kind the address comes first.
-/

namespace HttpServer

structure Network where
  /-- The addresses of the host besides those that lead back to it. -/
  own : List ShortAddress := []
  /-- How many links there are, numbered from one. -/
  links : Nat := 1
  /-- The least port that an ordinary process may bind. -/
  leastPort : Nat := 1024
deriving DecidableEq, Repr

/-! ## Kinds of addresses -/

/-- Whether an address stands for a group of hosts or for all of them. -/
def ShortAddress.isShared (address : ShortAddress) : Bool :=
  (224 ≤ address.first && address.first < 240) || address = ⟨255, 255, 255, 255⟩

def LongAddress.isShared (address : LongAddress) : Bool :=
  address.groups.head?.any fun group => 0xFF00 ≤ group

/-- Whether an address means something on one link only. -/
def LongAddress.isOfLink (address : LongAddress) : Bool :=
  address.groups.head?.any fun group => group &&& 0xFFC0 == 0xFE80

/-- Whether an address leads back to the host itself. -/
def ShortAddress.isLoopback (address : ShortAddress) : Bool := address.first = 127

/-- The address of four octets that leads back to the host itself. -/
def ShortAddress.loopback : ShortAddress := ⟨127, 0, 0, 1⟩

/-- The address of eight groups that leads back to the host itself. -/
def LongAddress.loopback : LongAddress := ⟨[0, 0, 0, 0, 0, 0, 0, 1], by decide⟩

/-! ## Addresses in common -/

namespace SocketAddress

def short? : SocketAddress → Option ShortAddress
  | .short address _ => some address
  | .long address _ _ => address.wrapped?

/-- Whether every peer can reach a socket that is bound to the address, by whichever kind of
address. -/
def isEverywhere : SocketAddress → Bool
  | .short _ _ => false
  | .long address _ _ => address = .unspecified

/-- Whether two addresses have the same eight groups. -/
def hasSameGroups : SocketAddress → SocketAddress → Bool
  | .long left _ _, .long right _ _ => left = right
  | _, _ => false

/-- Whether some peer could mean either of two sockets that are bound to the addresses. Two such
sockets cannot listen at once. -/
def overlaps (left right : SocketAddress) : Bool :=
  let haveInCommon : Bool :=
    match left.short?, right.short? with
    | some left, some right => left = right || left = .unspecified || right = .unspecified
    | _, _ => left.hasSameGroups right
  left.port = right.port && (left.isEverywhere || right.isEverywhere || haveInCommon)

end SocketAddress

/-! ## Networks -/

namespace Network

variable (network : Network)

/-- Whether a socket can be bound to an address of four octets. -/
def hasShort (address : ShortAddress) : Bool :=
  address = .unspecified || address.isLoopback || address.isShared || network.own.contains address

/-- Whether a port is kept from ordinary processes. Zero asks for any port. -/
def keeps (port : UInt16) : Bool := port != 0 && port.toNat < network.leastPort

/-- Why a socket cannot be bound to an address of eight groups, whatever the port. -/
def refusesLong (address : LongAddress) (link : UInt32) : Option SystemFailure :=
  match address.wrapped? with
  | some short => if network.hasShort short then none else some .addressNotAvailable
  | none =>
    if address = .unspecified || address = .loopback then none
    else if !address.isOfLink then some .addressNotAvailable
    else if link = 0 then some .invalidArgument
    else if network.links < link.toNat then some .noSuchDevice
    else some .addressNotAvailable

/-- Why a socket cannot be bound to a socket address, whoever else uses it. -/
def refuses : SocketAddress → Option SystemFailure
  | .short address port =>
    if !network.hasShort address then some .addressNotAvailable
    else if network.keeps port then some .permissionDenied
    else none
  | .long address link port =>
    if address.isShared then some .invalidArgument
    else if network.keeps port then some .permissionDenied
    else network.refusesLong address link

end Network

end HttpServer
