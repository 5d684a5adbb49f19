import HttpServer.Address.Reading
import HttpServer.Bytes.Numeral
import HttpServer.Bytes.Utf8
import HttpServer.HostName
import HttpServer.Network
import HttpServer.Text.Quoted

/-!
# Addresses to listen on

The address of a listener is written as a host and a port, or as a port alone after a colon, which
stands for every interface: first by eight groups, then by four octets for hosts that know only
those. Two ports may be given by name. Hosts are given by number, in any of the forms in which a
number may be written, or by a name that someone answers for.
-/

namespace HttpServer

inductive LookupFailure where
  | noName
  /-- Nobody answers. -/
  | noAnswer
  | other (message : String)
deriving DecidableEq, Repr

def LookupFailure.message : LookupFailure → String
  | .noName => "Name or service not known"
  | .noAnswer => "Temporary failure in name resolution"
  | .other message => message

/-- Who answers for names: the addresses of the host with a name, in the order in which to try them,
whatever their ports are. -/
abbrev NameService := List Char → Except LookupFailure (List SocketAddress)

/-- Nobody answers but a host for itself. -/
def NameService.own : NameService := fun name =>
  if HostName.isLocal name then .ok [.short .loopback 0] else .error .noAnswer

inductive ResolveError where
  /-- The port after the leading colon is neither a number nor a known name. -/
  | port (error : Numeral.Error)
  /-- There is no port at all. -/
  | notAnAddress
  /-- The last part is no port. -/
  | portValue
  /-- The host has a character that ends texts. -/
  | endInside
  /-- The host is no number, and no host has it for its name. -/
  | lookup (failure : LookupFailure)
  /-- There is nothing left to try. -/
  | noAddresses
deriving DecidableEq, Repr

def ResolveError.message : ResolveError → String
  | .port error => error.message
  | .notAnAddress => "invalid socket address"
  | .portValue => "invalid port value"
  | .endInside => "file name contained an unexpected NUL byte"
  | .lookup failure => "failed to lookup address information: " ++ failure.message
  | .noAddresses => "no addresses found"

namespace BindAddress

def unresolvedMessage (address : String) (error : ResolveError) : String :=
  "failed to resolve " ++ Text.quoted address ++ ": " ++ error.message

def maximumPort : Nat := 65535

/-- A port by name or number. -/
def namedPort (text : String) : Except Numeral.Error UInt16 :=
  if text = "http" then .ok 80
  else if text = "https" then .ok 443
  else (Numeral.readNatural maximumPort (Utf8.encode text)).map Nat.toUInt16

/-- What stands before the last colon and what follows it. -/
def aroundLastColon? (text : String) : Option (String × String) :=
  let characters := text.toList
  let last := (characters.reverse.takeWhile (· != ':')).reverse
  if characters.contains ':' then
    some (String.ofList (characters.take (characters.length - last.length - 1)), String.ofList last)
  else none

/-- Every interface at a port, in the order in which to try them. -/
def everyInterface (port : UInt16) : List SocketAddress :=
  [.long .unspecified 0 port, .short .unspecified port]

/-! ## Hosts by number -/

/-- The base of a number that has a digit in front, and its digits: sixteen after a zero and an `x`,
eight after a zero, and else ten. -/
def baseOf (text : List Char) : Nat × List Char :=
  match text with
  | '0' :: 'x' :: digits | '0' :: 'X' :: digits => (16, digits)
  | '0' :: _ => (8, text)
  | _ => (10, text)

/-- A number in any base, up to the largest of 32 bits. -/
def part? (text : List Char) : Option Nat := do
  let (base, digits) := baseOf text
  match ← SocketAddress.number base 0xFFFFFFFF digits with
  | (value, []) => some value
  | _ => none

/-- The address that some numbers make up. All but the last give an octet each, and the last gives
all octets that are left. -/
def ofParts? (parts : List Nat) : Option ShortAddress := do
  let last ← parts.getLast?
  let front := parts.dropLast
  if 3 < front.length ∨ front.any (255 < ·) ∨ 256 * 0x1000000 >>> (8 * front.length) ≤ last then none
  else
    let octets := front.map Nat.toUInt8
    let octet (place : Nat) := octets.getD place (last >>> (8 * (3 - place))).toUInt8
    some ⟨octet 0, octet 1, octet 2, octet 3⟩

/-- An address of four octets, written as one to four numbers with points between them. -/
def shortHost? (host : List Char) : Option ShortAddress := do
  ofParts? (← ((String.ofList host).splitOn ".").mapM fun part => part? part.toList)

/-- The name of the link that leads back to the host, which is the first one. -/
def loopbackLink : List Char := "lo".toList

/-- Whether the link of an address may be given by name: the address means something on one link
only, or stands for a group of hosts on it or on the host itself. -/
def mayNameLink (address : LongAddress) : Bool :=
  address.isOfLink
    || address.isShared && address.groups.head?.any fun group => group &&& 15 == 1 || group &&& 15 == 2

/-- The number of a link. The one that leads back to the host may be named. -/
def linkNumber? (address : LongAddress) (text : List Char) : Option UInt32 := do
  if mayNameLink address ∧ text = loopbackLink then some 1
  else
    match ← SocketAddress.number 10 0xFFFFFFFF text with
    | (value, []) => some value.toUInt32
    | _ => none

/-- An address of eight groups, and perhaps a link after a percent sign. -/
def longHost? (host : List Char) : Option (LongAddress × UInt32) := do
  match ← SocketAddress.longAddress (host.takeWhile (· != '%')) with
  | (address, []) =>
    match host.dropWhile (· != '%') with
    | [] => some (address, 0)
    | _ :: link => return (address, ← linkNumber? address link)
  | _ => none

/-! ## Resolving -/

def resolveHost (names : NameService) (host : List Char) (port : UInt16) :
    Except ResolveError (List SocketAddress) :=
  if host.contains '\x00' then .error .endInside
  else
    match shortHost? host, longHost? host with
    | some address, _ => .ok [.short address port]
    | none, some (address, link) => .ok [.long address link port]
    | none, none =>
      if HostName.isName host then
        match names host with
        | .error failure => .error (.lookup failure)
        | .ok addresses => .ok (addresses.map fun address => address.withPort port)
      else .error (.lookup .noName)

def resolve (address : String) (names : NameService := .own) :
    Except ResolveError (List SocketAddress) :=
  match address.toList with
  | ':' :: port =>
    match namedPort (String.ofList port) with
    | .ok port => .ok (everyInterface port)
    | .error error => .error (.port error)
  | _ =>
    match SocketAddress.parse? address with
    | some found => .ok [found]
    | none =>
      match aroundLastColon? address with
      | none => .error .notAnAddress
      | some (host, port) =>
        match Numeral.readNatural maximumPort (Utf8.encode port) with
        | .error _ => .error .portValue
        | .ok port => resolveHost names host.toList port.toUInt16

end BindAddress

end HttpServer
