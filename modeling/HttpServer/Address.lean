/-!
# Socket addresses

A socket address is an internet address with a port. The shorter kind of internet address has four
octets; the longer kind has eight groups of sixteen bits and may name the link it belongs to by
number. `SocketAddress.render` writes the canonical text, in which the longest run of zero groups
is left out.
-/

namespace HttpServer

structure ShortAddress where
  first : UInt8
  second : UInt8
  third : UInt8
  fourth : UInt8
deriving DecidableEq, Repr

/-- An internet address of eight groups. -/
structure LongAddress where
  groups : List UInt16
  eight : groups.length = 8
deriving DecidableEq, Repr

inductive SocketAddress where
  | short (address : ShortAddress) (port : UInt16)
  /-- The link is zero where none is named. -/
  | long (address : LongAddress) (link : UInt32) (port : UInt16)
deriving DecidableEq, Repr

/-! ## The unspecified addresses -/

def ShortAddress.unspecified : ShortAddress := ⟨0, 0, 0, 0⟩

def LongAddress.unspecified : LongAddress := ⟨List.replicate 8 0, by decide⟩

/-! ## Writing -/

def ShortAddress.render (address : ShortAddress) : String :=
  String.intercalate "."
    ([address.first, address.second, address.third, address.fourth].map fun octet =>
      toString octet.toNat)

namespace LongAddress

def renderGroup (group : UInt16) : String := String.ofList (Nat.toDigits 16 group.toNat)

def renderGroups (groups : List UInt16) : String :=
  String.intercalate ":" (groups.map renderGroup)

/-- How many zero groups stand at the front. -/
def zerosAhead (groups : List UInt16) : Nat := (groups.takeWhile (· == 0)).length

/-- The first of the longest runs of zero groups: where it starts and how long it is. -/
def longestZeros (groups : List UInt16) : Nat × Nat :=
  (List.range groups.length).foldl
    (fun best start =>
      let length := zerosAhead (groups.drop start)
      if best.2 < length then (start, length) else best)
    (0, 0)

/-- The four octets that an address of eight groups stands for, when it only wraps them. -/
def wrapped? (address : LongAddress) : Option ShortAddress :=
  match address.groups with
  | [0, 0, 0, 0, 0, 0xFFFF, high, low] =>
    some ⟨(high >>> 8).toUInt8, high.toUInt8, (low >>> 8).toUInt8, low.toUInt8⟩
  | _ => none

/-- The canonical text: the longest run of two or more zero groups is left out, and wrapped octets
are shown as octets. -/
def render (address : LongAddress) : String :=
  match address.wrapped? with
  | some short => "::ffff:" ++ short.render
  | none =>
    let (start, length) := longestZeros address.groups
    if 1 < length then
      renderGroups (address.groups.take start) ++ "::"
        ++ renderGroups (address.groups.drop (start + length))
    else renderGroups address.groups

end LongAddress

namespace SocketAddress

def port : SocketAddress → UInt16
  | .short _ port => port
  | .long _ _ port => port

def withPort : SocketAddress → UInt16 → SocketAddress
  | .short address _, port => .short address port
  | .long address link _, port => .long address link port

def renderHost : SocketAddress → String
  | .short address _ => address.render
  | .long address _ _ => address.render

def isUnspecified : SocketAddress → Bool
  | .short address _ => address = .unspecified
  | .long address _ _ => address = .unspecified

/-- The canonical text of a socket address. -/
def render : SocketAddress → String
  | .short address port => address.render ++ ":" ++ toString port.toNat
  | .long address link port =>
    let named := if link = 0 then "" else "%" ++ toString link.toNat
    "[" ++ address.render ++ named ++ "]:" ++ toString port.toNat

end SocketAddress

end HttpServer
