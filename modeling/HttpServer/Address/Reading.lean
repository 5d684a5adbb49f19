import HttpServer.Address

/-!
# Reading socket addresses

The accepted texts: four decimal octets without leading zeros and a port, or eight groups between
brackets and a port. One run of zero groups may be left out, the last two groups may be written as
four octets, and a link number may follow the groups. No names are accepted. Every reader takes its
item from the front of a text and gives what follows it.
-/

namespace HttpServer.SocketAddress

def digitValue? (base : Nat) (character : Char) : Option Nat :=
  let value :=
    if character.isDigit then some (character.toNat - '0'.toNat)
    else if 'a' ≤ character ∧ character ≤ 'f' then some (character.toNat - 'a'.toNat + 10)
    else if 'A' ≤ character ∧ character ≤ 'F' then some (character.toNat - 'A'.toNat + 10)
    else none
  value.filter (· < base)

def digits (base : Nat) (text : List Char) : List Nat × List Char :=
  let isDigit := fun character => (digitValue? base character).isSome
  ((text.takeWhile isDigit).filterMap (digitValue? base), text.dropWhile isDigit)

/-- A number of at least one digit and at most `limit`. -/
def number (base limit : Nat) (text : List Char) : Option (Nat × List Char) :=
  let (found, rest) := digits base text
  let value := found.foldl (fun value digit => value * base + digit) 0
  if found.isEmpty || limit < value then none else some (value, rest)

def mark (expected : Char) : List Char → Option (List Char)
  | character :: rest => if character = expected then some rest else none
  | [] => none

/-- One octet in decimal. Only zero itself may start with a zero. -/
def octet (text : List Char) : Option (UInt8 × List Char) := do
  let (found, _) := digits 10 text
  if 3 < found.length || (found.head? == some 0 && 1 < found.length) then none
  else
    let (value, rest) ← number 10 255 text
    some (value.toUInt8, rest)

def shortAddress (text : List Char) : Option (ShortAddress × List Char) := do
  let (first, rest) ← octet text
  let (second, rest) ← octet (← mark '.' rest)
  let (third, rest) ← octet (← mark '.' rest)
  let (fourth, rest) ← octet (← mark '.' rest)
  some (⟨first, second, third, fourth⟩, rest)

def group (text : List Char) : Option (UInt16 × List Char) := do
  if 4 < (digits 16 text).1.length then none
  else
    let (value, rest) ← number 16 0xFFFF text
    some (value.toUInt16, rest)

def portAfterColon (text : List Char) : Option (UInt16 × List Char) := do
  let (value, rest) ← number 10 0xFFFF (← mark ':' text)
  some (value.toUInt16, rest)

/-- The groups at the front of a text. -/
structure Groups where
  groups : List UInt16
  /-- Whether the last two were written as octets. -/
  endInOctets : Bool
  rest : List Char

/-- The two groups that four octets stand for. -/
def ShortAddress.groups (address : ShortAddress) : List UInt16 :=
  [address.first.toUInt16 <<< 8 ||| address.second.toUInt16,
    address.third.toUInt16 <<< 8 ||| address.fourth.toUInt16]

/-- As many groups as there are, up to `room`, with colons between them. Four octets may stand for
the last two. `follows` tells whether a group stands before these. -/
def groupsUpTo : (room : Nat) → (follows : Bool) → List Char → Groups
  | 0, _, text => ⟨[], false, text⟩
  | room + 1, follows, text =>
    match if follows then mark ':' text else some text with
    | none => ⟨[], false, text⟩
    | some start =>
      match if 0 < room then shortAddress start else none with
      | some (address, rest) => ⟨ShortAddress.groups address, true, rest⟩
      | none =>
        match group start with
        | none => ⟨[], false, text⟩
        | some (first, rest) =>
          let others := groupsUpTo room true rest
          ⟨first :: others.groups, others.endInOctets, others.rest⟩

/-- Groups as an address, if there are eight. -/
def longAddressOf (groups : List UInt16) : Option LongAddress :=
  if eight : groups.length = 8 then some ⟨groups, eight⟩ else none

/-- Eight groups, of which a run of zeros may be left out between two colons. -/
def longAddress (text : List Char) : Option (LongAddress × List Char) := do
  let front := groupsUpTo 8 false text
  if front.groups.length = 8 then
    some (← longAddressOf front.groups, front.rest)
  else if front.endInOctets then none
  else
    let back := groupsUpTo (7 - front.groups.length) false (← mark ':' (← mark ':' front.rest))
    let zeros := List.replicate (8 - front.groups.length - back.groups.length) 0
    some (← longAddressOf (front.groups ++ zeros ++ back.groups), back.rest)

/-- A link number after its percent sign; nothing is read where there is none. -/
def link (text : List Char) : UInt32 × List Char :=
  let read := do number 10 0xFFFFFFFF (← mark '%' text)
  match read with
  | some (value, rest) => (value.toUInt32, rest)
  | none => (0, text)

def readFront (text : List Char) : Option (SocketAddress × List Char) :=
  let short := do
    let (address, rest) ← shortAddress text
    let (port, rest) ← portAfterColon rest
    some (SocketAddress.short address port, rest)
  match short with
  | some found => some found
  | none => do
    let (address, rest) ← longAddress (← mark '[' text)
    let (link, rest) := link rest
    let (port, rest) ← portAfterColon (← mark ']' rest)
    some (SocketAddress.long address link port, rest)

def parse? (text : String) : Option SocketAddress :=
  match readFront text.toList with
  | some (address, []) => some address
  | _ => none

end HttpServer.SocketAddress
