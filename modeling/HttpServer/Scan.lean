import HttpServer.Bytes

/-!
# Reading a prefix of what has arrived

A message arrives in pieces, so whoever reads it sees a prefix of what is still to come. A scan of
that prefix has one of three outcomes: it found a whole item and says what follows, it needs more
octets to decide, or the octets seen can never become an item.
-/

namespace HttpServer

inductive Scan (ε α : Type) where
  /-- An item, and the octets that follow it. -/
  | found (item : α) (rest : Bytes)
  /-- The run ends before the item does. -/
  | partly
  /-- No continuation of the run is an item. -/
  | wrong (error : ε)
deriving DecidableEq

namespace Scan

variable {ε α β : Type}

def andThen (scan : Scan ε α) (next : α → Bytes → Scan ε β) : Scan ε β :=
  match scan with
  | .found item rest => next item rest
  | .partly => .partly
  | .wrong error => .wrong error

def map (change : α → β) (scan : Scan ε α) : Scan ε β :=
  match scan with
  | .found item rest => .found (change item) rest
  | .partly => .partly
  | .wrong error => .wrong error

end Scan

end HttpServer
