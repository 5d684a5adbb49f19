/-!
# Memory

A host has so much memory, and an allocator that grants a size or refuses it. What a refusal does
depends on how the memory was asked for. Who asks so that it may fail is told why. Who does not,
because the memory has to be there, meets a fault: a size that no collection may have ends the task,
and a size that the allocator refuses ends the whole process.
-/

namespace HttpServer

/-- The number of values of a machine word. -/
def wordSize : Nat := UInt64.size

/-- The largest size a collection may have. -/
def maximumCollection : Nat := wordSize / 2 - 1

/-- The number of octets that a process can address, for which it has at most 56 bits. -/
def addressSpace : Nat := 1 <<< 56

inductive ReservationError where
  /-- The size is beyond what a collection may ever have. -/
  | capacityOverflow
  /-- The size is permitted, but there is not that much memory. -/
  | allocatorRefused
deriving DecidableEq, Repr

def ReservationError.message : ReservationError → String
  | .capacityOverflow =>
    "memory allocation failed because the computed capacity exceeded the collection's maximum"
  | .allocatorRefused =>
    "memory allocation failed because the memory allocator returned an error"

/-- The least that memory is handed out in. -/
def pageSize : Nat := 4096

/-- The memory of a host. No allocation of `size` octets or more fits into it. -/
structure Memory where
  size : Nat := addressSpace
  page : pageSize ≤ size := by decide
  addressable : size ≤ addressSpace := by decide
deriving DecidableEq

namespace Memory

/-- The memory of a host on which a process has all that it can address. -/
def largest : Memory := {}

def reserve (memory : Memory) (size : Nat) : Except ReservationError Nat :=
  if maximumCollection < size then .error .capacityOverflow
  else if memory.size ≤ size then .error .allocatorRefused
  else .ok size

end Memory

end HttpServer
