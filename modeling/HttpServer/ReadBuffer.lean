import HttpServer.Bytes
import HttpServer.Memory

/-!
# The read buffer of a connection

Octets that have been read and not yet used wait in a buffer. Its capacity decides how much one
read may bring, so it is part of the contract: it grows by doubling, never shrinks, and always has
room for at least one more octet when a read is made. It may be refused the memory to start with;
that it is refused the memory to grow is not foreseen.
-/

namespace HttpServer

/-- Octets read and not yet used, and the room that has been reserved for them. -/
structure ReadBuffer where
  data : Bytes
  capacity : Nat
  /-- What it grows in. -/
  memory : Memory := .largest
deriving DecidableEq

namespace ReadBuffer

def ofCapacity (capacity : Nat) (memory : Memory := .largest) : Except ReservationError ReadBuffer :=
  (memory.reserve capacity).map fun capacity => { data := [], capacity, memory }

/-- The least capacity a buffer grows to. -/
def leastGrowth : Nat := 8

def readRoom : Nat := 64

/-- Grows to hold at least `size` octets, by doubling or more. -/
def growTo (buffer : ReadBuffer) (size : Nat) : Except ReservationError ReadBuffer :=
  (buffer.memory.reserve (max (max (2 * buffer.capacity) size) leastGrowth)).map fun capacity =>
    { buffer with capacity }

/-- Prepares a read that is to bring the buffer to `wanted` octets. Afterwards there is room for
at least one octet more than the buffer holds. -/
def prepare (buffer : ReadBuffer) (wanted : Nat) : Except ReservationError ReadBuffer := do
  let buffer ← if buffer.capacity < wanted then buffer.growTo wanted else .ok buffer
  if buffer.capacity ≤ buffer.data.length then buffer.growTo (buffer.data.length + readRoom)
  else .ok buffer

def spare (buffer : ReadBuffer) : Nat := buffer.capacity - buffer.data.length

def receive (buffer : ReadBuffer) (bytes : Bytes) : ReadBuffer :=
  { buffer with data := buffer.data ++ bytes }

/-- Keeps only the octets not yet used. -/
def keep (buffer : ReadBuffer) (rest : Bytes) : ReadBuffer := { buffer with data := rest }

end ReadBuffer

end HttpServer
