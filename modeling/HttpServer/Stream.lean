import HttpServer.Bytes
import HttpServer.IoFailure

/-!
# The incoming side of a connection

A peer's octets arrive as a list of deliveries. One read takes from the first delivery only, and at
most as much as there is room for; the remainder stays for the next read. A delivery of no octets
is a read that finds nothing just then, and after the last delivery every read finds nothing: the
end of the stream.
-/

namespace HttpServer

inductive Delivery where
  | octets (bytes : Bytes)
  | failure (kind : IoFailure)
deriving DecidableEq

abbrev Stream := List Delivery

namespace Stream

def read (room : Nat) : Stream → Delivery × Stream
  | [] => (.octets [], [])
  | .failure kind :: rest => (.failure kind, rest)
  | .octets bytes :: rest =>
    if bytes.length ≤ room then (.octets bytes, rest)
    else (.octets (bytes.take room), .octets (bytes.drop room) :: rest)

/-- The octets still to come, failures left out. -/
def contents (stream : Stream) : Bytes :=
  stream.flatMap fun delivery =>
    match delivery with
    | .octets bytes => bytes
    | .failure _ => []

/-- How many reads the stream can keep busy: one for each octet and one for each delivery. -/
def size : Stream → Nat
  | [] => 0
  | .octets bytes :: rest => bytes.length + 1 + size rest
  | .failure _ :: rest => 1 + size rest

theorem size_read_lt {room : Nat} {stream rest : Stream} {first : UInt8} {others : Bytes}
    (brought : stream.read room = (.octets (first :: others), rest)) :
    rest.size < stream.size := by
  cases stream with
  | nil => simp [read] at brought
  | cons delivery tail =>
    cases delivery with
    | failure kind => simp [read] at brought
    | octets bytes =>
      simp only [read] at brought
      split at brought
      · simp only [Prod.mk.injEq] at brought
        obtain ⟨-, rfl⟩ := brought
        simp only [size]
        omega
      · rename_i tooLong
        simp only [Prod.mk.injEq, Delivery.octets.injEq] at brought
        obtain ⟨taken, rfl⟩ := brought
        have someRoom : 0 < room := by
          cases room with
          | zero => simp at taken
          | succ _ => omega
        simp only [size, List.length_drop]
        omega

end Stream

end HttpServer
