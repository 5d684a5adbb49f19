import HttpServer.Request.DecodeError
import HttpServer.Stream

/-!
# Reading until an item is complete

A reader is a buffer and the stream that fills it. `Reader.await` looks for an item in what is
buffered; as long as the item is not complete and nothing speaks against it, it reads once more and
looks again. Looking is a pure function of the buffered octets, so what it decides does not depend
on how they arrived.
-/

namespace HttpServer

inductive Attempt (α : Type) where
  /-- The item, and the octets after it. -/
  | found (item : α) (rest : Bytes)
  /-- Nothing yet. The item needs at least `wanted` octets in the buffer. -/
  | wait (wanted : Nat)
  | failed (failure : ReadFailure)
deriving DecidableEq

namespace Attempt

variable {α β : Type}

def refused (error : DecodeError) : Attempt α := .failed (.refused error)

def map (change : α → β) : Attempt α → Attempt β
  | .found item rest => .found (change item) rest
  | .wait wanted => .wait wanted
  | .failed failure => .failed failure

end Attempt

/-- The incoming side of a connection: what has been read and what is still to come. -/
structure Reader where
  buffer : ReadBuffer
  stream : Stream
deriving DecidableEq

namespace Reader

/-- The octets not yet used, buffered or still to come. -/
def unused (reader : Reader) : Bytes := reader.buffer.data ++ reader.stream.contents

/-- Reads until an attempt finds an item or fails. `atEnd` says what the end of the stream means
when the item is not complete. On success the octets after the item stay in the buffer; on failure
the buffer keeps everything it holds. -/
def await {α : Type} (attempt : Bytes → Attempt α) (atEnd : Bytes → DecodeError)
    (reader : Reader) : Except ReadFailure α × Reader :=
  match attempt reader.buffer.data with
  | .found item rest => (.ok item, { reader with buffer := reader.buffer.keep rest })
  | .failed failure => (.error failure, reader)
  | .wait wanted =>
    match reader.buffer.prepare wanted with
    | .error error => (.error (.fault (.reservation error)), reader)
    | .ok buffer =>
      match _brought : reader.stream.read buffer.spare with
      | (.failure kind, rest) =>
        (.error (.refused (.readFailed kind)), { buffer, stream := rest })
      | (.octets [], rest) =>
        (.error (.refused (atEnd buffer.data)), { buffer, stream := rest })
      | (.octets (first :: others), rest) =>
        await attempt atEnd { buffer := buffer.receive (first :: others), stream := rest }
termination_by reader.stream.size
decreasing_by exact Stream.size_read_lt _brought

end Reader

end HttpServer
