import HttpServer.KeepAlive
import HttpServer.Proofs.RequestReading

/-!
# The requests of a connection

Which requests a connection serves is decided by reading alone: one after the other, until a read
fails or a request does not ask to keep the connection. Every request uses an octet, so there is
such an end.
-/

namespace HttpServer

/-- The requests of a connection, the failure that ended them unless the last one did not ask to
keep the connection, and the reader after them. -/
structure Session where
  requests : List Request
  failure : Option ReadFailure
  reader : Reader

namespace Session

/-- A session after a request that came before it. -/
def follow (session : Session) (earlier : List Request) : Session :=
  { session with requests := earlier ++ session.requests }

theorem follow_follow (session : Session) (earlier later : List Request) :
    (session.follow later).follow earlier = session.follow (earlier ++ later) := by
  simp only [follow, List.append_assoc]

end Session

namespace Reader

/-- The requests that are read from a connection and how they end. -/
def session (limits : Limits) (reader : Reader) : Session :=
  match _reading : reader.readRequest limits with
  | (.error failure, after) => { requests := [], failure := some failure, reader := after }
  | (.ok request, after) =>
    if request.fields.askKeepAlive then (session limits after).follow [request]
    else { requests := [request], failure := none, reader := after }
termination_by reader.unused.length
decreasing_by exact unused_lt_of_readRequest_ok _reading

/-- The reader after some requests have been asked for, whatever came of them. -/
def afterCalls (limits : Limits) : Nat → Reader → Reader
  | 0, reader => reader
  | calls + 1, reader => afterCalls limits calls (reader.readRequest limits).2

/-- What is read after a request, which may not have asked to keep the connection. -/
def sessionAfter (limits : Limits) (keepAlive : Bool) (reader : Reader) : Session :=
  if keepAlive then reader.session limits
  else { requests := [], failure := none, reader }

variable {limits : Limits} {reader after : Reader}

theorem session_of_error {failure : ReadFailure}
    (reading : reader.readRequest limits = (.error failure, after)) :
    reader.session limits = { requests := [], failure := some failure, reader := after } := by
  rw [session]
  split
  · rename_i given last same
    rw [reading] at same
    simp only [Prod.mk.injEq, Except.error.injEq] at same
    rw [same.1, same.2]
  · rename_i request last same
    simp [reading] at same

theorem session_of_ok {request : Request}
    (reading : reader.readRequest limits = (.ok request, after)) :
    reader.session limits =
      (after.sessionAfter limits request.fields.askKeepAlive).follow [request] := by
  rw [session]
  split
  · rename_i given last same
    simp [reading] at same
  · rename_i given last same
    rw [reading] at same
    simp only [Prod.mk.injEq, Except.ok.injEq] at same
    rw [← same.1, ← same.2, sessionAfter]
    split <;> rfl

end Reader

end HttpServer
