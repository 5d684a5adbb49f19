import HttpServer.Body.Framing

/-!
# Reading requests

A request is read in two parts. First the head is awaited; once it is complete it is used up,
whatever becomes of the body. Then the body is awaited in the framing that the head asks for. What
follows a request stays buffered, so requests that arrive together are read one after the other.
-/

namespace HttpServer.Reader

/-- Looks for a request head. A head that is not complete may not fill the bound on heads. -/
def scanHead (limits : Limits) (bytes : Bytes) : Attempt RequestHead :=
  match HeadLines.scan bytes with
  | .found lines rest =>
    match RequestHead.ofLines lines with
    | .ok head => .found head rest
    | .error error => .refused (.invalidHead error)
  | .wrong error => .refused (.malformed error)
  | .partly =>
    if limits.head ≤ bytes.length then .refused (.headTooLarge limits.head) else .wait 0

/-- The end of the stream between requests is an ordinary one. -/
def headEnd (bytes : Bytes) : DecodeError := if bytes.isEmpty then .closed else .truncated

def readHead (limits : Limits) (reader : Reader) : Except ReadFailure RequestHead × Reader :=
  reader.await (scanHead limits) headEnd

def readBody (limits : Limits) (framing : Framing) (reader : Reader) :
    Except ReadFailure Bytes × Reader :=
  reader.await (framing.scanBody limits) fun _ => .truncated

def readRequest (limits : Limits) (reader : Reader) : Except ReadFailure Request × Reader :=
  match reader.readHead limits with
  | (.error failure, reader) => (.error failure, reader)
  | (.ok head, reader) =>
    match Framing.ofFields head.fields with
    | .error error => (.error (.refused error), reader)
    | .ok framing =>
      match reader.readBody limits framing with
      | (.error failure, reader) => (.error failure, reader)
      | (.ok body, reader) => (.ok (head.withBody body), reader)

/-! ## Several reads -/

abbrev Reading := Except ReadFailure Request × Reader

def readTimes (limits : Limits) : Nat → Reader → List Reading
  | 0, _ => []
  | times + 1, reader =>
    let reading := reader.readRequest limits
    reading :: readTimes limits times reading.2

/-- Reads until one read fails, and at most `most` times. -/
def readThroughFailure (limits : Limits) : Nat → Reader → List Reading
  | 0, _ => []
  | most + 1, reader =>
    let reading := reader.readRequest limits
    match reading.1 with
    | .ok _ => reading :: readThroughFailure limits most reading.2
    | .error _ => [reading]

end HttpServer.Reader
