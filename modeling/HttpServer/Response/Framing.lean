import HttpServer.Response

/-!
# Where a response ends

A client tells from the head of a response where it ends: right after the head when no body can
follow, and else as many octets later as the head says. A head that gives no length has no body.
-/

namespace HttpServer.Response

/-- The end of the last line of a head and the empty line after it. -/
def headEnd : Bytes := Bytes.lineEnd ++ Bytes.lineEnd

/-- The octets up to and with the first empty line, and those after it. -/
def splitHead? : Bytes → Option (Bytes × Bytes)
  | [] => none
  | first :: rest =>
    if headEnd.isPrefixOf (first :: rest) then
      some (headEnd, (first :: rest).drop headEnd.length)
    else (splitHead? rest).map fun (head, after) => (first :: head, after)

def lengthLabel : Bytes := Bytes.lineEnd ++ FieldName.contentLength.text ++ Bytes.ascii ":"

def announcedLength : Bytes → Nat
  | [] => 0
  | first :: rest =>
    let line := first :: rest
    if Bytes.sameLetters lengthLabel (line.take lengthLabel.length) then
      let value := (line.drop lengthLabel.length).takeWhile (· != Bytes.carriageReturn)
      (Numeral.readNatural (UInt64.size - 1) (Bytes.trim value)).toOption.getD 0
    else announcedLength rest

/-- The first response of a run that has come whole, and what follows it. -/
def splitFirst? (headOnly : Bool) (bytes : Bytes) : Option (Bytes × Bytes) := do
  let (head, after) ← splitHead? bytes
  let length := if headOnly then 0 else announcedLength head
  if length ≤ after.length then some (head ++ after.take length, after.drop length) else none

end HttpServer.Response
