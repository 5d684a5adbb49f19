import HttpServer.Bytes.Numeral
import HttpServer.Reader

/-!
# Chunked bodies

A chunked body is a sequence of chunks, each a size line and as many octets with a line ending,
then a size line of zero, trailer lines, and an empty line. Extensions of a size line and trailer
lines are skipped. Nothing of a body is used before all of it has arrived.
-/

namespace HttpServer.Chunked

/-! ## Size lines -/

def maximumDigits : Nat := 16
def semicolon : UInt8 := 0x3B

/-- Reads the end of a size line. -/
def scanSizeEnd (size : Nat) : Bytes → Scan Unit Nat
  | [] => .partly
  | first :: rest =>
    if first == Bytes.carriageReturn then
      match rest with
      | [] => .partly
      | second :: tail => if second == Bytes.lineFeed then .found size tail else .wrong ()
    else .wrong ()

/-- Reads a size line: hexadecimal digits (none of them means zero), blanks, an extension that runs
to the carriage return, and the line ending. -/
def scanSize (bytes : Bytes) : Scan Unit Nat :=
  let digits := bytes.takeWhile Numeral.isHexDigit
  let size := Numeral.hexValue digits
  if maximumDigits < digits.length then .wrong ()
  else
    match (bytes.dropWhile Numeral.isHexDigit).dropWhile Bytes.isBlank with
    | [] => .partly
    | first :: rest =>
      if first == semicolon then
        scanSizeEnd size (rest.dropWhile (· != Bytes.carriageReturn))
      else scanSizeEnd size (first :: rest)

theorem length_of_scanSizeEnd {size item : Nat} {bytes rest : Bytes}
    (found : scanSizeEnd size bytes = .found item rest) : rest.length + 2 ≤ bytes.length := by
  unfold scanSizeEnd at found
  split at found
  · simp at found
  · split at found
    · split at found
      · simp at found
      · split at found
        · simp only [Scan.found.injEq] at found
          obtain ⟨-, rfl⟩ := found
          simp
        · simp at found
    · simp at found

theorem length_dropWhile_le (test : UInt8 → Bool) (bytes : Bytes) :
    (bytes.dropWhile test).length ≤ bytes.length :=
  (List.dropWhile_suffix test).length_le

theorem length_of_scanSize {size : Nat} {bytes rest : Bytes}
    (found : scanSize bytes = .found size rest) : rest.length + 2 ≤ bytes.length := by
  unfold scanSize at found
  simp only at found
  split at found
  · simp at found
  · split at found
    · simp at found
    · rename_i first tail same
      have short : (first :: tail).length ≤ bytes.length := by
        rw [← same]
        exact Nat.le_trans (length_dropWhile_le _ _) (length_dropWhile_le _ _)
      split at found
      · have := length_of_scanSizeEnd found
        have := length_dropWhile_le (· != Bytes.carriageReturn) tail
        simp only [List.length_cons] at short
        omega
      · exact Nat.le_trans (length_of_scanSizeEnd found) short

/-! ## Trailers -/

/-- Skips trailer lines through the empty line. A line that is not complete may not be longer than
the bound on heads. -/
def scanTrailers (limits : Limits) (bytes : Bytes) : Attempt Bytes :=
  match _found : Bytes.afterLine bytes with
  | none => if limits.head < bytes.length then .refused (.headTooLarge limits.head) else .wait 0
  | some rest =>
    if bytes.length = rest.length + 2 then .found [] rest else scanTrailers limits rest
termination_by bytes.length
decreasing_by
  have := Bytes.length_of_afterLine _found
  omega

/-! ## Chunks -/

/-- Whether a body of `decoded` octets may grow by `size`. The sum is taken in a machine word and
stops at its end. -/
def fits (limits : Limits) (decoded size : Nat) : Bool :=
  min (decoded + size) (wordSize - 1) ≤ limits.body

/-- Looks for the rest of a chunked body in `ahead`, which stands `passed` octets into the buffer
and after `decoded` octets of body. A chunk whose end does not fit into a machine word cannot be
waited for. -/
def scanChunks (limits : Limits) (passed decoded : Nat) (ahead : Bytes) : Attempt Bytes :=
  match _found : scanSize ahead with
  | .wrong _ => .refused .invalidChunk
  | .partly => if limits.head < ahead.length then .refused .invalidChunk else .wait 0
  | .found size rest =>
    if size = 0 then scanTrailers limits rest
    else if !fits limits decoded size then .refused (.bodyTooLarge limits.body)
    else
      let start := passed + (ahead.length - rest.length)
      let stop := start + size + 2
      if wordSize ≤ stop then .failed (.fault .offsetOverflow)
      else if passed + ahead.length < stop then .wait stop
      else
        match _cut : rest.drop size with
        | first :: second :: tail =>
          if [first, second] == Bytes.lineEnd then
            (scanChunks limits stop (decoded + size) tail).map (rest.take size ++ ·)
          else .refused .invalidChunk
        | _ => .refused .invalidChunk
termination_by ahead.length
decreasing_by
  have shorter := length_of_scanSize _found
  have tailLength : (rest.drop size).length = tail.length + 2 := by rw [_cut]; simp
  rw [List.length_drop] at tailLength
  omega

def scan (limits : Limits) (bytes : Bytes) : Attempt Bytes := scanChunks limits 0 0 bytes

end HttpServer.Chunked
