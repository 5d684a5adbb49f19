import HttpServer.Config.Validation
import HttpServer.Connection
import HttpServer.Proofs.ChunkGrammar
import HttpServer.Proofs.Filling
import HttpServer.Proofs.Segmentation
import HttpServer.Proofs.Session
import HttpServer.Proofs.WrittenNumbers

/-!
# Lengths that no memory holds

A peer says how long a body or a chunk is before it sends it, and room for that much is asked for
at once. No collection has room for more than half of what a machine word counts. A peer that says
more is refused because of the bound on bodies, unless that bound is as large itself: then the
reading ends in a panic. It never does for another reason.
-/

namespace HttpServer

/-! ## Attempts that are stuck -/

/-- Whether a failure is a panic: more was asked for than a collection may have, or an offset is
not a machine word. -/
def ReadFailure.isPanic : ReadFailure → Bool
  | .fault (.reservation .capacityOverflow) | .fault .offsetOverflow => true
  | _ => false

/-- The attempt panics, or waits for so much that asking for room panics. -/
inductive Attempt.IsStuck {α : Type} : Attempt α → Prop where
  | failed (failure : ReadFailure) (panics : failure.isPanic = true) : IsStuck (.failed failure)
  | waits (wanted : Nat) (vast : maximumCollection < wanted) : IsStuck (.wait wanted)

/-- The attempt waits for at least so many octets, or fails by a fault, which nothing within a
machine word is too much for. -/
inductive Attempt.Demands {α : Type} (least : Nat) : Attempt α → Prop where
  | failed (fault : Fault) (within : least ≤ wordSize) : Demands least (.failed (.fault fault))
  | waits (wanted : Nat) (large : least ≤ wanted) : Demands least (.wait wanted)

theorem Attempt.IsStuck.demands {α : Type} {attempt : Attempt α} (stuck : attempt.IsStuck) :
    attempt.Demands (maximumCollection + 1) := by
  cases stuck with
  | failed failure panics =>
      cases failure with
      | refused error =>
          cases panics
      | fault fault =>
          exact .failed fault (by decide)
  | waits wanted vast =>
      exact .waits wanted vast

theorem Attempt.not_demands_refused {α : Type} {least : Nat} (error : DecodeError) :
    ¬ (refused error : Attempt α).Demands least := by
  intro demands
  cases demands

theorem Attempt.not_demands_wait {α : Type} {least : Nat} (positive : 0 < least) :
    ¬ (wait 0 : Attempt α).Demands least := by
  intro demands
  cases demands with
  | waits wanted large =>
      exact absurd positive (Nat.not_lt.mpr large)

theorem Attempt.Demands.of_map {α β : Type} {attempt : Attempt α} {change : α → β} {least : Nat}
    (demands : (attempt.map change).Demands least) :
    attempt.Demands least := by
  cases attempt with
  | found item rest =>
      cases demands
  | wait wanted =>
      cases demands with
      | waits wanted large =>
          exact .waits wanted large
  | failed failure =>
      cases demands with
      | failed fault within =>
          exact .failed fault within

namespace Chunked

variable {limits : Limits} {least : Nat}

theorem not_demands_scanTrailers (positive : 0 < least) (bytes : Bytes) :
    ¬ (scanTrailers limits bytes).Demands least := by
  fun_induction scanTrailers limits bytes with
  | case1 =>
      exact Attempt.not_demands_refused _
  | case2 =>
      exact Attempt.not_demands_wait positive
  | case3 =>
      intro demands
      cases demands
  | case4 bytes after line long inductionHypothesis =>
      exact inductionHypothesis

theorem SizeLine.size_lt (line : SizeLine) : line.size < wordSize := by
  have value := Numeral.hexValue_lt line.hexadecimal
  have few : Nat.pow 16 line.digits.length ≤ Nat.pow 16 maximumDigits :=
    Nat.pow_le_pow_right (by decide) line.few
  exact Nat.lt_of_lt_of_le value few

/-- The scan demands much behind a size line when the chunk is large, or behind that chunk. -/
theorem demands_of_scanData {start decoded size : Nat} {after : Bytes}
    (demands : (scanData limits start decoded size after).Demands least) :
    fits limits decoded size = true ∧
      (least ≤ start + size + 2 ∨
        size + 2 ≤ after.length ∧ (after.drop size).take 2 = Bytes.lineEnd ∧
          (scanChunks limits (start + size + 2) (decoded + size)
            (after.drop (size + 2))).Demands least) := by
  unfold scanData at demands
  split at demands
  · exact absurd demands (Attempt.not_demands_refused _)
  · rename_i allowed
    refine ⟨by simpa using allowed, ?_⟩
    split at demands
    · left
      cases demands with
      | failed fault within =>
          omega
    · split at demands
      · cases demands with
        | waits wanted large =>
            exact Or.inl large
      · split at demands
        · rename_i arrived ends
          exact Or.inr ⟨by omega, by simpa using ends, demands.of_map⟩
        · exact absurd demands (Attempt.not_demands_refused _)

/-- Where the scan demands much there are whole chunks and a size line, and the chunk of that line
ends so far ahead. -/
theorem size_of_scanChunks_demands {passed decoded : Nat} {ahead : Bytes} (positive : 0 < least)
    (demands : (scanChunks limits passed decoded ahead).Demands least) :
    ∃ (chunks : List Chunk) (line : SizeLine) (rest : Bytes),
      ahead = chunks.flatMap Chunk.octets ++ (line.octets ++ rest) ∧
      line.size ≤ limits.body ∧
      least ≤ passed + (chunks.flatMap Chunk.octets ++ line.octets).length + line.size + 2 := by
  -- a chunk that is passed over leaves less ahead, and moves the place where it stands
  induction length : ahead.length using Nat.strong_induction_on
    generalizing ahead passed decoded with
  | _ _ inductionHypothesis =>
    subst length
    cases verdict : scanSize ahead with
    | wrong error =>
        rw [scanChunks_of_wrong verdict] at demands
        exact absurd demands (Attempt.not_demands_refused _)
    | partly =>
        rw [scanChunks_of_partly verdict] at demands
        split at demands
        · exact absurd demands (Attempt.not_demands_refused _)
        · exact absurd demands (Attempt.not_demands_wait positive)
    | found size after =>
        obtain ⟨line, rfl, rfl⟩ := sizeLine_of_scanSize verdict
        have shorter := length_of_scanSize verdict
        rw [scanChunks_line] at demands
        by_cases last : line.size = 0
        · rw [if_pos last] at demands
          exact absurd demands (not_demands_scanTrailers positive after)
        · rw [if_neg last] at demands
          obtain ⟨allowed, large | ⟨arrived, ends, behind⟩⟩ := demands_of_scanData demands
          · exact ⟨[], line, after, rfl, le_of_fits allowed line.size_lt, large⟩
          · obtain ⟨chunk, sameLine, sameData, parts⟩ := exists_chunk last arrived ends
            obtain ⟨others, inner, rest, cut, allowedInner, large⟩ := inductionHypothesis _
              (by rw [List.length_drop]; omega) behind rfl
            have total := chunk.length_octets
            rw [sameLine, ← chunk.same, sameLine] at total
            refine ⟨chunk :: others, inner, rest, ?_, allowedInner, ?_⟩
            · rw [parts, cut, List.flatMap_cons, List.append_assoc]
            · rw [List.flatMap_cons, List.append_assoc, List.length_append, total]
              omega

end Chunked

namespace Framing

variable {limits : Limits} {framing : Framing} {ahead : Bytes} {needed : Nat}

/-- How many octets have to be in the buffer for what a peer has said about the length of a body, or
of the chunk behind those that are ahead. -/
inductive Announces (limits : Limits) (ahead : Bytes) : Framing → Nat → Prop where
  | body (length : Nat) (allowed : length ≤ limits.body) :
      Announces limits ahead (.sized length) length
  | chunk (chunks : List Chunked.Chunk) (line : Chunked.SizeLine) (rest : Bytes)
      (front : ahead = chunks.flatMap Chunked.Chunk.octets ++ (line.octets ++ rest))
      (allowed : line.size ≤ limits.body) :
      Announces limits ahead .chunked
        ((chunks.flatMap Chunked.Chunk.octets ++ line.octets).length + line.size + 2)

theorem Announces.le (announces : Announces limits ahead framing needed) :
    needed ≤ ahead.length + limits.body + 2 := by
  cases announces with
  | body length allowed =>
      omega
  | chunk chunks line rest front allowed =>
      have total := congrArg List.length front
      rw [← List.append_assoc, List.length_append] at total
      omega

theorem announces_of_scanBody_demands {least : Nat} (positive : 0 < least)
    (demands : (framing.scanBody limits ahead).Demands least) :
    ∃ needed, framing.Announces limits ahead needed ∧ least ≤ needed := by
  cases framing with
  | absent =>
      cases demands
  | sized length =>
      simp only [scanBody, scanSized] at demands
      split at demands
      · exact absurd demands (Attempt.not_demands_refused _)
      · split at demands
        · rename_i allowed _
          cases demands with
          | waits wanted large =>
              exact ⟨length, .body length (Nat.not_lt.mp allowed), large⟩
        · cases demands
  | chunked =>
      have demandsAtStart : (Chunked.scanChunks limits 0 0 ahead).Demands least := demands
      obtain ⟨chunks, line, rest, front, allowed, large⟩ :=
        Chunked.size_of_scanChunks_demands positive demandsAtStart
      rw [Nat.zero_add] at large
      exact ⟨_, .chunk chunks line rest front allowed, large⟩

end Framing

namespace Reader

variable {α : Type} {attempt : Bytes → Attempt α} {atEnd : Bytes → DecodeError}
  {limits : Limits} {reader : Reader} {failure : ReadFailure}

/-! ## Readings that panic -/

theorem not_demands_scanHead {least : Nat} (positive : 0 < least) (bytes : Bytes) :
    ¬ (scanHead limits bytes).Demands least := by
  rcases scanHead_cases limits bytes with ⟨head, rest, found⟩ | ⟨error, refused⟩ | ⟨waits, -⟩
  · rw [found]
    intro demands
    cases demands
  · rw [refused]
    exact Attempt.not_demands_refused error
  · rw [waits]
    exact Attempt.not_demands_wait positive

theorem isStuck_of_await_panic (granted : reader.buffer.IsGranted)
    (failed : (reader.await attempt atEnd).1 = .error failure) (panics : failure.isPanic = true) :
    (attempt (reader.await attempt atEnd).2.buffer.data).IsStuck := by
  obtain ⟨last, fills, ends⟩ := exists_ends_await attempt atEnd reader
  have grantedLast := isGranted_of_fills fills granted
  generalize reader.await attempt atEnd = outcome at ends failed ⊢
  cases ends with
  | found item rest verdict =>
      cases failed
  | failed failure verdict =>
      obtain rfl := Except.error.inj failed
      show (attempt last.buffer.data).IsStuck
      rw [verdict]
      exact .failed _ panics
  | unprepared wanted error waits refused =>
      obtain rfl := Except.error.inj failed
      show (attempt last.buffer.data).IsStuck
      rw [waits]
      cases error with
      | capacityOverflow =>
          exact .waits wanted (grantedLast.wanted_of_capacityOverflow refused)
      | allocatorRefused =>
          cases panics
  | broken | ended =>
      obtain rfl := Except.error.inj failed
      cases panics

theorem readRequest_fault_cases {fault : Fault}
    (faulted : (reader.readRequest limits).1 = .error (.fault fault)) :
    (reader.readHead limits).1 = .error (.fault fault) ∨
      ∃ head middle framing, reader.readHead limits = (.ok head, middle) ∧
        Framing.ofFields head.fields = .ok framing ∧
        middle.readBody limits framing = (.error (.fault fault), (reader.readRequest limits).2) := by
  rcases readRequest_cases limits reader with
    ⟨failure, middle, headReading, same⟩ | ⟨head, middle, error, -, -, same⟩ |
      ⟨head, middle, framing, headReading, framed, same⟩
  · rw [same] at faulted
    rw [headReading]
    exact .inl (congrArg _ (Except.error.inj faulted))
  · rw [same] at faulted
    cases faulted
  · right
    refine ⟨head, middle, framing, headReading, framed, ?_⟩
    rw [same] at faulted ⊢
    generalize middle.readBody limits framing = reading at faulted ⊢
    obtain ⟨failure | body, last⟩ := reading
    · rw [Except.error.inj faulted]
    · cases faulted

/-- A request that ends in a panic has a head whose framing, with what is in the buffer, announces
more than a collection may have. -/
theorem announces_of_readRequest_panic (granted : reader.buffer.IsGranted)
    (failed : (reader.readRequest limits).1 = .error failure) (panics : failure.isPanic = true) :
    ∃ head middle framing needed, reader.readHead limits = (.ok head, middle) ∧
      Framing.ofFields head.fields = .ok framing ∧
      framing.Announces limits (reader.readRequest limits).2.buffer.data needed ∧
      maximumCollection < needed := by
  cases failure with
  | refused error =>
      cases panics
  | fault fault =>
      rcases readRequest_fault_cases failed with
        headFailed | ⟨head, middle, framing, headReading, framed, bodyReading⟩
      · exact absurd (isStuck_of_await_panic granted headFailed panics).demands
          (not_demands_scanHead (Nat.succ_pos _) _)
      · have grantedMiddle := isGranted_readHead limits granted
        rw [headReading] at grantedMiddle
        have stuck := isStuck_of_await_panic grantedMiddle (congrArg Prod.fst bodyReading) panics
        rw [← readBody, bodyReading] at stuck
        obtain ⟨needed, announces, vast⟩ :=
          Framing.announces_of_scanBody_demands (Nat.succ_pos _) stuck.demands
        exact ⟨head, middle, framing, needed, headReading, framed, announces, vast⟩

theorem isGranted_afterCalls (calls : Nat) (granted : reader.buffer.IsGranted) :
    (reader.afterCalls limits calls).buffer.IsGranted := by
  induction calls generalizing reader with
  | zero =>
      exact granted
  | succ calls inductionHypothesis =>
      exact inductionHypothesis (isGranted_readRequest limits granted)

theorem memory_afterCalls (limits : Limits) (calls : Nat) (reader : Reader) :
    (reader.afterCalls limits calls).buffer.memory = reader.buffer.memory := by
  induction calls generalizing reader with
  | zero =>
      rfl
  | succ calls inductionHypothesis =>
      exact (inductionHypothesis _).trans (memory_readRequest limits reader)

/-- Whether a reading ends in a panic. -/
def panics {α : Type} : Except ReadFailure α → Bool
  | .ok _ => false
  | .error failure => failure.isPanic

theorem exists_failure_of_panics {outcome : Except ReadFailure α}
    (panicked : panics outcome = true) :
    ∃ failure, outcome = .error failure ∧ failure.isPanic = true := by
  cases outcome with
  | ok item =>
      cases panicked
  | error failure =>
      exact ⟨failure, rfl, panicked⟩

/-- However often a request is asked for, and whatever comes, a call panics only over a length that
is allowed and vast: the head it read, with the octets in the buffer, announces more than a
collection may have. So no call panics when the bound on bodies leaves room for what memory holds
besides. -/
theorem panic_announces_vast_length (granted : reader.buffer.IsGranted) (calls : Nat) :
    (panics ((reader.afterCalls limits calls).readRequest limits).1 = true →
      ∃ head middle framing needed,
        (reader.afterCalls limits calls).readHead limits = (.ok head, middle) ∧
          Framing.ofFields head.fields = .ok framing ∧
          framing.Announces limits
            ((reader.afterCalls limits calls).readRequest limits).2.buffer.data needed ∧
          maximumCollection < needed) ∧
      (limits.body + reader.buffer.memory.size + 2 ≤ maximumCollection →
        panics ((reader.afterCalls limits calls).readRequest limits).1 = false) := by
  have grantedHere : (reader.afterCalls limits calls).buffer.IsGranted :=
    isGranted_afterCalls calls granted
  have grantedAfter := isGranted_readRequest limits grantedHere
  have sameMemory := (memory_readRequest limits _).trans (memory_afterCalls limits calls reader)
  -- what happened in the earlier calls does not matter beyond this
  generalize reader.afterCalls limits calls = before at grantedHere grantedAfter sameMemory ⊢
  have announces (panicked : panics (before.readRequest limits).1 = true) :=
    have ⟨_, failed, isPanic⟩ := exists_failure_of_panics panicked
    announces_of_readRequest_panic grantedHere failed isPanic
  refine ⟨announces, fun room => ?_⟩
  rw [← Bool.not_eq_true]
  intro panicked
  obtain ⟨head, middle, framing, needed, headReading, framed, announced, vast⟩ :=
    announces panicked
  have few := announced.le
  have held := grantedAfter.held
  have small := grantedAfter.granted
  rw [sameMemory] at small
  omega

/-- The second call meets a chunk of half a machine word, which the bounds by default refuse. -/
theorem panic_announces_vast_length_of_second_call :
    let reader := ofReads 64 [
      Bytes.ascii "GET / HTTP/1.1\r\n\r\nPOST / HTTP/1.1\r\nTransfer-Encoding: chunked\r\n\r",
      Bytes.ascii "\n1\r\na\r\n7FFFFFFFFFFFFFFF\r\n"]
    let vast : Limits := { body := wordSize - 1 }
    (∃ head middle framing needed,
      (reader.afterCalls vast 1).readHead vast = (.ok head, middle) ∧
        Framing.ofFields head.fields = .ok framing ∧
        framing.Announces vast ((reader.afterCalls vast 1).readRequest vast).2.buffer.data needed ∧
        maximumCollection < needed) ∧
      panics ((reader.afterCalls {} 1).readRequest {}).1 = false := by
  intro reader vast
  have granted : reader.buffer.IsGranted := @ReadBuffer.isGranted_ofCapacity _ 64 .largest (by decide)
  exact ⟨(panic_announces_vast_length granted 1).1 (by decide +kernel),
    (panic_announces_vast_length granted 1).2 (by decide)⟩

/-! ## Limits that let a peer panic -/

/-- Under every bound on bodies that is vast itself, some head makes the first call panic. -/
theorem exists_panic (some : 0 < limits.head) (vast : maximumCollection < limits.body) :
    ∃ octets, octets ≠ [] ∧ panics ((ofReads 8192 [octets]).readRequest limits).1 = true := by
  let octets := Bytes.ascii "POST / HTTP/1.1\r\nContent-Length: 9223372036854775808\r\n\r\n"
  let lines : HeadLines :=
    { method := Bytes.ascii "POST", target := Bytes.ascii "/", version := .http11
      fields := [(Bytes.ascii "Content-Length", Bytes.ascii "9223372036854775808")] }
  have scanned : HeadLines.scan octets = .found lines [] := by decide +kernel
  have saysLength : (RequestHead.ofLines lines).map (fun head => Framing.ofFields head.fields) =
      .ok (.ok (.sized (maximumCollection + 1))) := by decide +kernel
  refine ⟨octets, List.cons_ne_nil _ _, ?_⟩
  obtain ⟨head, read, framed⟩ := exists_head_of_framing saysLength
  have found : scanHead limits (octets ++ []) = .found head [] :=
    scanHead_of_isSpelledBy ⟨lines, scanned, read⟩ []
  have waits : scanHead limits [] = .wait 0 := by
    rw [scanHead_of_front scanned (List.nil_append _).symm (List.cons_ne_nil _ _)]
    exact if_neg (Nat.not_le.mpr some)
  have headRead : (ofReads 8192 [octets]).readHead limits = (.ok head, ofReads 8192 []) := by
    have prepared : (ofReads 8192 [octets]).buffer.prepare 0 =
        .ok (ofReads 8192 [octets]).buffer := by
      decide
    have brought : (ofReads 8192 [octets]).stream.read (ofReads 8192 [octets]).buffer.spare =
        (.octets octets, []) := by
      decide +kernel
    have reads : (ofReads 8192 [octets]).readHead limits =
        await (scanHead limits) headEnd ⟨⟨octets, 8192, {}⟩, []⟩ :=
      await_of_read waits prepared (List.cons_ne_nil _ _) brought
    rw [List.append_nil] at found
    rw [reads, await.eq_def]
    simp only [found]
    rfl
  have bodyWaits : (Framing.sized (maximumCollection + 1)).scanBody limits [] =
      .wait (maximumCollection + 1) := by
    have allowed : ¬ limits.body < maximumCollection + 1 := Nat.not_lt.mpr vast
    have none : ([] : Bytes).length < maximumCollection + 1 := Nat.succ_pos _
    rw [Framing.scanBody, Framing.scanSized, if_neg allowed, if_pos none]
  have refused : (ofReads 8192 []).buffer.prepare (maximumCollection + 1) =
      .error .capacityOverflow := by
    decide
  rw [readRequest_of_head headRead framed, readBody, await.eq_def]
  simp only [ofReads] at refused ⊢
  simp only [bodyWaits, refused]
  rfl

/-- Settings that are accepted, under which the length of a body and that of a chunk panic. -/
theorem accepted_limits_panic :
    let config : Config := { connection := { maximumBody := 18446744073709551615 } }
    let limits := (Service.ofConfig config "" ⟨fun context => .ok (none, context), none⟩).limits
    config.isValid = true ∧
      ((ofReads 8192 [Bytes.ascii
        "POST / HTTP/1.1\r\nContent-Length: 18446744073709551615\r\n\r\n"]).readRequest limits).1 =
          .error (.fault (.reservation .capacityOverflow)) ∧
      ((ofReads 8192 [Bytes.ascii
        "POST / HTTP/1.1\r\nTransfer-Encoding: chunked\r\n\r\nFFFFFFFFFFFFFFFF\r\n"]).readRequest
          limits).1 = .error (.fault .offsetOverflow) := by
  decide +kernel

end Reader

end HttpServer
