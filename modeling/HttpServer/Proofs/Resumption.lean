import HttpServer.Proofs.RequestOctets

/-!
# What a call uses, and calling again

A call of `Reader.readRequest` takes a front off the unused octets: nothing when no head could be
read, the head alone when the body was not to be had, and the whole request otherwise. A head that
was not complete when a read failed or found nothing is still in the buffer, which keeps the room
it was given; so the next call goes on as if that read had not been made.
-/

namespace HttpServer

/-! ## Preparing a read twice -/

namespace ReadBuffer

theorem prepare_again {buffer prepared : ReadBuffer} {wanted : Nat}
    (done : buffer.prepare wanted = .ok prepared) :
    prepared.prepare wanted = .ok prepared := by
  have enough := wanted_le_of_prepare done
  have roomy := (prepare_ok done).2
  unfold spare at roomy
  unfold prepare
  rw [if_neg (Nat.not_lt.mpr enough)]
  show (if prepared.capacity ≤ prepared.data.length then _ else Except.ok prepared) = _
  rw [if_neg (by omega)]

end ReadBuffer

/-! ## Reads that bring nothing -/

namespace Stream

/-- What a read takes from the stream when it brings no octet, what is left of the stream, and the
failure when the read failed. -/
inductive Misses : Stream → Stream → Option IoFailure → Prop
  | ended : Misses [] [] none
  | nothing (rest : Stream) : Misses [.octets []] rest none
  | failed (kind : IoFailure) (rest : Stream) : Misses [.failure kind] rest (some kind)

variable {room : Nat} {stream rest : Stream}

theorem misses_of_read_nothing (hasRoom : 0 < room)
    (brought : stream.read room = (.octets [], rest)) :
    ∃ missed, stream = missed ++ rest ∧ Misses missed rest none := by
  cases stream with
  | nil =>
      simp only [Stream.read, Prod.mk.injEq, true_and] at brought
      subst brought
      exact ⟨[], rfl, Misses.ended⟩
  | cons delivery tail =>
      cases delivery with
      | failure kind =>
          simp [Stream.read] at brought
      | octets bytes =>
          simp only [Stream.read] at brought
          split at brought
          · simp only [Prod.mk.injEq, Delivery.octets.injEq] at brought
            obtain ⟨rfl, rfl⟩ := brought
            exact ⟨[.octets []], rfl, Misses.nothing tail⟩
          · rename_i tooLong
            simp only [Prod.mk.injEq, Delivery.octets.injEq, List.take_eq_nil_iff] at brought
            rcases brought.1 with noRoom | rfl
            · omega
            · exact absurd (Nat.zero_le room) tooLong

theorem misses_of_failed_read {kind : IoFailure}
    (brought : stream.read room = (.failure kind, rest)) :
    ∃ missed, stream = missed ++ rest ∧ Misses missed rest (some kind) := by
  cases stream with
  | nil =>
      simp [Stream.read] at brought
  | cons delivery tail =>
      cases delivery with
      | failure given =>
          simp only [Stream.read, Prod.mk.injEq, Delivery.failure.injEq] at brought
          obtain ⟨rfl, rfl⟩ := brought
          exact ⟨[.failure given], rfl, Misses.failed given tail⟩
      | octets bytes =>
          simp only [Stream.read] at brought
          split at brought <;> simp at brought

/-- A read that brings octets before a later read misses brings the same ones when the later read
is left out of the stream. -/
theorem read_before_missed {first : UInt8} {others : Bytes} {earlier missed after : Stream}
    {cause : Option IoFailure} (misses : Misses missed after cause)
    (brought : stream.read room = (.octets (first :: others), earlier ++ (missed ++ after))) :
    ∃ before, stream = before ++ (missed ++ after) ∧
      Stream.read room (before ++ after) = (.octets (first :: others), earlier ++ after) := by
  cases stream with
  | nil =>
      simp [Stream.read] at brought
  | cons delivery tail =>
      cases delivery with
      | failure kind =>
          simp [Stream.read] at brought
      | octets bytes =>
          simp only [Stream.read] at brought
          split at brought
          · rename_i fits
            obtain ⟨same, rfl⟩ := Prod.mk.inj brought
            obtain rfl := Delivery.octets.inj same
            refine ⟨.octets (first :: others) :: earlier, rfl, ?_⟩
            simp only [List.cons_append, Stream.read, if_pos fits]
          · rename_i tooLong
            obtain ⟨same, cut⟩ := Prod.mk.inj brought
            cases earlier with
            | nil =>
                -- what is left of a delivery is not empty, so it is no read that missed
                cases misses with
                | ended =>
                    cases cut
                | nothing =>
                    have nothing : bytes.drop room = [] := by
                      simpa using (List.cons.inj cut).1
                    exact absurd (List.drop_eq_nil_iff.mp nothing) tooLong
                | failed =>
                    cases (List.cons.inj cut).1
            | cons piece more =>
                obtain ⟨rfl, rfl⟩ := List.cons.inj cut
                refine ⟨.octets bytes :: more, rfl, ?_⟩
                simp only [List.cons_append, Stream.read, if_neg tooLong, same]

end Stream

/-! ## Awaiting again -/

namespace Reader

section Await

variable {α : Type} {attempt : Bytes → Attempt α} {atEnd : Bytes → DecodeError}
  {reader after : Reader}

/-- Where an attempt waits, the buffer may as well have been prepared. -/
theorem await_of_prepared {wanted : Nat} {buffer : ReadBuffer}
    (waits : attempt reader.buffer.data = .wait wanted)
    (prepared : reader.buffer.prepare wanted = .ok buffer) (stream : Stream) :
    await attempt atEnd { buffer, stream } =
      await attempt atEnd { reader with stream } := by
  have same := (ReadBuffer.prepare_ok prepared).1
  rw [Reader.await, Reader.await]
  simp only [same, waits, prepared, ReadBuffer.prepare_again prepared]

/-- Awaiting that ended because a read failed or found nothing goes on, when it is called again, as
it would have gone without that read. -/
theorem await_resumes {wanted : Nat} {error : DecodeError}
    (gave : reader.await attempt atEnd = (.error (.refused error), after))
    (waits : attempt after.buffer.data = .wait wanted) :
    ∃ earlier missed cause, reader.stream = earlier ++ (missed ++ after.stream) ∧
      Stream.Misses missed after.stream cause ∧
      error = cause.elim (atEnd after.buffer.data) DecodeError.readFailed ∧
      after.await attempt atEnd =
        await attempt atEnd { reader with stream := earlier ++ after.stream } := by
  fun_induction Reader.await attempt atEnd reader with
  | case1 | case3 =>
      simp at gave
  | case2 reader failure verdict =>
      obtain ⟨-, rfl⟩ := Prod.mk.inj gave
      rw [verdict] at waits
      cases waits
  | case4 reader wanted verdict buffer prepared kind rest brought =>
      obtain ⟨same, rfl⟩ := Prod.mk.inj gave
      obtain ⟨missed, cut, misses⟩ := Stream.misses_of_failed_read brought
      cases same
      exact ⟨[], missed, some kind, cut, misses, rfl, await_of_prepared verdict prepared rest⟩
  | case5 reader wanted verdict buffer prepared rest brought =>
      obtain ⟨same, rfl⟩ := Prod.mk.inj gave
      obtain ⟨missed, cut, misses⟩ :=
        Stream.misses_of_read_nothing (ReadBuffer.prepare_ok prepared).2 brought
      cases same
      exact ⟨[], missed, none, cut, misses, rfl, await_of_prepared verdict prepared rest⟩
  | case6 reader wanted verdict buffer prepared first others rest brought inductionHypothesis =>
      -- this read stays, and the one that missed comes later in what is left of the stream
      obtain ⟨later, missed, cause, cut, misses, same, resumed⟩ := inductionHypothesis gave
      obtain rfl : rest = later ++ (missed ++ after.stream) := cut
      obtain ⟨before, whole, again⟩ := Stream.read_before_missed misses brought
      refine ⟨before, missed, cause, whole, misses, same, ?_⟩
      have goesOn : await attempt atEnd { reader with stream := before ++ after.stream } =
          await attempt atEnd
            { buffer := buffer.receive (first :: others), stream := later ++ after.stream } :=
        await_of_read verdict prepared (List.cons_ne_nil first others) again
      rw [resumed, goesOn]

end Await

/-! ## Calling again -/

variable {limits : Limits} {reader after : Reader}

/-- Where a head is not to be had, the buffer does not hold one. -/
theorem not_isSpelledBy_of_readHead_error {failure : ReadFailure}
    (gave : reader.readHead limits = (.error failure, after)) {head : RequestHead}
    {front rest : Bytes} (spelled : head.IsSpelledBy front) :
    after.buffer.data ≠ front ++ rest := by
  intro there
  have found : scanHead limits (front ++ rest) = .found head rest :=
    scanHead_of_isSpelledBy spelled rest
  rw [← there] at found
  rcases await_error_cases gave with failed | ⟨wanted, waits, -⟩
  · rw [failed] at found
    cases found
  · rw [waits] at found
    cases found

/-- A refusal that blames a read or the end of the stream. -/
def BlamesRead (error : DecodeError) : Prop :=
  error = .closed ∨ error = .truncated ∨ ∃ kind, error = .readFailed kind

/-- What stands in the buffer is never refused for a read. -/
theorem not_blamesRead_of_scanHead {error : DecodeError} {bytes : Bytes}
    (failed : scanHead limits bytes = .failed (.refused error)) :
    ¬ BlamesRead error := by
  unfold scanHead at failed
  split at failed
  · split at failed
    · cases failed
    · cases failed
      simp [BlamesRead]
  · cases failed
    simp [BlamesRead]
  · split at failed
    · cases failed
      simp [BlamesRead]
    · cases failed

theorem readRequest_eq_of_readHead_eq {other : Reader}
    (same : reader.readHead limits = other.readHead limits) :
    reader.readRequest limits = other.readRequest limits := by
  simp only [readRequest, same]

/-- What a call takes off the unused octets. -/
inductive Takes (limits : Limits) (reader : Reader) : Bytes → Prop
  /-- No head was read, nor is there one in the buffer. -/
  | nothing {failure : ReadFailure} {after : Reader}
      (headReading : reader.readHead limits = (.error failure, after))
      (gave : reader.readRequest limits = (.error failure, after))
      (none : ∀ (head : RequestHead) (front rest : Bytes), head.IsSpelledBy front →
        after.buffer.data ≠ front ++ rest) : Takes limits reader []
  /-- A head was read, and no body behind it. -/
  | head {failure : ReadFailure} {head : RequestHead} {front : Bytes}
      (headReading : (reader.readHead limits).1 = .ok head)
      (gave : (reader.readRequest limits).1 = .error failure)
      (spelled : head.IsSpelledBy front) : Takes limits reader front
  /-- A request was read. -/
  | request {request : Request} {front encoded : Bytes}
      (gave : (reader.readRequest limits).1 = .ok request)
      (spelled : request.IsSpelledBy front encoded) : Takes limits reader (front ++ encoded)

theorem takes_of_readRequest (limits : Limits) (reader : Reader) :
    ∃ taken, reader.unused = taken ++ (reader.readRequest limits).2.unused ∧
      reader.Takes limits taken := by
  rcases headReading : reader.readHead limits with ⟨failure | head, middle⟩
  · have gave := readRequest_of_head_error headReading
    refine ⟨[], ?_, Takes.nothing headReading gave
      fun _ _ _ spelled => not_isSpelledBy_of_readHead_error headReading spelled⟩
    rw [gave]
    exact (unused_of_await_error headReading).symm
  · obtain ⟨front, spelled, cutHead⟩ := isSpelledBy_of_readHead headReading
    have headGave : (reader.readHead limits).1 = .ok head := by rw [headReading]
    cases framed : Framing.ofFields head.fields with
    | error error =>
        have gave := readRequest_of_framing_error headReading framed
        exact ⟨front, by rw [gave, cutHead], Takes.head headGave (by rw [gave]) spelled⟩
    | ok framing =>
        have gave := readRequest_of_head headReading framed
        rcases bodyReading : middle.readBody limits framing with ⟨failure | body, last⟩
        · simp only [bodyReading] at gave
          have kept := unused_of_await_error bodyReading
          refine ⟨front, ?_, Takes.head headGave (congrArg Prod.fst gave) spelled⟩
          rw [gave, kept, cutHead]
        · simp only [bodyReading] at gave
          obtain ⟨encoded, encodes, cutBody⟩ := encodes_of_readBody bodyReading
          refine ⟨front ++ encoded, ?_,
            Takes.request (congrArg Prod.fst gave) ⟨spelled, framing, framed, encodes⟩⟩
          rw [gave, cutHead, cutBody, List.append_assoc]

/-- A call takes a front off the unused octets: nothing without a head, the head without a body,
and otherwise a request. And when it found no head because a read failed or brought nothing, the
next call gives what one call gives on a stream without that read. -/
theorem readRequest_takes_and_resumes (limits : Limits) (reader : Reader) :
    (∃ taken, reader.unused = taken ++ (reader.readRequest limits).2.unused ∧
      reader.Takes limits taken) ∧
    ∀ error after, reader.readHead limits = (.error (.refused error), after) →
      BlamesRead error →
      ∃ earlier missed cause, reader.stream = earlier ++ (missed ++ after.stream) ∧
        Stream.Misses missed after.stream cause ∧
        error = cause.elim (headEnd after.buffer.data) DecodeError.readFailed ∧
        after.readRequest limits =
          readRequest limits { reader with stream := earlier ++ after.stream } := by
  refine ⟨takes_of_readRequest limits reader, ?_⟩
  intro error after headReading blames
  obtain failed | ⟨wanted, waits, -⟩ := await_error_cases headReading
  · exact absurd blames (not_blamesRead_of_scanHead failed)
  · obtain ⟨earlier, missed, cause, cut, misses, same, resumed⟩ :=
      await_resumes headReading waits
    exact ⟨earlier, missed, cause, cut, misses, same, readRequest_eq_of_readHead_eq resumed⟩

/-- A head that a failed read interrupts, and the body behind it. -/
theorem readRequest_takes_and_resumes_of_reset :
    let reader : Reader :=
      { buffer := { data := Bytes.ascii "PO", capacity := 4 }
        stream := [.octets (Bytes.ascii "ST / HTTP/1.1\r\nContent-"),
          .failure .connectionReset, .octets (Bytes.ascii "Length: 2\r\n\r\nhi")] }
    ∃ after earlier missed,
      reader.readRequest {} = (.error (.refused (.readFailed .connectionReset)), after) ∧
      after.unused = reader.unused ∧
      reader.stream = earlier ++ (missed ++ after.stream) ∧ missed = [.failure .connectionReset] ∧
      after.readRequest {} = readRequest {} { reader with stream := earlier ++ after.stream } ∧
      (after.readRequest {}).1.toOption.map Request.body = some (Bytes.ascii "hi") := by
  intro reader
  have failed : (match (reader.readHead {}).1 with
      | .error failure => some failure
      | .ok _ => none) = some (.refused (.readFailed .connectionReset)) := by
    decide +kernel
  have again : ((reader.readHead {}).2.readRequest {}).1.toOption.map Request.body =
      some (Bytes.ascii "hi") := by
    decide +kernel
  rcases headReading : reader.readHead {} with ⟨failure | head, after⟩
  · simp only [headReading, Option.some.injEq] at failed again
    subst failed
    have gave := readRequest_of_head_error headReading
    have blames : BlamesRead (.readFailed .connectionReset) := Or.inr (Or.inr ⟨_, rfl⟩)
    obtain ⟨⟨taken, cut, takes⟩, resumes⟩ := readRequest_takes_and_resumes {} reader
    obtain ⟨earlier, missed, cause, whole, misses, same, resumed⟩ :=
      resumes _ after headReading blames
    have kept : taken = [] := by
      cases takes with
      | nothing =>
          rfl
      | head headGave =>
          rw [headReading] at headGave
          cases headGave
      | request requestGave =>
          rw [gave] at requestGave
          cases requestGave
    refine ⟨after, earlier, missed, gave, ?_, whole, ?_, resumed, again⟩
    · rw [cut, kept, gave]
      rfl
    · generalize after.stream = rest at misses
      cases misses with
      | ended | nothing =>
          simp [headEnd] at same
          split at same <;> cases same
      | failed =>
          cases same
          rfl
  · simp [headReading] at failed

end Reader

end HttpServer
