import HttpServer.Proofs.Segmentation

/-!
# The bound on heads

The bound on heads is looked at only while the head is not all there. So a head that is longer is
refused when a look falls between the bound and its end, and is accepted when none does: that
depends on what each read brought, and not on the head alone. A head within the bound is never too
large.
-/

namespace HttpServer.Reader

variable {limits : Limits} {reader after : Reader} {front rest seen : Bytes} {lines : HeadLines}

/-! ## What the buffer holds at each look -/

/-- What the buffer holds each time it is looked at, as long as nothing is found in it and every
read brings something. -/
def fillings (reader : Reader) : List Bytes :=
  match reader.buffer.prepare 0 with
  | .error _ => [reader.buffer.data]
  | .ok buffer =>
    match _brought : reader.stream.read buffer.spare with
    | (.octets (first :: others), rest) =>
      reader.buffer.data :: fillings { buffer := buffer.receive (first :: others), stream := rest }
    | _ => [reader.buffer.data]
termination_by reader.stream.size
decreasing_by exact Stream.size_read_lt _brought

theorem data_mem_fillings (reader : Reader) : reader.buffer.data ∈ reader.fillings := by
  rw [fillings]
  split
  · exact List.mem_cons_self
  · split
    · exact List.mem_cons_self
    · exact List.mem_cons_self

theorem fillings_of_unprepared {error : ReservationError}
    (refused : reader.buffer.prepare 0 = .error error) :
    reader.fillings = [reader.buffer.data] := by
  rw [fillings, refused]

theorem fillings_of_nothing {buffer : ReadBuffer} {delivery : Delivery} {stream : Stream}
    (prepared : reader.buffer.prepare 0 = .ok buffer)
    (brought : reader.stream.read buffer.spare = (delivery, stream))
    (nothing : ∀ first others, delivery ≠ .octets (first :: others)) :
    reader.fillings = [reader.buffer.data] := by
  rw [fillings, prepared]
  simp only
  split
  · rename_i first others behind again
    rw [brought, Prod.mk.injEq] at again
    exact absurd again.1 (nothing first others)
  · rfl

theorem fillings_of_read {buffer : ReadBuffer} {first : UInt8} {others : Bytes} {stream : Stream}
    (prepared : reader.buffer.prepare 0 = .ok buffer)
    (brought : reader.stream.read buffer.spare = (.octets (first :: others), stream)) :
    reader.fillings =
      reader.buffer.data :: fillings { buffer := buffer.receive (first :: others), stream } := by
  rw [fillings, prepared]
  simp only
  split
  · rename_i again
    rw [brought, Prod.mk.injEq, Delivery.octets.injEq, List.cons.injEq] at again
    obtain ⟨⟨rfl, rfl⟩, rfl⟩ := again
    rfl
  · rename_i none
    exact absurd brought (none first others stream)

theorem length_le_of_mem_fillings (member : seen ∈ reader.fillings) :
    reader.buffer.data.length ≤ seen.length := by
  fun_induction fillings reader with
  | case1 reader error refused =>
      rw [List.mem_singleton.mp member]
  | case2 reader buffer prepared first others rest brought inductionHypothesis =>
      rcases List.mem_cons.mp member with rfl | later
      · exact Nat.le_refl _
      · have more := inductionHypothesis later
        simp only [ReadBuffer.receive, List.length_append] at more
        rw [(ReadBuffer.prepare_ok prepared).1] at more
        omega
  | case3 reader =>
      rw [List.mem_singleton.mp member]

/-! ## The looks at a head -/

/-- Once the lines of a head are all there, the head is found or its content is refused. -/
theorem scanHead_of_lines (scanned : HeadLines.scan front = .found lines []) (more : Bytes) :
    (∃ head, scanHead limits (front ++ more) = .found head more) ∨
      ∃ error, scanHead limits (front ++ more) = .refused (.invalidHead error) := by
  have again := HeadLines.scan_append scanned more
  cases read : RequestHead.ofLines lines with
  | ok head =>
      exact Or.inl ⟨head, by simp only [scanHead, again, read]⟩
  | error error =>
      exact Or.inr ⟨error, by simp only [scanHead, again, read]⟩

/-- A look at the buffer judges by the bound when the head is not all there, and only then. -/
theorem scanHead_of_unused (scanned : HeadLines.scan front = .found lines [])
    (there : reader.unused = front ++ rest) :
    (reader.buffer.data.length < front.length ∧
      scanHead limits reader.buffer.data =
        if limits.head ≤ reader.buffer.data.length then .refused (.headTooLarge limits.head)
        else .wait 0) ∨
    (front.length ≤ reader.buffer.data.length ∧
      ((∃ head behind, scanHead limits reader.buffer.data = .found head behind) ∨
        ∃ error, scanHead limits reader.buffer.data = .refused (.invalidHead error))) := by
  rcases Bytes.front_cases there.symm with ⟨missing, strict, cut⟩ | ⟨middle, cut, -⟩
  · left
    refine ⟨?_, scanHead_of_front scanned cut strict⟩
    have positive := List.length_pos_iff.mpr strict
    rw [cut, List.length_append]
    omega
  · right
    rw [cut]
    refine ⟨by rw [List.length_append]; exact Nat.le_add_right _ _, ?_⟩
    rcases scanHead_of_lines scanned middle with ⟨head, found⟩ | refused
    · exact Or.inl ⟨head, middle, found⟩
    · exact Or.inr refused

/-- When the head is all there at the first look, no look falls before its end. -/
theorem no_filling_of_complete (complete : front.length ≤ reader.buffer.data.length) :
    ¬ ∃ seen ∈ reader.fillings, limits.head ≤ seen.length ∧ seen.length < front.length := by
  rintro ⟨seen, member, -, short⟩
  have more := length_le_of_mem_fillings member
  omega

/-- When the first look waits and is the only one, no look reaches the bound. -/
theorem no_filling_of_wait (below : reader.buffer.data.length < limits.head)
    (only : reader.fillings = [reader.buffer.data]) :
    ¬ ∃ seen ∈ reader.fillings, limits.head ≤ seen.length ∧ seen.length < front.length := by
  rintro ⟨seen, member, reached, -⟩
  rw [only, List.mem_singleton] at member
  subst member
  omega

/-- A head is refused as too large exactly when a look sees less than the head and as much as the
bound or more. -/
theorem readHead_headTooLarge_iff (scanned : HeadLines.scan front = .found lines [])
    (there : reader.unused = front ++ rest) :
    (reader.readHead limits).1 = .error (.refused (.headTooLarge limits.head)) ↔
      ∃ seen ∈ reader.fillings, limits.head ≤ seen.length ∧ seen.length < front.length := by
  unfold readHead
  fun_induction Reader.await (scanHead limits) headEnd reader with
  | case1 reader head behind verdict =>
      have complete : front.length ≤ reader.buffer.data.length := by
        rcases scanHead_of_unused scanned there with ⟨-, judged⟩ | ⟨complete, -⟩
        · rw [verdict] at judged
          split at judged <;> simp [Attempt.refused] at judged
        · exact complete
      exact iff_of_false (by simp) (no_filling_of_complete complete)
  | case2 reader failure verdict =>
      rcases scanHead_of_unused scanned there with
        ⟨short, judged⟩ | ⟨complete, ⟨head, behind, found⟩ | ⟨error, refused⟩⟩
      · rw [verdict] at judged
        split at judged
        · rename_i reached
          rw [Attempt.refused, Attempt.failed.injEq] at judged
          subst judged
          exact iff_of_true rfl ⟨_, data_mem_fillings reader, reached, short⟩
        · simp at judged
      · simp [verdict] at found
      · rw [verdict, Attempt.refused, Attempt.failed.injEq] at refused
        subst refused
        exact iff_of_false (by simp) (no_filling_of_complete complete)
  | case3 reader wanted verdict error refused =>
      obtain ⟨rfl, below⟩ := below_of_scanHead_wait verdict
      have only := fillings_of_unprepared refused
      exact iff_of_false (by simp) (no_filling_of_wait below only)
  | case4 reader wanted verdict buffer prepared kind stream brought =>
      obtain ⟨rfl, below⟩ := below_of_scanHead_wait verdict
      have only := fillings_of_nothing prepared brought (by simp)
      exact iff_of_false (by simp) (no_filling_of_wait below only)
  | case5 reader wanted verdict buffer prepared stream brought =>
      obtain ⟨rfl, below⟩ := below_of_scanHead_wait verdict
      have only := fillings_of_nothing prepared brought (by simp)
      have ended : headEnd buffer.data ≠ .headTooLarge limits.head := by
        unfold headEnd
        split <;> simp
      exact iff_of_false (by simpa using ended) (no_filling_of_wait below only)
  | case6 reader wanted verdict buffer prepared first others stream brought inductionHypothesis =>
      obtain ⟨rfl, below⟩ := below_of_scanHead_wait verdict
      have same :=
        unused_receive (ReadBuffer.prepare_ok prepared).1 (Stream.contents_of_read brought)
      rw [inductionHypothesis (same.trans there), fillings_of_read prepared brought]
      constructor
      · rintro ⟨seen, member, bounds⟩
        exact ⟨seen, List.mem_cons_of_mem _ member, bounds⟩
      · rintro ⟨seen, member, reached, short⟩
        rcases List.mem_cons.mp member with rfl | later
        · omega
        · exact ⟨seen, later, reached, short⟩

/-! ## The looks at a request -/

theorem unused_ne_of_readHead_ok {head : RequestHead} {middle : Reader}
    (gave : reader.readHead limits = (.ok head, middle)) :
    middle.unused ≠ reader.unused := by
  obtain ⟨used, cut, again⟩ := used_of_await_ok (settledBelow_scanHead limits) gave
  intro same
  rw [same] at cut
  have nothing : used = [] := List.self_eq_append_left.mp cut
  subst nothing
  exact scanHead_nil (again [])

/-- A request is refused for its head being too large, with nothing used of it, exactly when the
buffer was looked at while it held less than the head and as much as the bound or more. -/
theorem readRequest_headTooLarge_iff (scanned : HeadLines.scan front = .found lines [])
    (there : reader.unused = front ++ rest) :
    (∃ after, reader.readRequest limits =
        (.error (.refused (.headTooLarge limits.head)), after) ∧ after.unused = reader.unused) ↔
      ∃ seen ∈ reader.fillings, limits.head ≤ seen.length ∧ seen.length < front.length := by
  rw [← readHead_headTooLarge_iff scanned there]
  rcases headReading : reader.readHead limits with ⟨failure | head, middle⟩
  · rw [readRequest_of_head_error headReading]
    constructor
    · rintro ⟨after, same, -⟩
      obtain ⟨failed, -⟩ := Prod.mk.inj same
      rw [Except.error.inj failed]
    · rintro failed
      rw [Except.error.inj failed]
      exact ⟨middle, rfl, unused_of_await_error headReading⟩
  · have used := unused_ne_of_readHead_ok headReading
    refine iff_of_false ?_ (by simp)
    rintro ⟨after, gave, left⟩
    cases framed : Framing.ofFields head.fields with
    | error error =>
        rw [readRequest_of_framing_error headReading framed] at gave
        obtain ⟨-, rfl⟩ := Prod.mk.inj gave
        exact used left
    | ok framing =>
        rw [readRequest_of_head headReading framed] at gave
        rcases bodyReading : middle.readBody limits framing with ⟨failure | body, last⟩
        · rw [bodyReading] at gave
          obtain ⟨-, rfl⟩ := Prod.mk.inj gave
          rw [unused_of_await_error bodyReading] at left
          exact used left
        · rw [bodyReading] at gave
          simp [Except.map] at gave

/-- A head of 37 octets, of which the first read brings as many as the bound. -/
theorem readRequest_headTooLarge_iff_of_two_reads :
    let reads := [Bytes.ascii "GET / HTTP/1.1\r\nHost", Bytes.ascii ": example.com\r\n\r\n"]
    ∃ after, (ofReads 8192 reads).readRequest { head := 20 } =
        (.error (.refused (.headTooLarge 20)), after) ∧
      after.unused = reads.flatten := by
  intro reads
  let lines : HeadLines :=
    { method := Bytes.ascii "GET", target := Bytes.ascii "/", version := .http11
      fields := [(Bytes.ascii "Host", Bytes.ascii "example.com")] }
  have scanned : HeadLines.scan reads.flatten = .found lines [] := by decide +kernel
  have whole : (ofReads 8192 reads).unused = reads.flatten :=
    (delivers_ofReads (by decide)).whole
  have there : (ofReads 8192 reads).unused = reads.flatten ++ [] := by
    rw [whole, List.append_nil]
  rw [← whole]
  apply (readRequest_headTooLarge_iff scanned there).mpr
  exact ⟨Bytes.ascii "GET / HTTP/1.1\r\nHost", by decide +kernel, by decide, by decide⟩

/-- The same head of 37 octets is read whole where no more than 20 are allowed, when one read
brings it all or when it is buffered already, and is refused when a read ends inside it. -/
theorem headTooLarge_depends_on_reads :
    let octets := Bytes.ascii "GET / HTTP/1.1\r\nHost: example.com\r\n\r\n"
    let limits : Limits := { head := 20 }
    let inOne := ofReads 8192 [octets]
    let buffered : Reader := { buffer := { data := octets, capacity := 64 }, stream := [] }
    let inTwo := ofReads 8192 [octets.take 20, octets.drop 20]
    HeadLines.scan octets = .found {
        method := Bytes.ascii "GET", target := Bytes.ascii "/", version := .http11
        fields := [(Bytes.ascii "Host", Bytes.ascii "example.com")] } [] ∧
      limits.head < octets.length ∧
      (inOne.readRequest limits).1.map (fun request => request.method) =
        .ok (Bytes.ascii "GET") ∧
      (buffered.readRequest limits).1.map (fun request => request.method) =
        .ok (Bytes.ascii "GET") ∧
      (inTwo.readRequest limits).1 = .error (.refused (.headTooLarge 20)) := by
  intro octets limits inOne buffered inTwo
  refine ⟨?_, ?_, ?_, ?_, ?_⟩
  · decide +kernel
  · decide
  · decide +kernel
  · decide +kernel
  · decide +kernel

end HttpServer.Reader
