import HttpServer.Proofs.Awaiting
import HttpServer.Proofs.ChunkScan
import HttpServer.Proofs.HeadScan

/-!
# Reading one request

A request is a head and a body, awaited one after the other. A request that has been read used at
least one octet, all of them from the front of what was unused.
-/

namespace HttpServer.Reader

variable {limits : Limits} {reader after : Reader}

/-! ## The parts of a request -/

/-- What lines ask for, they ask for as a head. -/
theorem exists_head_of_framing {lines : HeadLines} {framing : Framing}
    (asks : (RequestHead.ofLines lines).map (fun head => Framing.ofFields head.fields) =
      .ok (.ok framing)) :
    ∃ head, RequestHead.ofLines lines = .ok head ∧
      Framing.ofFields head.fields = .ok framing := by
  cases read : RequestHead.ofLines lines with
  | error error =>
      simp [read, Except.map] at asks
  | ok head =>
      rw [read] at asks
      exact ⟨head, rfl, Except.ok.inj asks⟩

theorem readRequest_of_head_error {failure : ReadFailure}
    (headReading : reader.readHead limits = (.error failure, after)) :
    reader.readRequest limits = (.error failure, after) := by
  simp only [readRequest, headReading]

/-- Behind a head whose framing is refused nothing is read. -/
theorem readRequest_of_framing_error {head : RequestHead} {error : DecodeError}
    (headReading : reader.readHead limits = (.ok head, after))
    (framed : Framing.ofFields head.fields = .error error) :
    reader.readRequest limits = (.error (.refused error), after) := by
  simp only [readRequest, headReading, framed]

theorem readRequest_of_head {middle : Reader} {head : RequestHead} {framing : Framing}
    (headReading : reader.readHead limits = (.ok head, middle))
    (framed : Framing.ofFields head.fields = .ok framing) :
    reader.readRequest limits =
      ((middle.readBody limits framing).1.map head.withBody,
        (middle.readBody limits framing).2) := by
  simp only [readRequest, headReading, framed]
  rcases middle.readBody limits framing with ⟨_ | body, last⟩
  · rfl
  · rfl

/-- No head comes, or its framing is refused, or a body is awaited behind it. -/
theorem readRequest_cases (limits : Limits) (reader : Reader) :
    (∃ failure middle, reader.readHead limits = (.error failure, middle) ∧
      reader.readRequest limits = (.error failure, middle)) ∨
    (∃ head middle error, reader.readHead limits = (.ok head, middle) ∧
      Framing.ofFields head.fields = .error error ∧
      reader.readRequest limits = (.error (.refused error), middle)) ∨
    ∃ head middle framing, reader.readHead limits = (.ok head, middle) ∧
      Framing.ofFields head.fields = .ok framing ∧
      reader.readRequest limits =
        ((middle.readBody limits framing).1.map head.withBody,
          (middle.readBody limits framing).2) := by
  rcases headReading : reader.readHead limits with ⟨failure | head, middle⟩
  · exact Or.inl ⟨failure, middle, rfl, readRequest_of_head_error headReading⟩
  · right
    cases framed : Framing.ofFields head.fields with
    | error error =>
        exact Or.inl ⟨head, middle, error, rfl, framed,
          readRequest_of_framing_error headReading framed⟩
    | ok framing =>
        exact Or.inr ⟨head, middle, framing, rfl, framed, readRequest_of_head headReading framed⟩

theorem parts_of_readRequest_ok {request : Request}
    (gave : reader.readRequest limits = (.ok request, after)) :
    ∃ head middle framing body,
      reader.readHead limits = (.ok head, middle) ∧
      Framing.ofFields head.fields = .ok framing ∧
      middle.readBody limits framing = (.ok body, after) ∧
      request = head.withBody body := by
  rcases readRequest_cases limits reader with
    ⟨failure, middle, -, same⟩ | ⟨head, middle, error, -, -, same⟩ |
      ⟨head, middle, framing, headReading, framed, same⟩
  · cases gave.symm.trans same
  · cases gave.symm.trans same
  · rw [same] at gave
    rcases bodyReading : middle.readBody limits framing with ⟨failure | body, last⟩
    · simp [bodyReading, Except.map] at gave
    · simp only [bodyReading, Except.map, Prod.mk.injEq, Except.ok.injEq] at gave
      obtain ⟨rfl, rfl⟩ := gave
      exact ⟨head, middle, framing, body, headReading, framed, bodyReading, rfl⟩

/-- What holds behind a head and is kept by awaiting a body holds behind a request. -/
theorem holds_readRequest (holds : Reader → Prop) (head : holds (reader.readHead limits).2)
    (body : ∀ middle framing, holds middle → holds (middle.readBody limits framing).2) :
    holds (reader.readRequest limits).2 := by
  rcases readRequest_cases limits reader with
    ⟨failure, middle, headReading, same⟩ | ⟨given, middle, error, headReading, -, same⟩ |
      ⟨given, middle, framing, headReading, -, same⟩
  · rw [headReading] at head
    rw [same]
    exact head
  · rw [headReading] at head
    rw [same]
    exact head
  · rw [headReading] at head
    rw [same]
    exact body middle framing head

theorem isPlain_readRequest (plain : reader.stream.IsPlain) :
    (reader.readRequest limits).2.stream.IsPlain :=
  holds_readRequest (fun after => after.stream.IsPlain) (isPlain_await _ _ plain)
    fun _ _ plain => isPlain_await _ _ plain

theorem memory_readRequest (limits : Limits) (reader : Reader) :
    (reader.readRequest limits).2.buffer.memory = reader.buffer.memory :=
  holds_readRequest (fun after => after.buffer.memory = reader.buffer.memory)
    (memory_await _ _ reader) fun middle _ memory => (memory_await _ _ middle).trans memory

/-! ## What a request uses -/

theorem used_of_await_ok {α : Type} {bound : Nat} {attempt : Bytes → Attempt α}
    {atEnd : Bytes → DecodeError} {item : α}
    (settled : Attempt.SettledBelow bound attempt)
    (gave : reader.await attempt atEnd = (.ok item, after)) :
    ∃ used, reader.unused = used ++ after.unused ∧
      ∀ more, attempt (used ++ more) = .found item more := by
  obtain ⟨seen, rest, found, whole, left⟩ := seen_of_await_ok gave
  obtain ⟨used, cut, again⟩ := settled.found found
  refine ⟨used, ?_, again⟩
  rw [← whole, ← left, cut, List.append_assoc]

theorem scanHead_nil {head : RequestHead} {rest : Bytes} :
    scanHead limits [] ≠ .found head rest := by
  simp [scanHead, HeadLines.scan, HeadLines.skipBlankLines, Scan.andThen]
  split <;> simp [Attempt.refused]

theorem used_of_readRequest_ok {request : Request}
    (gave : reader.readRequest limits = (.ok request, after)) :
    ∃ head framing body headUsed bodyUsed,
      request = head.withBody body ∧ Framing.ofFields head.fields = .ok framing ∧
      reader.unused = headUsed ++ (bodyUsed ++ after.unused) ∧
      (∀ more, scanHead limits (headUsed ++ more) = .found head more) ∧
      ∀ more, framing.scanBody limits (bodyUsed ++ more) = .found body more := by
  obtain ⟨head, middle, framing, body, headReading, framed, bodyReading, rfl⟩ :=
    parts_of_readRequest_ok gave
  obtain ⟨headUsed, cutHead, headAgain⟩ :=
    used_of_await_ok (settledBelow_scanHead limits) headReading
  obtain ⟨bodyUsed, cutBody, bodyAgain⟩ :=
    used_of_await_ok (Framing.settledBelow_scanBody limits framing) bodyReading
  exact ⟨head, framing, body, headUsed, bodyUsed, rfl, framed, by rw [cutHead, cutBody],
    headAgain, bodyAgain⟩

theorem unused_lt_of_readRequest_ok {request : Request}
    (gave : reader.readRequest limits = (.ok request, after)) :
    after.unused.length < reader.unused.length := by
  obtain ⟨head, framing, body, headUsed, bodyUsed, -, -, whole, headAgain, -⟩ :=
    used_of_readRequest_ok gave
  have some : headUsed ≠ [] := by
    intro nothing
    have onNothing := headAgain []
    rw [nothing] at onNothing
    exact scanHead_nil onNothing
  have positive := List.length_pos_iff.mpr some
  rw [whole, List.length_append, List.length_append]
  omega

end HttpServer.Reader
