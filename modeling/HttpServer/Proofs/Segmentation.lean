import HttpServer.Proofs.RequestReading

/-!
# How the octets arrived does not matter

A peer sends octets; the network cuts them into reads and the buffer has whatever room it has. As
long as the octets together are shorter than the bound on heads, what is read off them is decided
by the octets alone: by what each part of a request gives on all of them at once.
-/

namespace HttpServer

def ReadFailure.isReservation : ReadFailure → Bool
  | .fault (.reservation _) => true
  | _ => false

namespace Reader

variable {limits : Limits} {reader second after : Reader} {octets : Bytes}

/-! ## Requests read off octets -/

/-- Reads a request off octets that no others follow. -/
def requestAtOnce (limits : Limits) (bytes : Bytes) : Except ReadFailure (Request × Bytes) :=
  match Attempt.atOnce (scanHead limits) headEnd bytes with
  | .error failure => .error failure
  | .ok (head, rest) =>
    match Framing.ofFields head.fields with
    | .error error => .error (.refused error)
    | .ok framing =>
      (Attempt.atOnce (framing.scanBody limits) (fun _ => .truncated) rest).map fun found =>
        (head.withBody found.1, found.2)

/-- What reading off octets gives, through the first failure. -/
def outcomesAtOnce (limits : Limits) : Nat → Bytes → List (Except ReadFailure Request)
  | 0, _ => []
  | most + 1, bytes =>
    match requestAtOnce limits bytes with
    | .ok (request, rest) => .ok request :: outcomesAtOnce limits most rest
    | .error failure => [.error failure]

/-! ## Readers -/

/-- The reader brings these octets and then the end of the stream. -/
structure Delivers (reader : Reader) (octets : Bytes) : Prop where
  plain : reader.stream.IsPlain
  whole : reader.unused = octets

/-- A reader that brings octets in given reads. -/
def ofReads (capacity : Nat) (reads : List Bytes) (memory : Memory := .largest) : Reader :=
  { buffer := { data := [], capacity, memory }, stream := reads.map .octets }

theorem delivers_ofReads {capacity : Nat} {reads : List Bytes} {memory : Memory}
    (some : ∀ bytes ∈ reads, bytes ≠ []) :
    (ofReads capacity reads memory).Delivers reads.flatten := by
  constructor
  · intro delivery member
    obtain ⟨bytes, bytesMember, rfl⟩ := List.mem_map.mp member
    exact ⟨bytes, some bytes bytesMember, rfl⟩
  · simp only [unused, ofReads, List.nil_append]
    induction reads with
    | nil =>
        rfl
    | cons first others inductionHypothesis =>
        have othersSome : ∀ bytes ∈ others, bytes ≠ [] :=
          fun bytes member => some bytes (List.mem_cons_of_mem _ member)
        rw [List.map_cons, List.flatten_cons, ← inductionHypothesis othersSome]
        rfl

/-- What the reads give, through the first failure. -/
def outcomes (limits : Limits) (most : Nat) (reader : Reader) :
    List (Except ReadFailure Request) :=
  (reader.readThroughFailure limits most).map Prod.fst

/-- Whether a read ended because memory was refused. -/
def outOfMemory {α : Type} : Except ReadFailure α → Bool
  | .error failure => failure.isReservation
  | .ok _ => false

theorem outOfMemory_of_lacksMemory {α : Type} {memory : Memory} {needed : Nat}
    {outcome : Except ReadFailure α} (lacks : LacksMemory memory needed outcome) :
    outOfMemory outcome = true := by
  obtain ⟨-, error, rfl⟩ := lacks
  rfl

/-- No read through the first failure is refused memory. -/
def MemoryHolds (limits : Limits) (most : Nat) (reader : Reader) : Prop :=
  ∀ outcome ∈ reader.outcomes limits most, outOfMemory outcome = false

instance (limits : Limits) (most : Nat) (reader : Reader) :
    Decidable (reader.MemoryHolds limits most) :=
  inferInstanceAs (Decidable (∀ outcome ∈ reader.outcomes limits most, outOfMemory outcome = false))

theorem outcomes_succ (limits : Limits) (most : Nat) (reader : Reader) :
    reader.outcomes limits (most + 1) =
      (reader.readRequest limits).1 ::
        match (reader.readRequest limits).1 with
        | .ok _ => (reader.readRequest limits).2.outcomes limits most
        | .error _ => [] := by
  rcases reading : reader.readRequest limits with ⟨_ | request, after⟩
  · simp [outcomes, readThroughFailure, reading]
  · simp [outcomes, readThroughFailure, reading]

/-! ## One request -/

/-- A part of a request is read off the octets as if they were all there, unless memory is
refused. -/
theorem remaining_await_of_delivers {α : Type} {attempt : Bytes → Attempt α}
    (atEnd : Bytes → DecodeError)
    (settled : Attempt.SettledBelow limits.head attempt) (short : octets.length < limits.head)
    (delivers : reader.Delivers octets)
    (memory : outOfMemory (reader.await attempt atEnd).1 = false) :
    remaining (reader.await attempt atEnd) = Attempt.atOnce attempt atEnd octets := by
  have steady : Attempt.Steady attempt reader.unused := by
    rw [delivers.whole]
    exact settled.steady short
  rcases await_eq_atOnce atEnd steady delivers.plain with same | ⟨error, refused⟩
  · rw [same, delivers.whole]
  · simp [refused, outOfMemory, ReadFailure.isReservation] at memory

/-- A request is read off the octets as if they were all there, unless memory is refused. -/
theorem remaining_readRequest (short : octets.length < limits.head)
    (delivers : reader.Delivers octets)
    (memory : outOfMemory (reader.readRequest limits).1 = false) :
    remaining (reader.readRequest limits) = requestAtOnce limits octets := by
  unfold readRequest at memory ⊢
  unfold requestAtOnce
  have headReads :=
    remaining_await_of_delivers headEnd (settledBelow_scanHead limits) short delivers
  rw [← readHead] at headReads
  rcases headReading : reader.readHead limits with ⟨failure | head, middle⟩
  · simp only [headReading] at memory headReads ⊢
    rw [← headReads memory]
    rfl
  · simp only [headReading] at memory headReads ⊢
    rw [← headReads rfl]
    simp only [remaining, Except.map]
    cases framed : Framing.ofFields head.fields with
    | error error =>
        rfl
    | ok framing =>
        simp only [framed] at memory ⊢
        obtain ⟨used, cut, -⟩ := used_of_await_ok (settledBelow_scanHead limits) headReading
        have shortMiddle : middle.unused.length < limits.head := by
          rw [← delivers.whole, cut, List.length_append] at short
          omega
        have plainMiddle : middle.stream.IsPlain := by
          have stays : (reader.readHead limits).2.stream.IsPlain := isPlain_await _ _ delivers.plain
          rwa [headReading] at stays
        have bodyReads := remaining_await_of_delivers (fun _ => .truncated)
          (Framing.settledBelow_scanBody limits framing) shortMiddle ⟨plainMiddle, rfl⟩
        rw [← readBody] at bodyReads
        rcases bodyReading : middle.readBody limits framing with ⟨failure | body, last⟩
        · simp only [bodyReading] at memory bodyReads ⊢
          rw [← bodyReads memory]
          rfl
        · simp only [bodyReading] at bodyReads ⊢
          rw [← bodyReads rfl]
          rfl

theorem lacksMemory_of_head {memory : Memory} {needed : Nat}
    (lacks : LacksMemory memory needed (reader.readHead limits).1) :
    LacksMemory memory needed (reader.readRequest limits).1 := by
  obtain ⟨large, error, refused⟩ := lacks
  exact ⟨large, error, by rw [readRequest_of_head_error (Prod.ext refused rfl)]⟩

theorem lacksMemory_of_body {needed : Nat} {head : RequestHead} {middle : Reader}
    {framing : Framing} (headReading : reader.readHead limits = (.ok head, middle))
    (framed : Framing.ofFields head.fields = .ok framing)
    (lacks : LacksMemory middle.buffer.memory needed (middle.readBody limits framing).1) :
    LacksMemory reader.buffer.memory needed (reader.readRequest limits).1 := by
  obtain ⟨large, error, refused⟩ := lacks
  have memory : (reader.readHead limits).2.buffer.memory = reader.buffer.memory :=
    memory_await _ _ reader
  rw [headReading] at memory
  exact ⟨memory ▸ large, error, by rw [readRequest_of_head headReading framed, refused]; rfl⟩

section

variable {head : RequestHead} {framing : Framing} {front encoded body rest begun missing : Bytes}
  (spellsHead : Attempt.Spells 0 (scanHead limits) front head)
  (framed : Framing.ofFields head.fields = .ok framing)
  (spellsBody : Attempt.Spells 0 (framing.scanBody limits) encoded body)

include spellsHead framed spellsBody

/-- A head and its body that are there are read as a request, unless memory is refused. -/
theorem readRequest_of_spells (delivers : reader.Delivers (front ++ (encoded ++ rest))) :
    (∃ after, reader.readRequest limits = (.ok (head.withBody body), after) ∧
      after.Delivers rest) ∨
      LacksMemory reader.buffer.memory (front ++ encoded).length (reader.readRequest limits).1 := by
  rw [List.length_append]
  rcases await_of_spells headEnd spellsHead delivers.plain delivers.whole with
    ⟨middle, headRead, left, plain⟩ | lacks
  · rcases await_of_spells (fun _ => .truncated) spellsBody plain left with
      ⟨after, bodyRead, leftAfter, plainAfter⟩ | lacks
    · left
      have reading := readRequest_of_head headRead framed
      rw [readBody, bodyRead] at reading
      exact ⟨after, reading, plainAfter, leftAfter⟩
    · exact Or.inr (lacksMemory_of_body headRead framed (lacks.of_le (Nat.le_add_left _ _)))
  · exact Or.inr (lacksMemory_of_head (lacks.of_le (Nat.le_add_right _ _)))

/-- Where the stream ends inside a request, that is what is reported, unless memory is refused. -/
theorem readRequest_of_front (cut : front ++ encoded = begun ++ missing) (strict : missing ≠ [])
    (delivers : reader.Delivers begun) :
    (∃ after, reader.readRequest limits =
      (.error (.refused (if begun = [] then .closed else .truncated)), after)) ∨
      LacksMemory reader.buffer.memory (front ++ encoded).length (reader.readRequest limits).1 := by
  rw [List.length_append]
  rcases Bytes.front_cases cut with ⟨tail, strictHead, cutHead⟩ | ⟨middle, cutBegun, cutBody⟩
  · -- the stream ends inside the head
    have ends : headEnd begun = if begun = [] then .closed else .truncated := by
      simp only [headEnd, List.isEmpty_iff]
    rcases await_of_front headEnd spellsHead delivers.plain
      (by rw [delivers.whole, cutHead]) strictHead with ⟨after, headRead⟩ | lacks
    · left
      rw [delivers.whole, ends] at headRead
      exact ⟨after, readRequest_of_head_error headRead⟩
    · exact Or.inr (lacksMemory_of_head (lacks.of_le (Nat.le_add_right _ _)))
  · -- the head is all there, and the stream ends inside the body
    have some : begun ≠ [] := by
      rintro rfl
      have nothing := (List.append_eq_nil_iff.mp cutBegun.symm).1
      have found := spellsHead.whole []
      rw [nothing] at found
      exact scanHead_nil found
    rw [if_neg some]
    rcases await_of_spells headEnd spellsHead delivers.plain (delivers.whole.trans cutBegun) with
      ⟨between, headRead, left, plain⟩ | lacks
    · rcases await_of_front (fun _ => .truncated) spellsBody plain
        (by rw [left, cutBody]) strict with ⟨after, bodyRead⟩ | lacks
      · left
        have reading := readRequest_of_head headRead framed
        rw [readBody, bodyRead] at reading
        exact ⟨after, reading⟩
      · exact Or.inr (lacksMemory_of_body headRead framed (lacks.of_le (Nat.le_add_left _ _)))
    · exact Or.inr (lacksMemory_of_head (lacks.of_le (Nat.le_add_right _ _)))

end

/-! ## All requests -/

theorem mem_outcomes_of_ok {most : Nat} {request : Request}
    (reading : reader.readRequest limits = (.ok request, after))
    {outcome : Except ReadFailure Request} (member : outcome ∈ after.outcomes limits most) :
    outcome ∈ reader.outcomes limits (most + 1) := by
  rw [outcomes_succ, reading]
  exact List.mem_cons_of_mem _ member

theorem readRequest_mem_outcomes (most : Nat) :
    (reader.readRequest limits).1 ∈ reader.outcomes limits (most + 1) := by
  rw [outcomes_succ]
  exact List.mem_cons_self

/-- After a request the reader brings the octets that follow it. -/
theorem delivers_after {request : Request} (delivers : reader.Delivers octets)
    (reading : reader.readRequest limits = (.ok request, after)) :
    ∃ used, octets = used ++ after.unused ∧ after.Delivers after.unused := by
  obtain ⟨head, framing, body, headUsed, bodyUsed, -, -, cut, -, -⟩ :=
    used_of_readRequest_ok reading
  have plainAfter : (reader.readRequest limits).2.stream.IsPlain :=
    isPlain_readRequest delivers.plain
  rw [reading] at plainAfter
  refine ⟨headUsed ++ bodyUsed, ?_, plainAfter, rfl⟩
  rw [← delivers.whole, cut, List.append_assoc]

/-- What is read through the first failure is decided by the octets, unless memory is refused. -/
theorem outcomes_eq_outcomesAtOnce {most : Nat} (short : octets.length < limits.head)
    (delivers : reader.Delivers octets) (memory : reader.MemoryHolds limits most) :
    reader.outcomes limits most = outcomesAtOnce limits most octets := by
  induction most generalizing reader octets with
  | zero =>
      rfl
  | succ most inductionHypothesis =>
      have same := remaining_readRequest short delivers
        (memory _ (readRequest_mem_outcomes most))
      rw [outcomes_succ, outcomesAtOnce, ← same]
      rcases reading : reader.readRequest limits with ⟨failure | request, after⟩
      · rfl
      · obtain ⟨used, cut, deliversRest⟩ := delivers_after delivers reading
        have shortRest : after.unused.length < limits.head := by
          rw [cut, List.length_append] at short
          omega
        have memoryRest : after.MemoryHolds limits most :=
          fun outcome member => memory outcome (mem_outcomes_of_ok reading member)
        simp only [remaining, Except.map]
        rw [inductionHypothesis shortRest deliversRest memoryRest]

/-- Every request uses an octet, so that reading comes to a failure. -/
theorem outcomes_end (reader : Reader) {most : Nat} (enough : reader.unused.length < most) :
    ∃ (requests : List Request) (failure : ReadFailure),
      reader.outcomes limits most = requests.map Except.ok ++ [Except.error failure] := by
  induction most generalizing reader with
  | zero =>
      omega
  | succ most inductionHypothesis =>
      rw [outcomes_succ]
      rcases reading : reader.readRequest limits with ⟨failure | request, after⟩
      · exact ⟨[], failure, rfl⟩
      · have fewer := unused_lt_of_readRequest_ok reading
        obtain ⟨requests, failure, same⟩ := inductionHypothesis after (by omega)
        exact ⟨request :: requests, failure, by simp [same]⟩

/-- The request at the front of some octets is the same whatever follows it. -/
theorem readRequest_of_used {request : Request} {others : Bytes}
    (reading : reader.readRequest limits = (.ok request, after))
    {used : Bytes} (cut : reader.unused = used ++ after.unused)
    (short : (used ++ others).length < limits.head) (delivers : second.Delivers (used ++ others))
    (memory : outOfMemory (second.readRequest limits).1 = false) :
    ∃ afterSecond, second.readRequest limits = (.ok request, afterSecond) ∧
      afterSecond.Delivers others := by
  obtain ⟨head, framing, body, headUsed, bodyUsed, rfl, framed, parts, headAgain, bodyAgain⟩ :=
    used_of_readRequest_ok reading
  have same : used = headUsed ++ bodyUsed := by
    rw [cut, ← List.append_assoc] at parts
    exact List.append_cancel_right parts
  have atOnce : requestAtOnce limits (used ++ others) = .ok (head.withBody body, others) := by
    rw [same, List.append_assoc]
    simp only [requestAtOnce, Attempt.atOnce, headAgain, framed, bodyAgain, Except.map]
  have gives := remaining_readRequest short delivers memory
  have plainAfter : (second.readRequest limits).2.stream.IsPlain :=
    isPlain_readRequest delivers.plain
  rw [atOnce] at gives
  obtain ⟨afterSecond, again, left⟩ := eq_of_remaining_ok gives
  rw [again] at plainAfter
  exact ⟨afterSecond, again, plainAfter, left⟩

/-- Octets shorter than the bound on heads are read alike however they are cut into reads and
whatever room the buffer has: request for request, up to the same failure, which comes. A request
that has been read is decided by the octets it used. -/
theorem reading_independent_of_segmentation {most : Nat}
    (short : octets.length < limits.head) (delivers : reader.Delivers octets)
    (memory : reader.MemoryHolds limits most) :
    (∀ second : Reader, second.Delivers octets → second.MemoryHolds limits most →
      second.outcomes limits most = reader.outcomes limits most) ∧
    (octets.length < most → ∃ (requests : List Request) (failure : ReadFailure),
      reader.outcomes limits most = requests.map Except.ok ++ [Except.error failure]) ∧
    ∀ request after, reader.readRequest limits = (.ok request, after) →
      ∃ used, octets = used ++ after.unused ∧ after.Delivers after.unused ∧
        ∀ (others : Bytes) (second : Reader), (used ++ others).length < limits.head →
          second.Delivers (used ++ others) →
          outOfMemory (second.readRequest limits).1 = false →
          ∃ afterSecond, second.readRequest limits = (.ok request, afterSecond) ∧
            afterSecond.Delivers others := by
  refine ⟨?_, ?_, ?_⟩
  · intro second deliversToo memoryToo
    rw [outcomes_eq_outcomesAtOnce short delivers memory,
      outcomes_eq_outcomesAtOnce short deliversToo memoryToo]
  · intro enough
    rw [← delivers.whole] at enough
    exact outcomes_end reader enough
  · intro request after reading
    obtain ⟨used, cut, deliversRest⟩ := delivers_after delivers reading
    refine ⟨used, cut, deliversRest, ?_⟩
    intro others second shortToo deliversToo memoryToo
    exact readRequest_of_used reading (delivers.whole.trans cut) shortToo deliversToo memoryToo

/-- A request and the beginning of another, in one read or in three. -/
theorem reading_independent_of_segmentation_of_two_cuts :
    let limits : Limits := { head := 100, body := 10 }
    let whole := ofReads 8192 [Bytes.ascii "GET /a HTTP/1.1\r\n\r\nGET"]
    let cut := ofReads 0 [Bytes.ascii "GET /a HT", Bytes.ascii "TP/1.1\r", Bytes.ascii "\n\r\nGET"]
    cut.outcomes limits 30 = whole.outcomes limits 30 ∧
      ∃ (requests : List Request) (failure : ReadFailure),
        whole.outcomes limits 30 = requests.map Except.ok ++ [Except.error failure] := by
  intro limits whole cut
  have deliversWhole : whole.Delivers (Bytes.ascii "GET /a HTTP/1.1\r\n\r\nGET") :=
    delivers_ofReads (by decide)
  have short : (Bytes.ascii "GET /a HTTP/1.1\r\n\r\nGET").length < limits.head := by decide
  have memory : whole.MemoryHolds limits 30 := by decide +kernel
  have independent := reading_independent_of_segmentation short deliversWhole memory
  have deliversCut : cut.Delivers (Bytes.ascii "GET /a HTTP/1.1\r\n\r\nGET") :=
    delivers_ofReads (by decide)
  exact ⟨independent.1 cut deliversCut (by decide +kernel), independent.2.1 (by decide)⟩

end Reader

end HttpServer
