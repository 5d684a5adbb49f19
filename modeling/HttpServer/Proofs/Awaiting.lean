import HttpServer.Proofs.Settled

/-!
# Awaiting an item

`Reader.await` looks at the buffered octets again after every read. Octets are neither lost nor
made up by it. When no front of the octets misleads the attempt, what it gives is what the attempt
gives on all octets at once, however they were cut into reads and however much room the buffer
had, as long as memory can be reserved.
-/

namespace HttpServer

/-! ## Room in the buffer -/

namespace ReadBuffer

theorem growTo_ok {buffer grown : ReadBuffer} {size : Nat}
    (grows : buffer.growTo size = .ok grown) :
    grown = { buffer with capacity := max (max (2 * buffer.capacity) size) leastGrowth } := by
  unfold growTo Memory.reserve at grows
  split at grows
  · simp [Except.map] at grows
  · split at grows
    · simp [Except.map] at grows
    · simp only [Except.map, Except.ok.injEq] at grows
      exact grows.symm

theorem le_capacity_of_growTo {buffer grown : ReadBuffer} {size : Nat}
    (grows : buffer.growTo size = .ok grown) :
    buffer.capacity ≤ grown.capacity ∧ size ≤ grown.capacity := by
  rw [growTo_ok grows]
  show buffer.capacity ≤ max (max (2 * buffer.capacity) size) leastGrowth ∧
    size ≤ max (max (2 * buffer.capacity) size) leastGrowth
  omega

theorem growTo_of_memory (buffer : ReadBuffer) (size : Nat)
    (room : max (2 * buffer.capacity) (max size leastGrowth) < buffer.memory.size) :
    ∃ grown, buffer.growTo size = .ok grown := by
  have permitted : addressSpace ≤ maximumCollection := by decide
  have addressable := buffer.memory.addressable
  refine ⟨{ buffer with capacity := max (max (2 * buffer.capacity) size) leastGrowth }, ?_⟩
  have fits : ¬ buffer.memory.size ≤ max (max (2 * buffer.capacity) size) leastGrowth := by omega
  have allowed : ¬ maximumCollection < max (max (2 * buffer.capacity) size) leastGrowth := by
    omega
  simp only [growTo, Memory.reserve, allowed, fits, if_false, Except.map]

/-- Preparing a read is growing to what is wanted, then growing for one more read, each of them
where it is needed. -/
theorem prepare_steps {buffer prepared : ReadBuffer} {wanted : Nat}
    (done : buffer.prepare wanted = .ok prepared) :
    ∃ middle : ReadBuffer,
      (middle = buffer ∧ wanted ≤ buffer.capacity ∨
        buffer.capacity < wanted ∧ buffer.growTo wanted = .ok middle) ∧
      (middle = prepared ∧ middle.data.length < middle.capacity ∨
        middle.capacity ≤ middle.data.length ∧
          middle.growTo (middle.data.length + readRoom) = .ok prepared) := by
  have second {middle : ReadBuffer}
      (done : (if middle.capacity ≤ middle.data.length then
        middle.growTo (middle.data.length + readRoom) else .ok middle) = .ok prepared) :
      middle = prepared ∧ middle.data.length < middle.capacity ∨
        middle.capacity ≤ middle.data.length ∧
          middle.growTo (middle.data.length + readRoom) = .ok prepared := by
    split at done
    · rename_i full
      exact Or.inr ⟨full, done⟩
    · rename_i roomy
      exact Or.inl ⟨Except.ok.inj done, Nat.not_le.mp roomy⟩
  unfold prepare at done
  split at done
  · rename_i small
    cases grows : buffer.growTo wanted with
    | error error =>
        simp [grows, bind, Except.bind] at done
    | ok middle =>
        simp only [grows, bind, Except.bind] at done
        exact ⟨middle, Or.inr ⟨small, rfl⟩, second done⟩
  · rename_i enough
    exact ⟨buffer, Or.inl ⟨rfl, Nat.not_lt.mp enough⟩, second done⟩

/-- The first of the two steps changes no octet and reaches what is wanted. -/
theorem first_of_prepare_steps {buffer middle : ReadBuffer} {wanted : Nat}
    (first : middle = buffer ∧ wanted ≤ buffer.capacity ∨
      buffer.capacity < wanted ∧ buffer.growTo wanted = .ok middle) :
    middle.data = buffer.data ∧ wanted ≤ middle.capacity := by
  rcases first with ⟨rfl, enough⟩ | ⟨-, grows⟩
  · exact ⟨rfl, enough⟩
  · exact ⟨by rw [growTo_ok grows], (le_capacity_of_growTo grows).2⟩

theorem memory_of_prepare {buffer prepared : ReadBuffer} {wanted : Nat}
    (done : buffer.prepare wanted = .ok prepared) :
    prepared.memory = buffer.memory := by
  obtain ⟨middle, first, second⟩ := prepare_steps done
  have same : middle.memory = buffer.memory := by
    rcases first with ⟨rfl, -⟩ | ⟨-, grows⟩
    · rfl
    · rw [growTo_ok grows]
  rcases second with ⟨rfl, -⟩ | ⟨-, grows⟩
  · exact same
  · rw [growTo_ok grows]
    exact same

/-- Preparing a read changes no octet and leaves room for one more. -/
theorem prepare_ok {buffer prepared : ReadBuffer} {wanted : Nat}
    (done : buffer.prepare wanted = .ok prepared) :
    prepared.data = buffer.data ∧ 0 < prepared.spare := by
  obtain ⟨middle, first, ⟨rfl, roomy⟩ | ⟨-, grows⟩⟩ := prepare_steps done
  · refine ⟨(first_of_prepare_steps first).1, ?_⟩
    unfold spare
    omega
  · have large := (le_capacity_of_growTo grows).2
    have kept : prepared.data = middle.data := by rw [growTo_ok grows]
    refine ⟨kept.trans (first_of_prepare_steps first).1, ?_⟩
    unfold readRoom at large
    unfold spare
    rw [kept]
    omega

theorem wanted_le_of_prepare {buffer prepared : ReadBuffer} {wanted : Nat}
    (done : buffer.prepare wanted = .ok prepared) :
    wanted ≤ prepared.capacity := by
  obtain ⟨middle, first, ⟨rfl, -⟩ | ⟨-, grows⟩⟩ := prepare_steps done
  · exact (first_of_prepare_steps first).2
  · exact Nat.le_trans (first_of_prepare_steps first).2 (le_capacity_of_growTo grows).1

/-- A read can be prepared when twice what is wanted and twice what is held fit into memory. -/
theorem prepare_of_memory (buffer : ReadBuffer) (wanted : Nat)
    (roomWanted : 2 * wanted + leastGrowth < buffer.memory.size)
    (roomHeld : 2 * buffer.data.length + readRoom < buffer.memory.size) :
    ∃ prepared, buffer.prepare wanted = .ok prepared := by
  have afterFirst (middle : ReadBuffer) (same : middle.data = buffer.data)
      (memory : middle.memory = buffer.memory) :
      ∃ prepared, (if middle.capacity ≤ middle.data.length then
        middle.growTo (middle.data.length + readRoom) else .ok middle) = .ok prepared := by
    split
    · rename_i full
      apply growTo_of_memory
      rw [same] at full ⊢
      rw [memory]
      unfold readRoom leastGrowth at *
      omega
    · exact ⟨middle, rfl⟩
  unfold prepare
  split
  · obtain ⟨middle, grows⟩ := growTo_of_memory buffer wanted (by omega)
    simp only [grows, bind, Except.bind]
    exact afterFirst middle (by rw [growTo_ok grows]) (by rw [growTo_ok grows])
  · exact afterFirst buffer rfl rfl

end ReadBuffer

/-! ## Reads -/

namespace Stream

/-- Every delivery brings octets, so that a read finds nothing at the end of the stream only. -/
def IsPlain (stream : Stream) : Prop :=
  ∀ delivery ∈ stream, ∃ bytes, bytes ≠ [] ∧ delivery = .octets bytes

theorem contents_of_read {room : Nat} {stream rest : Stream} {bytes : Bytes}
    (brought : stream.read room = (.octets bytes, rest)) :
    stream.contents = bytes ++ rest.contents := by
  cases stream with
  | nil =>
      simp only [Stream.read, Prod.mk.injEq, Delivery.octets.injEq] at brought
      obtain ⟨rfl, rfl⟩ := brought
      rfl
  | cons delivery tail =>
      cases delivery with
      | failure kind =>
          simp [Stream.read] at brought
      | octets given =>
          simp only [Stream.read] at brought
          split at brought
          · simp only [Prod.mk.injEq, Delivery.octets.injEq] at brought
            obtain ⟨rfl, rfl⟩ := brought
            rfl
          · simp only [Prod.mk.injEq, Delivery.octets.injEq] at brought
            obtain ⟨rfl, rfl⟩ := brought
            simp only [contents, List.flatMap_cons]
            rw [← List.append_assoc, List.take_append_drop]

theorem contents_of_failed_read {room : Nat} {stream rest : Stream} {kind : IoFailure}
    (brought : stream.read room = (.failure kind, rest)) :
    rest.contents = stream.contents := by
  cases stream with
  | nil =>
      simp [Stream.read] at brought
  | cons delivery tail =>
      cases delivery with
      | failure given =>
          simp only [Stream.read, Prod.mk.injEq] at brought
          obtain ⟨-, rfl⟩ := brought
          rfl
      | octets bytes =>
          simp only [Stream.read] at brought
          split at brought <;> simp at brought

theorem IsPlain.read {room : Nat} {stream rest : Stream} {delivery : Delivery}
    (plain : stream.IsPlain) (brought : stream.read room = (delivery, rest)) :
    rest.IsPlain ∧ ∃ bytes, delivery = .octets bytes := by
  cases stream with
  | nil =>
      simp only [Stream.read, Prod.mk.injEq] at brought
      obtain ⟨rfl, rfl⟩ := brought
      exact ⟨plain, [], rfl⟩
  | cons first tail =>
      obtain ⟨bytes, _, rfl⟩ := plain first List.mem_cons_self
      have tailPlain : IsPlain tail :=
        fun other member => plain other (List.mem_cons_of_mem _ member)
      simp only [Stream.read] at brought
      split at brought
      · simp only [Prod.mk.injEq] at brought
        obtain ⟨rfl, rfl⟩ := brought
        exact ⟨tailPlain, bytes, rfl⟩
      · rename_i tooLong
        simp only [Prod.mk.injEq] at brought
        obtain ⟨rfl, rfl⟩ := brought
        refine ⟨?_, bytes.take room, rfl⟩
        intro other member
        rcases List.mem_cons.mp member with rfl | memberTail
        · refine ⟨bytes.drop room, ?_, rfl⟩
          intro nothing
          rw [List.drop_eq_nil_iff] at nothing
          exact tooLong nothing
        · exact tailPlain other memberTail

theorem IsPlain.read_nothing {room : Nat} {stream rest : Stream}
    (plain : stream.IsPlain) (hasRoom : 0 < room)
    (brought : stream.read room = (.octets [], rest)) :
    stream.contents = [] ∧ rest = [] := by
  cases stream with
  | nil =>
      simp only [Stream.read, Prod.mk.injEq, true_and] at brought
      exact ⟨rfl, brought.symm⟩
  | cons first tail =>
      obtain ⟨bytes, some, rfl⟩ := plain first List.mem_cons_self
      simp only [Stream.read] at brought
      split at brought
      · simp only [Prod.mk.injEq, Delivery.octets.injEq] at brought
        exact absurd brought.1 some
      · simp only [Prod.mk.injEq, Delivery.octets.injEq, List.take_eq_nil_iff] at brought
        rcases brought.1 with noRoom | nothing
        · omega
        · exact absurd nothing some

end Stream

/-! ## What awaiting gives -/

/-- What an attempt gives on all octets at once, when none can follow. -/
def Attempt.atOnce {α : Type} (attempt : Bytes → Attempt α) (atEnd : Bytes → DecodeError)
    (bytes : Bytes) : Except ReadFailure (α × Bytes) :=
  match attempt bytes with
  | .found item rest => .ok (item, rest)
  | .wait _ => .error (.refused (atEnd bytes))
  | .failed failure => .error failure

namespace Reader

variable {α : Type} {attempt : Bytes → Attempt α} {atEnd : Bytes → DecodeError}

/-- The outcome of a read, an item together with the octets it left unused. -/
def remaining (reading : Except ReadFailure α × Reader) : Except ReadFailure (α × Bytes) :=
  reading.1.map fun item => (item, reading.2.unused)

theorem eq_of_remaining_ok {reading : Except ReadFailure α × Reader} {item : α} {rest : Bytes}
    (gives : remaining reading = .ok (item, rest)) :
    ∃ after, reading = (.ok item, after) ∧ after.unused = rest := by
  obtain ⟨failure | found, after⟩ := reading
  · simp [remaining, Except.map] at gives
  · simp only [remaining, Except.map, Except.ok.injEq, Prod.mk.injEq] at gives
    obtain ⟨rfl, left⟩ := gives
    exact ⟨after, rfl, left⟩

theorem eq_of_remaining_error {reading : Except ReadFailure α × Reader} {failure : ReadFailure}
    (gives : remaining reading = .error failure) :
    ∃ after, reading = (.error failure, after) := by
  obtain ⟨other | found, after⟩ := reading
  · simp only [remaining, Except.map, Except.error.injEq] at gives
    subst gives
    exact ⟨after, rfl⟩
  · simp [remaining, Except.map] at gives

/-- Where an attempt waits, awaiting goes on with what a read brings. -/
theorem await_of_read {reader : Reader} {wanted : Nat} {buffer : ReadBuffer} {bytes : Bytes}
    {rest : Stream}
    (waits : attempt reader.buffer.data = .wait wanted)
    (prepared : reader.buffer.prepare wanted = .ok buffer) (some : bytes ≠ [])
    (brought : reader.stream.read buffer.spare = (.octets bytes, rest)) :
    reader.await attempt atEnd =
      await attempt atEnd { buffer := buffer.receive bytes, stream := rest } := by
  cases bytes with
  | nil =>
      exact absurd rfl some
  | cons first others =>
      rw [await.eq_def]
      simp only [waits, prepared]
      split
      · rename_i kind after same
        simp [brought] at same
      · rename_i after same
        simp [brought] at same
      · rename_i other tail after same
        rw [brought, Prod.mk.injEq, Delivery.octets.injEq, List.cons.injEq] at same
        obtain ⟨⟨rfl, rfl⟩, rfl⟩ := same
        rfl

theorem unused_receive {reader : Reader} {buffer : ReadBuffer} {bytes : Bytes} {rest : Stream}
    (same : buffer.data = reader.buffer.data)
    (moved : reader.stream.contents = bytes ++ rest.contents) :
    unused { buffer := buffer.receive bytes, stream := rest } = reader.unused := by
  simp only [unused, ReadBuffer.receive, same, moved, List.append_assoc]

theorem unused_of_await_error {reader after : Reader} {failure : ReadFailure}
    (gave : reader.await attempt atEnd = (.error failure, after)) :
    after.unused = reader.unused := by
  fun_induction Reader.await attempt atEnd reader with
  | case1 =>
      simp at gave
  | case2 reader failed verdict =>
      simp only [Prod.mk.injEq] at gave
      rw [← gave.2]
  | case3 reader wanted verdict error refused =>
      simp only [Prod.mk.injEq] at gave
      rw [← gave.2]
  | case4 reader wanted verdict buffer prepared kind rest brought =>
      simp only [Prod.mk.injEq] at gave
      rw [← gave.2, unused, (ReadBuffer.prepare_ok prepared).1,
        Stream.contents_of_failed_read brought]
      rfl
  | case5 reader wanted verdict buffer prepared rest brought =>
      simp only [Prod.mk.injEq] at gave
      have moved := Stream.contents_of_read brought
      rw [← gave.2, unused, (ReadBuffer.prepare_ok prepared).1, ← List.nil_append rest.contents,
        ← moved]
      rfl
  | case6 reader wanted verdict buffer prepared first others rest brought inductionHypothesis =>
      rw [inductionHypothesis gave]
      exact unused_receive (ReadBuffer.prepare_ok prepared).1 (Stream.contents_of_read brought)

/-- Nothing has been found when awaiting ends in a failure: the attempt fails on what is buffered,
or it waits there and memory is refused, nothing more comes or a read fails. -/
theorem await_error_cases {reader after : Reader} {failure : ReadFailure}
    (gave : reader.await attempt atEnd = (.error failure, after)) :
    attempt after.buffer.data = .failed failure ∨
      ∃ wanted, attempt after.buffer.data = .wait wanted ∧
        ((∃ error, failure = .fault (.reservation error)) ∨
          failure = .refused (atEnd after.buffer.data) ∨
          ∃ kind, failure = .refused (.readFailed kind)) := by
  fun_induction Reader.await attempt atEnd reader with
  | case1 =>
      simp at gave
  | case2 reader failed verdict =>
      obtain ⟨same, rfl⟩ := Prod.mk.inj gave
      rw [← Except.error.inj same]
      exact Or.inl verdict
  | case3 reader wanted verdict error refused =>
      obtain ⟨same, rfl⟩ := Prod.mk.inj gave
      rw [← Except.error.inj same]
      exact Or.inr ⟨wanted, verdict, Or.inl ⟨error, rfl⟩⟩
  | case4 reader wanted verdict buffer prepared kind rest brought =>
      obtain ⟨same, rfl⟩ := Prod.mk.inj gave
      rw [← Except.error.inj same, (ReadBuffer.prepare_ok prepared).1]
      exact Or.inr ⟨wanted, verdict, Or.inr (Or.inr ⟨kind, rfl⟩)⟩
  | case5 reader wanted verdict buffer prepared rest brought =>
      obtain ⟨same, rfl⟩ := Prod.mk.inj gave
      rw [← Except.error.inj same, (ReadBuffer.prepare_ok prepared).1]
      exact Or.inr ⟨wanted, verdict, Or.inr (Or.inl rfl)⟩
  | case6 reader wanted verdict buffer prepared first others rest brought inductionHypothesis =>
      exact inductionHypothesis gave

/-- An item is found in a front of the unused octets, and the octets after it stay unused. -/
theorem seen_of_await_ok {reader after : Reader} {item : α}
    (gave : reader.await attempt atEnd = (.ok item, after)) :
    ∃ seen rest, attempt seen = .found item rest ∧
      seen ++ after.stream.contents = reader.unused ∧
      rest ++ after.stream.contents = after.unused := by
  fun_induction Reader.await attempt atEnd reader with
  | case1 reader found rest verdict =>
      simp only [Prod.mk.injEq, Except.ok.injEq] at gave
      obtain ⟨rfl, rfl⟩ := gave
      exact ⟨reader.buffer.data, rest, verdict, rfl, rfl⟩
  | case2 | case3 | case4 | case5 =>
      simp at gave
  | case6 reader wanted verdict buffer prepared first others rest brought inductionHypothesis =>
      obtain ⟨seen, behind, found, whole, left⟩ := inductionHypothesis gave
      refine ⟨seen, behind, found, ?_, left⟩
      rw [whole]
      exact unused_receive (ReadBuffer.prepare_ok prepared).1 (Stream.contents_of_read brought)

/-- Memory can only be refused where an attempt waits on a front of the unused octets. -/
theorem await_reservation {reader : Reader} {error : ReservationError}
    (refused : (reader.await attempt atEnd).1 = .error (.fault (.reservation error))) :
    ∃ front more, reader.unused = front ++ more ∧
      (attempt front = .failed (.fault (.reservation error)) ∨
        ∃ (buffer : ReadBuffer) (wanted : Nat), buffer.data = front ∧
          buffer.memory = reader.buffer.memory ∧ attempt front = .wait wanted ∧
          buffer.prepare wanted = .error error) := by
  fun_induction Reader.await attempt atEnd reader with
  | case1 | case4 | case5 =>
      simp at refused
  | case2 reader failed verdict =>
      simp only [Except.error.injEq] at refused
      exact ⟨_, _, rfl, Or.inl (by rw [verdict, refused])⟩
  | case3 reader wanted verdict given prepared =>
      simp only [Except.error.injEq, ReadFailure.fault.injEq, Fault.reservation.injEq] at refused
      subst refused
      exact ⟨_, _, rfl, Or.inr ⟨reader.buffer, wanted, rfl, rfl, verdict, prepared⟩⟩
  | case6 reader wanted verdict buffer prepared first others rest brought inductionHypothesis =>
      obtain ⟨front, more, cut, cause⟩ := inductionHypothesis refused
      rw [← ReadBuffer.memory_of_prepare prepared]
      refine ⟨front, more, ?_, cause⟩
      rw [← cut]
      exact (unused_receive (ReadBuffer.prepare_ok prepared).1
        (Stream.contents_of_read brought)).symm

theorem isPlain_await (attempt : Bytes → Attempt α) (atEnd : Bytes → DecodeError)
    {reader : Reader} (plain : reader.stream.IsPlain) :
    (reader.await attempt atEnd).2.stream.IsPlain := by
  fun_induction Reader.await attempt atEnd reader with
  | case1 | case2 | case3 =>
      exact plain
  | case4 reader wanted verdict buffer prepared kind rest brought =>
      exact (plain.read brought).1
  | case5 reader wanted verdict buffer prepared rest brought =>
      exact (plain.read brought).1
  | case6 reader wanted verdict buffer prepared first others rest brought inductionHypothesis =>
      exact inductionHypothesis (plain.read brought).1

theorem memory_await (attempt : Bytes → Attempt α) (atEnd : Bytes → DecodeError)
    (reader : Reader) :
    (reader.await attempt atEnd).2.buffer.memory = reader.buffer.memory := by
  fun_induction Reader.await attempt atEnd reader with
  | case1 | case2 | case3 =>
      rfl
  | case4 reader wanted verdict buffer prepared
  | case5 reader wanted verdict buffer prepared =>
      exact ReadBuffer.memory_of_prepare prepared
  | case6 reader wanted verdict buffer prepared first others rest brought inductionHypothesis =>
      have memory := ReadBuffer.memory_of_prepare prepared
      exact inductionHypothesis.trans memory

/-- When no front misleads the attempt, the cuts between the reads and the room in the buffer do
not matter, unless memory is refused. -/
theorem await_eq_atOnce (atEnd : Bytes → DecodeError) {reader : Reader}
    (steady : Attempt.Steady attempt reader.unused) (plain : reader.stream.IsPlain) :
    remaining (reader.await attempt atEnd) = Attempt.atOnce attempt atEnd reader.unused ∨
      ∃ error, (reader.await attempt atEnd).1 = .error (.fault (.reservation error)) := by
  fun_induction Reader.await attempt atEnd reader with
  | case1 reader item rest verdict =>
      left
      rcases steady _ _ rfl with ⟨wanted, waits⟩ | same
      · simp [verdict] at waits
      · rw [Attempt.atOnce, same, verdict]
        rfl
  | case2 reader failure verdict =>
      left
      rcases steady _ _ rfl with ⟨wanted, waits⟩ | same
      · simp [verdict] at waits
      · rw [Attempt.atOnce, same, verdict]
        rfl
  | case3 reader wanted verdict error prepared =>
      exact Or.inr ⟨error, rfl⟩
  | case4 reader wanted verdict buffer prepared kind rest brought =>
      obtain ⟨-, bytes, octets⟩ := plain.read brought
      simp at octets
  | case5 reader wanted verdict buffer prepared rest brought =>
      left
      obtain ⟨same, roomy⟩ := ReadBuffer.prepare_ok prepared
      obtain ⟨nothing, -⟩ := plain.read_nothing roomy brought
      have all : reader.unused = reader.buffer.data := by
        rw [unused, nothing, List.append_nil]
      rw [Attempt.atOnce, all, verdict, same]
      rfl
  | case6 reader wanted verdict buffer prepared first others rest brought inductionHypothesis =>
      have same :=
        unused_receive (ReadBuffer.prepare_ok prepared).1 (Stream.contents_of_read brought)
      rw [← same] at steady ⊢
      exact inductionHypothesis steady (plain.read brought).1

/-- Memory is not refused where what a modest attempt may wait for fits into half of it. -/
theorem await_ne_reservation {reader : Reader} {bound : Nat}
    (modest : Attempt.Modest bound attempt reader.unused)
    (room : 2 * bound + ReadBuffer.readRoom < reader.buffer.memory.size)
    (error : ReservationError) :
    (reader.await attempt atEnd).1 ≠ .error (.fault (.reservation error)) := by
  intro refused
  obtain ⟨front, more, cut, failed | ⟨buffer, wanted, held, memory, waits, unprepared⟩⟩ :=
    await_reservation refused
  · exact modest.sober cut failed
  · obtain ⟨small, short⟩ := modest.waits cut waits
    unfold ReadBuffer.readRoom at room
    rw [← memory] at room
    obtain ⟨prepared, done⟩ := buffer.prepare_of_memory wanted
      (by unfold ReadBuffer.leastGrowth; omega)
      (by rw [held]; unfold ReadBuffer.readRoom; omega)
    rw [done] at unprepared
    simp at unprepared

/-- Memory was refused to a reading, and twice what the reading needs comes near to filling it. -/
def LacksMemory (memory : Memory) (needed : Nat) (outcome : Except ReadFailure α) : Prop :=
  memory.size ≤ 2 * needed + ReadBuffer.readRoom ∧
    ∃ error, outcome = .error (.fault (.reservation error))

theorem LacksMemory.of_le {memory : Memory} {few many : Nat} {outcome : Except ReadFailure α}
    (lacks : LacksMemory memory few outcome) (fewer : few ≤ many) :
    LacksMemory memory many outcome :=
  ⟨Nat.le_trans lacks.1 (by omega), lacks.2⟩

theorem not_lacksMemory {memory : Memory} {needed : Nat} {outcome : Except ReadFailure α}
    (room : 2 * needed + ReadBuffer.readRoom < memory.size) :
    ¬ LacksMemory memory needed outcome :=
  fun lacks => Nat.not_le.mpr room lacks.1

/-- Awaiting gives what the attempt gives at once, unless it lacks the memory for what the attempt
may wait for. -/
theorem await_of_modest (atEnd : Bytes → DecodeError) {reader : Reader} {bound : Nat}
    (steady : Attempt.Steady attempt reader.unused) (plain : reader.stream.IsPlain)
    (modest : Attempt.Modest bound attempt reader.unused) :
    remaining (reader.await attempt atEnd) = Attempt.atOnce attempt atEnd reader.unused ∨
      LacksMemory reader.buffer.memory bound (reader.await attempt atEnd).1 := by
  rcases await_eq_atOnce atEnd steady plain with gives | ⟨error, refused⟩
  · exact Or.inl gives
  · right
    refine ⟨?_, error, refused⟩
    apply Nat.le_of_not_lt
    intro room
    exact await_ne_reservation modest room error refused

/-- An item that is there is found, unless memory is refused. -/
theorem await_of_spells (atEnd : Bytes → DecodeError) {reader : Reader} {used rest : Bytes}
    {item : α} (spells : Attempt.Spells 0 attempt used item)
    (plain : reader.stream.IsPlain) (there : reader.unused = used ++ rest) :
    (∃ after, reader.await attempt atEnd = (.ok item, after) ∧ after.unused = rest ∧
      after.stream.IsPlain) ∨
      LacksMemory reader.buffer.memory used.length (reader.await attempt atEnd).1 := by
  have stays := isPlain_await attempt atEnd plain
  rcases await_of_modest atEnd (there ▸ spells.steady) plain (there ▸ spells.modest) with
    gives | lacks
  · left
    rw [there, Attempt.atOnce, spells.whole] at gives
    obtain ⟨after, awaited, left⟩ := eq_of_remaining_ok gives
    rw [awaited] at stays
    exact ⟨after, awaited, left, stays⟩
  · exact Or.inr lacks

/-- Where the stream ends inside an item, that is what is reported, unless memory is refused. -/
theorem await_of_front (atEnd : Bytes → DecodeError) {reader : Reader} {used tail : Bytes}
    {item : α} (spells : Attempt.Spells 0 attempt used item)
    (plain : reader.stream.IsPlain) (cut : used = reader.unused ++ tail) (strict : tail ≠ []) :
    (∃ after, reader.await attempt atEnd = (.error (.refused (atEnd reader.unused)), after)) ∨
      LacksMemory reader.buffer.memory used.length (reader.await attempt atEnd).1 := by
  obtain ⟨wanted, -, waits⟩ := spells.front reader.unused tail cut strict
  rcases await_of_modest atEnd (spells.steady_front cut strict) plain
    (spells.modest_front cut) with gives | lacks
  · left
    rw [Attempt.atOnce, waits] at gives
    exact eq_of_remaining_error gives
  · exact Or.inr lacks

end Reader

end HttpServer
