import HttpServer.Proofs.RequestReading
import Mathlib.Logic.Relation

/-!
# Awaiting as a sequence of reads

Awaiting an item is a number of reads, each of which finds the attempt waiting, makes room and
fills the buffer further, and then an end: an item, a failure, or a read that brings nothing. So
what every read preserves holds where awaiting ends. A buffer that memory was granted for stays
one, which bounds the octets that any attempt ever looks at.
-/

namespace HttpServer

/-! ## Buffers that memory was granted for -/

namespace ReadBuffer

/-- There is room for what the buffer holds, and memory for that room. -/
structure IsGranted (buffer : ReadBuffer) : Prop where
  held : buffer.data.length ≤ buffer.capacity
  granted : buffer.capacity < buffer.memory.size

variable {buffer grown prepared : ReadBuffer} {size wanted : Nat}

theorem lt_size_of_reserve {memory : Memory} {granted : Nat}
    (reserved : memory.reserve size = .ok granted) :
    granted = size ∧ size < memory.size := by
  unfold Memory.reserve at reserved
  split at reserved
  · simp at reserved
  · split at reserved
    · simp at reserved
    · rename_i fits
      exact ⟨(Except.ok.inj reserved).symm, Nat.not_le.mp fits⟩

theorem isGranted_ofCapacity {capacity : Nat} {memory : Memory}
    (made : ofCapacity capacity memory = .ok buffer) :
    buffer.IsGranted := by
  unfold ofCapacity at made
  cases reserved : memory.reserve capacity with
  | error error =>
      simp [reserved, Except.map] at made
  | ok granted =>
      obtain ⟨rfl, fits⟩ := lt_size_of_reserve reserved
      simp only [reserved, Except.map, Except.ok.injEq] at made
      subst made
      exact ⟨Nat.zero_le _, fits⟩

theorem IsGranted.growTo (granted : buffer.IsGranted) (grows : buffer.growTo size = .ok grown) :
    grown.IsGranted := by
  have larger := (le_capacity_of_growTo grows).1
  have sameData : grown.data = buffer.data := by rw [growTo_ok grows]
  refine ⟨by rw [sameData]; exact Nat.le_trans granted.held larger, ?_⟩
  unfold ReadBuffer.growTo at grows
  cases reserved : buffer.memory.reserve (max (max (2 * buffer.capacity) size) leastGrowth) with
  | error error =>
      simp only [reserved, Except.map, reduceCtorEq] at grows
  | ok capacity =>
      obtain ⟨rfl, fits⟩ := lt_size_of_reserve reserved
      simp only [reserved, Except.map, Except.ok.injEq] at grows
      subst grows
      exact fits

theorem IsGranted.lt_addressSpace (granted : buffer.IsGranted) : buffer.capacity < addressSpace :=
  Nat.lt_of_lt_of_le granted.granted buffer.memory.addressable

theorem IsGranted.prepare (granted : buffer.IsGranted)
    (done : buffer.prepare wanted = .ok prepared) :
    prepared.IsGranted := by
  obtain ⟨middle, first, second⟩ := prepare_steps done
  have grantedMiddle : middle.IsGranted := by
    rcases first with ⟨rfl, -⟩ | ⟨-, grows⟩
    · exact granted
    · exact granted.growTo grows
  rcases second with ⟨rfl, -⟩ | ⟨-, grows⟩
  · exact grantedMiddle
  · exact grantedMiddle.growTo grows

theorem IsGranted.receive {bytes : Bytes} (granted : buffer.IsGranted)
    (fits : bytes.length ≤ buffer.spare) :
    (buffer.receive bytes).IsGranted := by
  have held := granted.held
  refine ⟨?_, granted.granted⟩
  show (buffer.data ++ bytes).length ≤ buffer.capacity
  rw [List.length_append]
  unfold spare at fits
  omega

theorem IsGranted.keep {rest : Bytes} (granted : buffer.IsGranted)
    (shorter : rest.length ≤ buffer.data.length) :
    (buffer.keep rest).IsGranted :=
  ⟨Nat.le_trans shorter granted.held, granted.granted⟩

theorem IsGranted.size_of_capacityOverflow (granted : buffer.IsGranted)
    (refused : buffer.growTo size = .error .capacityOverflow) :
    maximumCollection < size := by
  have room : addressSpace + addressSpace + leastGrowth ≤ maximumCollection := by decide
  have small := granted.lt_addressSpace
  unfold ReadBuffer.growTo Memory.reserve at refused
  split at refused
  · omega
  · split at refused <;> simp [Except.map] at refused

/-- Memory is refused for good only when more is wanted than a collection may ever have. -/
theorem IsGranted.wanted_of_capacityOverflow (granted : buffer.IsGranted)
    (refused : buffer.prepare wanted = .error .capacityOverflow) :
    maximumCollection < wanted := by
  -- growing for one more read never asks for that much
  have second {middle : ReadBuffer} (grantedMiddle : middle.IsGranted) :
      (if middle.capacity ≤ middle.data.length then
        middle.growTo (middle.data.length + readRoom) else .ok middle) ≠
          .error .capacityOverflow := by
    intro refused
    split at refused
    · have large := grantedMiddle.size_of_capacityOverflow refused
      have room : addressSpace + readRoom ≤ maximumCollection := by decide
      have held := grantedMiddle.held
      have small := grantedMiddle.lt_addressSpace
      omega
    · simp at refused
  unfold ReadBuffer.prepare at refused
  split at refused
  · cases grows : buffer.growTo wanted with
    | error error =>
        simp only [grows, bind, Except.bind, Except.error.injEq] at refused
        subst refused
        exact granted.size_of_capacityOverflow grows
    | ok middle =>
        simp only [grows, bind, Except.bind] at refused
        exact absurd refused (second (granted.growTo grows))
  · exact absurd refused (second granted)

theorem capacity_le_of_prepare (done : buffer.prepare wanted = .ok prepared) :
    prepared.capacity ≤ max buffer.capacity (2 * max wanted buffer.data.length + readRoom) := by
  have least : leastGrowth ≤ readRoom := by decide
  obtain ⟨middle, first, second⟩ := prepare_steps done
  have same := (first_of_prepare_steps first).1
  have bounded : middle.capacity ≤ max buffer.capacity (2 * wanted + readRoom) := by
    rcases first with ⟨rfl, -⟩ | ⟨small, grows⟩
    · exact Nat.le_max_left _ _
    · rw [growTo_ok grows]
      show max (max (2 * buffer.capacity) wanted) leastGrowth ≤ _
      omega
  rcases second with ⟨rfl, -⟩ | ⟨full, grows⟩
  · omega
  · rw [growTo_ok grows, same]
    rw [same] at full
    show max (max (2 * middle.capacity) (buffer.data.length + readRoom)) leastGrowth ≤ _
    omega

end ReadBuffer

theorem Stream.length_le_of_read {room : Nat} {stream rest : Stream} {bytes : Bytes}
    (brought : stream.read room = (.octets bytes, rest)) :
    bytes.length ≤ room := by
  cases stream with
  | nil =>
      simp only [Stream.read, Prod.mk.injEq, Delivery.octets.injEq] at brought
      simp [← brought.1]
  | cons delivery tail =>
      cases delivery with
      | failure kind =>
          simp [Stream.read] at brought
      | octets given =>
          simp only [Stream.read] at brought
          split at brought
          · rename_i short
            simp only [Prod.mk.injEq, Delivery.octets.injEq] at brought
            exact brought.1 ▸ short
          · simp only [Prod.mk.injEq, Delivery.octets.injEq] at brought
            rw [← brought.1, List.length_take]
            exact Nat.min_le_left _ _

/-! ## Attempts that octets decide -/

/-- On every front of these octets an attempt waits, and once they are all there it gives a verdict
on what follows them; both as long as there are fewer than `bound` octets to look at. -/
structure Attempt.DecidesBelow {α : Type} (bound : Nat) (attempt : Bytes → Attempt α)
    (used : Bytes) (verdict : Bytes → Attempt α) : Prop where
  whole : used.length < bound → ∀ more, attempt (used ++ more) = verdict more
  front : ∀ front tail, used = front ++ tail → tail ≠ [] → front.length < bound →
    ∃ wanted, attempt front = .wait wanted

theorem Attempt.Spells.decidesBelow {α : Type} {passed : Nat} {attempt : Bytes → Attempt α}
    {used : Bytes} {item : α} (spells : Spells passed attempt used item) (bound : Nat) :
    DecidesBelow bound attempt used (.found item) := by
  constructor
  · intro _ more
    exact spells.whole more
  · intro front tail cut strict _
    obtain ⟨wanted, -, waits⟩ := spells.front front tail cut strict
    exact ⟨wanted, waits⟩

namespace Reader

variable {α : Type} {attempt : Bytes → Attempt α} {atEnd : Bytes → DecodeError}
  {reader next last : Reader} {outcome : Except ReadFailure α × Reader}

/-! ## Reads and ends -/

/-- One read of awaiting: the attempt waits, room is made, and some octets come. -/
inductive Fills (attempt : Bytes → Attempt α) (reader : Reader) : Reader → Prop where
  | read (wanted : Nat) (buffer : ReadBuffer) (bytes : Bytes) (rest : Stream)
      (waits : attempt reader.buffer.data = .wait wanted)
      (prepared : reader.buffer.prepare wanted = .ok buffer) (some : bytes ≠ [])
      (brought : reader.stream.read buffer.spare = (.octets bytes, rest)) :
      Fills attempt reader { buffer := buffer.receive bytes, stream := rest }

/-- How awaiting can end without a further read that brings octets. -/
inductive Ends (attempt : Bytes → Attempt α) (atEnd : Bytes → DecodeError) (last : Reader) :
    Except ReadFailure α × Reader → Prop where
  | found (item : α) (rest : Bytes) (verdict : attempt last.buffer.data = .found item rest) :
      Ends attempt atEnd last (.ok item, { last with buffer := last.buffer.keep rest })
  | failed (failure : ReadFailure) (verdict : attempt last.buffer.data = .failed failure) :
      Ends attempt atEnd last (.error failure, last)
  | unprepared (wanted : Nat) (error : ReservationError)
      (waits : attempt last.buffer.data = .wait wanted)
      (refused : last.buffer.prepare wanted = .error error) :
      Ends attempt atEnd last (.error (.fault (.reservation error)), last)
  | broken (wanted : Nat) (buffer : ReadBuffer) (kind : IoFailure) (rest : Stream)
      (waits : attempt last.buffer.data = .wait wanted)
      (prepared : last.buffer.prepare wanted = .ok buffer)
      (brought : last.stream.read buffer.spare = (.failure kind, rest)) :
      Ends attempt atEnd last (.error (.refused (.readFailed kind)), { buffer, stream := rest })
  | ended (wanted : Nat) (buffer : ReadBuffer) (rest : Stream)
      (waits : attempt last.buffer.data = .wait wanted)
      (prepared : last.buffer.prepare wanted = .ok buffer)
      (brought : last.stream.read buffer.spare = (.octets [], rest)) :
      Ends attempt atEnd last
        (.error (.refused (atEnd buffer.data)), { buffer, stream := rest })

/-- Awaiting is a sequence of reads with an end behind it. -/
theorem exists_ends_await (attempt : Bytes → Attempt α) (atEnd : Bytes → DecodeError)
    (reader : Reader) :
    ∃ last, Relation.ReflTransGen (Fills attempt) reader last ∧
      Ends attempt atEnd last (reader.await attempt atEnd) := by
  fun_induction Reader.await attempt atEnd reader with
  | case1 reader item rest verdict =>
      exact ⟨reader, .refl, .found item rest verdict⟩
  | case2 reader failure verdict =>
      exact ⟨reader, .refl, .failed failure verdict⟩
  | case3 reader wanted waits error refused =>
      exact ⟨reader, .refl, .unprepared wanted error waits refused⟩
  | case4 reader wanted waits buffer prepared kind rest brought =>
      exact ⟨reader, .refl, .broken wanted buffer kind rest waits prepared brought⟩
  | case5 reader wanted waits buffer prepared rest brought =>
      exact ⟨reader, .refl, .ended wanted buffer rest waits prepared brought⟩
  | case6 reader wanted waits buffer prepared first others rest brought inductionHypothesis =>
      obtain ⟨last, fills, ends⟩ := inductionHypothesis
      have fill : Fills attempt reader
          { buffer := buffer.receive (first :: others), stream := rest } :=
        .read wanted buffer (first :: others) rest waits prepared (List.cons_ne_nil _ _) brought
      exact ⟨last, .head fill fills, ends⟩

/-! ## What reads preserve -/

theorem Fills.unused (fills : Fills attempt reader next) : next.unused = reader.unused := by
  obtain ⟨wanted, buffer, bytes, rest, waits, prepared, some, brought⟩ := fills
  exact unused_receive (ReadBuffer.prepare_ok prepared).1 (Stream.contents_of_read brought)

theorem Fills.memory (fills : Fills attempt reader next) :
    next.buffer.memory = reader.buffer.memory := by
  obtain ⟨wanted, buffer, bytes, rest, waits, prepared, some, brought⟩ := fills
  have memory := ReadBuffer.memory_of_prepare prepared
  exact memory

theorem Fills.isGranted (fills : Fills attempt reader next) (granted : reader.buffer.IsGranted) :
    next.buffer.IsGranted := by
  obtain ⟨wanted, buffer, bytes, rest, waits, prepared, some, brought⟩ := fills
  exact (granted.prepare prepared).receive (Stream.length_le_of_read brought)

theorem Fills.isPlain (fills : Fills attempt reader next) (plain : reader.stream.IsPlain) :
    next.stream.IsPlain := by
  obtain ⟨wanted, buffer, bytes, rest, waits, prepared, some, brought⟩ := fills
  exact (plain.read brought).1

/-- What one read preserves, all reads preserve. -/
theorem invariant_of_fills (property : Reader → Prop)
    (step : ∀ {first second : Reader}, Fills attempt first second → property first →
      property second)
    (fills : Relation.ReflTransGen (Fills attempt) reader last) (holds : property reader) :
    property last := by
  induction fills with
  | refl =>
      exact holds
  | tail _ fill inductionHypothesis =>
      exact step fill inductionHypothesis

theorem unused_of_fills (fills : Relation.ReflTransGen (Fills attempt) reader last) :
    last.unused = reader.unused :=
  invariant_of_fills (fun between => between.unused = reader.unused)
    (fun fill same => fill.unused.trans same) fills rfl

theorem memory_of_fills (fills : Relation.ReflTransGen (Fills attempt) reader last) :
    last.buffer.memory = reader.buffer.memory :=
  invariant_of_fills (fun between => between.buffer.memory = reader.buffer.memory)
    (fun fill same => fill.memory.trans same) fills rfl

theorem isGranted_of_fills (fills : Relation.ReflTransGen (Fills attempt) reader last)
    (granted : reader.buffer.IsGranted) :
    last.buffer.IsGranted :=
  invariant_of_fills (fun between => between.buffer.IsGranted)
    (fun fill held => fill.isGranted held) fills granted

/-! ## What an end leaves -/

/-- A buffer stays granted when the attempt leaves no more octets than it looked at. -/
theorem isGranted_await {bound : Nat} (atEnd : Bytes → DecodeError)
    (settled : Attempt.SettledBelow bound attempt)
    (granted : reader.buffer.IsGranted) :
    (reader.await attempt atEnd).2.buffer.IsGranted := by
  obtain ⟨last, fills, ends⟩ := exists_ends_await attempt atEnd reader
  have grantedLast := isGranted_of_fills fills granted
  generalize reader.await attempt atEnd = outcome at ends ⊢
  cases ends with
  | found item rest verdict =>
      obtain ⟨used, cut, -⟩ := settled.found verdict
      apply grantedLast.keep
      rw [cut, List.length_append]
      exact Nat.le_add_left _ _
  | failed | unprepared =>
      exact grantedLast
  | broken wanted buffer kind rest waits prepared brought =>
      exact grantedLast.prepare prepared
  | ended wanted buffer rest waits prepared brought =>
      exact grantedLast.prepare prepared

variable {limits : Limits}

theorem isGranted_readHead (limits : Limits) (granted : reader.buffer.IsGranted) :
    (reader.readHead limits).2.buffer.IsGranted :=
  isGranted_await headEnd (settledBelow_scanHead limits) granted

theorem isGranted_readRequest (limits : Limits) (granted : reader.buffer.IsGranted) :
    (reader.readRequest limits).2.buffer.IsGranted :=
  holds_readRequest (fun after => after.buffer.IsGranted) (isGranted_readHead limits granted)
    fun _ framing granted =>
      isGranted_await (fun _ => .truncated) (framing.settledBelow_scanBody limits) granted

/-! ## Awaiting what octets decide -/

variable {used rest : Bytes} {verdict : Bytes → Attempt α}

/-- Awaiting comes to where all the octets that decide have been read, unless memory is refused. -/
theorem exists_ends_of_decidesBelow (atEnd : Bytes → DecodeError)
    (decides : Attempt.DecidesBelow addressSpace attempt used verdict)
    (plain : reader.stream.IsPlain) (granted : reader.buffer.IsGranted)
    (there : reader.unused = used ++ rest) :
    (∃ last middle, last.buffer.IsGranted ∧ last.buffer.data = used ++ middle ∧
      rest = middle ++ last.stream.contents ∧ attempt last.buffer.data = verdict middle ∧
      Ends attempt atEnd last (reader.await attempt atEnd)) ∨
      ∃ error, (reader.await attempt atEnd).1 = .error (.fault (.reservation error)) := by
  obtain ⟨last, fills, ends⟩ := exists_ends_await attempt atEnd reader
  have grantedLast := isGranted_of_fills fills granted
  have plainLast : last.stream.IsPlain :=
    invariant_of_fills (fun between => between.stream.IsPlain)
      (fun fill plain => fill.isPlain plain) fills plain
  have short : last.buffer.data.length < addressSpace :=
    Nat.lt_of_le_of_lt grantedLast.held grantedLast.lt_addressSpace
  have cut : used ++ rest = last.buffer.data ++ last.stream.contents :=
    there.symm.trans (unused_of_fills fills).symm
  rcases Bytes.front_cases cut with ⟨tail, strict, cutUsed⟩ | ⟨middle, cutData, cutRest⟩
  · -- some of the octets are still to come, so only memory can be missing
    right
    obtain ⟨asked, waits⟩ := decides.front _ tail cutUsed strict short
    generalize reader.await attempt atEnd = outcome at ends ⊢
    cases ends with
    | found item rest verdict =>
        simp [waits] at verdict
    | failed failure verdict =>
        simp [waits] at verdict
    | unprepared wanted error waits refused =>
        exact ⟨error, rfl⟩
    | broken wanted buffer kind rest waits prepared brought =>
        obtain ⟨-, bytes, octets⟩ := plainLast.read brought
        simp at octets
    | ended wanted buffer behind waits prepared brought =>
        obtain ⟨nothing, -⟩ :=
          plainLast.read_nothing (ReadBuffer.prepare_ok prepared).2 brought
        rw [nothing, cutUsed, List.append_assoc] at cut
        have none := (List.append_cancel_left cut)
        exact absurd (List.append_eq_nil_iff.mp none).1 strict
  · left
    have enough : used.length < addressSpace := by
      rw [cutData, List.length_append] at short
      omega
    have decided : attempt last.buffer.data = verdict middle := by
      rw [cutData, decides.whole enough]
    exact ⟨last, middle, grantedLast, cutData, cutRest, decided, ends⟩

/-- An item that octets decide is found, in a buffer with room for them, and what follows them is
left, unless memory is refused. -/
theorem await_of_found {item : α} (atEnd : Bytes → DecodeError)
    (decides : Attempt.DecidesBelow addressSpace attempt used (.found item))
    (plain : reader.stream.IsPlain) (granted : reader.buffer.IsGranted)
    (there : reader.unused = used ++ rest) :
    (∃ after, reader.await attempt atEnd = (.ok item, after) ∧ after.unused = rest ∧
      used.length ≤ after.buffer.capacity) ∨
      ∃ error, (reader.await attempt atEnd).1 = .error (.fault (.reservation error)) := by
  rcases exists_ends_of_decidesBelow atEnd decides plain granted there with
    ⟨last, middle, grantedLast, cutData, cutRest, decided, ends⟩ | refused
  · left
    have held := grantedLast.held
    rw [cutData, List.length_append] at held
    generalize reader.await attempt atEnd = outcome at ends ⊢
    cases ends with
    | found other behind verdict =>
        obtain ⟨rfl, rfl⟩ := Attempt.found.inj (verdict.symm.trans decided)
        exact ⟨_, rfl, cutRest.symm, Nat.le_trans (Nat.le_add_right _ _) held⟩
    | failed failure verdict =>
        cases verdict.symm.trans decided
    | unprepared wanted error waits | broken wanted buffer kind rest waits
    | ended wanted buffer rest waits =>
        cases waits.symm.trans decided
  · exact Or.inr refused

/-- A failure that octets decide comes, whatever follows them, unless memory is refused. -/
theorem await_of_failed {failure : ReadFailure} (atEnd : Bytes → DecodeError)
    (decides : Attempt.DecidesBelow addressSpace attempt used fun _ => .failed failure)
    (plain : reader.stream.IsPlain) (granted : reader.buffer.IsGranted)
    (there : reader.unused = used ++ rest) :
    (∃ after, reader.await attempt atEnd = (.error failure, after)) ∨
      ∃ error, (reader.await attempt atEnd).1 = .error (.fault (.reservation error)) := by
  rcases exists_ends_of_decidesBelow atEnd decides plain granted there with
    ⟨last, middle, -, -, cutRest, decided, ends⟩ | refused
  · left
    generalize reader.await attempt atEnd = outcome at ends ⊢
    cases ends with
    | found other behind verdict =>
        cases verdict.symm.trans decided
    | failed other verdict =>
        obtain rfl := Attempt.failed.inj (verdict.symm.trans decided)
        exact ⟨_, rfl⟩
    | unprepared wanted error waits | broken wanted buffer kind rest waits
    | ended wanted buffer rest waits =>
        cases waits.symm.trans decided
  · exact Or.inr refused

end Reader

end HttpServer
