import HttpServer.Proofs.BrokenWrites
import HttpServer.Proofs.RequestLoops
import HttpServer.Proofs.ShortestRequest
import HttpServer.Proofs.VastLengths

/-!
# Reading comes to an end

Each reading of a request ends after no more reads than there are octets to come and one, and each
request that is read leaves fourteen octets less. So a connection asks for no more requests than
there are times fourteen octets, and one. Then it closes, unless a reading ends in a fault: that
takes octets, or an announced length, which come near to filling half of the memory.
-/

namespace HttpServer

/-! ## Faults of a reading -/

namespace Reader

variable {α : Type} {attempt : Bytes → Attempt α} {atEnd : Bytes → DecodeError}
  {limits : Limits} {reader : Reader} {fault : Fault}

/-- A fault comes from the octets that are held, or from what the attempt demands on a front of the
octets. -/
theorem demands_of_await_fault (faulted : (reader.await attempt atEnd).1 = .error (.fault fault)) :
    reader.buffer.memory.size ≤ 2 * reader.unused.length + ReadBuffer.readRoom ∨
      ∃ front more least, reader.unused = front ++ more ∧
        reader.buffer.memory.size ≤ 2 * least + ReadBuffer.leastGrowth ∧ (attempt front).Demands least := by
  obtain ⟨last, fills, ends⟩ := exists_ends_await attempt atEnd reader
  have same : last.buffer.data ++ last.stream.contents = reader.unused := unused_of_fills fills
  have sameMemory := memory_of_fills fills
  generalize reader.await attempt atEnd = outcome at ends faulted
  cases ends with
  | found | broken | ended =>
      cases faulted
  | failed failure verdict =>
      obtain rfl := Except.error.inj faulted
      refine .inr ⟨_, _, wordSize, same.symm, ?_, ?_⟩
      · have small := reader.buffer.memory.addressable
        have room : addressSpace ≤ 2 * wordSize + ReadBuffer.leastGrowth := by decide
        omega
      · rw [verdict]
        exact .failed fault (Nat.le_refl _)
  | unprepared wanted error waits refused =>
      by_cases memoryWanted : 2 * wanted + ReadBuffer.leastGrowth < reader.buffer.memory.size
      · left
        by_contra roomy
        have held := congrArg List.length same
        rw [List.length_append] at held
        obtain ⟨prepared, done⟩ := last.buffer.prepare_of_memory wanted (by rwa [sameMemory])
          (by rw [sameMemory]; omega)
        rw [refused] at done
        cases done
      · refine .inr ⟨_, _, wanted, same.symm, Nat.not_lt.mp memoryWanted, ?_⟩
        rw [waits]
        exact .waits wanted (Nat.le_refl _)

/-- The octets come near to filling half of the memory, or what is announced behind a head does. -/
def Overcharges (limits : Limits) (reader : Reader) : Prop :=
  reader.buffer.memory.size ≤ 2 * reader.unused.length + ReadBuffer.readRoom ∨
    ∃ head middle framing front more needed, reader.readHead limits = (.ok head, middle) ∧
      Framing.ofFields head.fields = .ok framing ∧ middle.unused = front ++ more ∧
      framing.Announces limits front needed ∧
        reader.buffer.memory.size ≤ 2 * needed + ReadBuffer.leastGrowth

theorem Overcharges.memory_le (overcharges : reader.Overcharges limits) :
    reader.buffer.memory.size ≤
      2 * (reader.unused.length + limits.body + 2) + ReadBuffer.readRoom := by
  rcases overcharges with held | ⟨head, middle, framing, front, more, needed, headReading, -, cut,
    announces, large⟩
  · omega
  · have few := announces.le
    have fewer := unused_le_of_readHead headReading
    rw [cut, List.length_append] at fewer
    unfold ReadBuffer.leastGrowth at large
    unfold ReadBuffer.readRoom
    omega

theorem positive_of_demanded {memory : Memory} {least : Nat}
    (large : memory.size ≤ 2 * least + ReadBuffer.leastGrowth) : 0 < least := by
  have some : ReadBuffer.leastGrowth < pageSize := by decide
  have page := memory.page
  omega

theorem overcharges_of_fault (faulted : (reader.readRequest limits).1 = .error (.fault fault)) :
    reader.Overcharges limits := by
  rcases readRequest_fault_cases faulted with
    headFaulted | ⟨head, middle, framing, headReading, framed, bodyReading⟩
  · rcases demands_of_await_fault headFaulted with held | ⟨front, more, least, -, large, demands⟩
    · exact .inl held
    · exact absurd demands (not_demands_scanHead (positive_of_demanded large) front)
  · have sameMemory : middle.buffer.memory = reader.buffer.memory := by
      have kept := memory_await (scanHead limits) headEnd reader
      rw [← readHead, headReading] at kept
      exact kept
    rcases demands_of_await_fault (congrArg Prod.fst bodyReading) with
      held | ⟨front, more, least, cut, large, demands⟩
    · left
      have fewer := unused_le_of_readHead headReading
      rw [sameMemory] at held
      omega
    · rw [sameMemory] at large
      obtain ⟨needed, announces, most⟩ :=
        Framing.announces_of_scanBody_demands (positive_of_demanded large) demands
      exact .inr ⟨head, middle, framing, front, more, needed, headReading, framed, cut, announces,
        by omega⟩

/-! ## One reading -/

/-- What is true of a reading, whatever it ends with. The record is that of its loops, in which
every turn moves the cursor or is a read with some room, and a read that brings nothing is the
last. -/
structure Progresses (limits : Limits) (reader : Reader) : Prop where
  same : (reader.requestTurns limits).2 = reader.readRequest limits
  proceeds : Proceeds (reader.requestTurns limits).1 (reader.readRequest limits).1
  reads : reads (reader.requestTurns limits).1 ≤ reader.stream.contents.length + 1
  moves : moves (reader.requestTurns limits).1 ≤ reader.unused.length
  uses : ∀ {request after}, reader.readRequest limits = (.ok request, after) →
    after.unused.length + 14 ≤ reader.unused.length
  faults : ∀ {fault}, (reader.readRequest limits).1 = .error (.fault fault) →
    reader.Overcharges limits

theorem progresses (limits : Limits) (plain : reader.stream.IsPlain) :
    reader.Progresses limits := by
  constructor
  · exact requestTurns_eq limits reader
  · rw [← requestTurns_eq]
    exact proceeds_requestTurns limits reader
  · exact reads_requestTurns plain
  · exact moves_requestTurns limits reader
  · exact length_of_readRequest_ok
  · exact overcharges_of_fault

end Reader

/-! ## The steps of a connection -/

def Phase.isReading : Phase → Bool
  | .reading => true
  | _ => false

/-- Whether a connection is about to read a request or has one to answer. -/
def Phase.isServing : Phase → Bool
  | .reading | .dispatching _ _ | .writing _ _ _ => true
  | .closing | .closed | .collapsed _ => false

namespace Connection

variable {service : Service} {connection start next : Connection} {steps : Nat}

/-- What a step can do whose pipeline gives a result. -/
inductive Moves (service : Service) (connection next : Connection) : Prop
  | read {request : Request} (reading : connection.phase = .reading)
      (gave : connection.reader.readRequest service.limits = (.ok request, next.reader))
      (serving : next.phase.isServing = true)
  | refused {error : DecodeError} (reading : connection.phase = .reading)
      (gave : (connection.reader.readRequest service.limits).1 = .error (.refused error))
      (closing : next.phase = .closing)
  | collapsed {fault : Fault} (reading : connection.phase = .reading)
      (gave : (connection.reader.readRequest service.limits).1 = .error (.fault fault))
      (collapsed : next.phase = .collapsed fault)
  | answered (serving : connection.phase.isServing = true)
      (answering : connection.phase.isReading = false)
      (same : next.reader = connection.reader)
      (goesOn : next.phase.isServing = true ∨ next.phase = .closing)
  | closed (closing : connection.phase = .closing) (closed : next.phase = .closed)
  | rests (ended : connection.phase.isOver = true) (same : next = connection)

theorem moves_read (reading : connection.phase = .reading) :
    Moves service connection (connection.read service) := by
  unfold read
  rcases gave : connection.reader.readRequest service.limits with
    ⟨(error | fault) | request, after⟩
  · exact .refused reading (congrArg Prod.fst gave) (refuse_keeps _ _ _).1
  · exact .collapsed reading (congrArg Prod.fst gave) rfl
  · exact .read reading gave rfl

/-- However a write goes, the connection reads on or closes, and nothing is read. -/
theorem reads_or_closes_of_write (service : Service) (connection : Connection) (context : Context)
    (response : Response) (keepAlive : Bool) :
    let after := connection.write service context response keepAlive
    after.reader = connection.reader ∧ (after.phase = .reading ∨ after.phase = .closing) := by
  simp only [write]
  generalize (response.withKeepAlive keepAlive).write _ connection.outlet = written
  cases outcome : written.1 with
  | error failure =>
      exact ⟨rfl, .inr rfl⟩
  | ok =>
      obtain ⟨phase, reader, -⟩ := afterWrite_ok service _ _ _ keepAlive
      refine ⟨reader, ?_⟩
      rw [phase]
      cases keepAlive with
      | true =>
          exact .inl rfl
      | false =>
          exact .inr rfl

theorem moves_step (returns : service.pipeline.Returns) (connection : Connection) :
    Moves service connection (connection.step service) := by
  unfold step
  cases phase : connection.phase with
  | reading =>
      exact moves_read phase
  | dispatching context keepAlive =>
      obtain ⟨answer, after, executed⟩ := returns context
      refine .answered (by rw [phase]; rfl) (by rw [phase]; rfl)
        (dispatch_keeps service connection context keepAlive).1 (.inl ?_)
      simp only [dispatch, executed]
      rfl
  | writing context response keepAlive =>
      obtain ⟨reader, goesOn⟩ := reads_or_closes_of_write service connection context response keepAlive
      refine .answered (by rw [phase]; rfl) (by rw [phase]; rfl) reader ?_
      exact goesOn.imp_left fun reading => congrArg Phase.isServing reading
  | closing =>
      exact .closed phase rfl
  | closed | collapsed =>
      exact .rests (by rw [phase]; rfl) rfl

/-! ## How many requests are asked for -/

/-- How many of the first steps ask for a request. -/
def calls (service : Service) (steps : Nat) (start : Connection) : Nat :=
  (List.range steps).countP fun taken => (runUpTo service taken start).phase.isReading

theorem calls_succ (service : Service) (steps : Nat) (start : Connection) :
    calls service (steps + 1) start =
      calls service steps start + (runUpTo service steps start).phase.isReading.toNat := by
  rw [calls, List.range_succ, List.countP_append, List.countP_singleton]
  cases (runUpTo service steps start).phase.isReading <;> rfl

/-- How many requests may still be asked for: one for each fourteen octets, and one. -/
def callsLeft (connection : Connection) : Nat :=
  if connection.phase.isServing then connection.reader.unused.length / 14 + 1 else 0

theorem callsLeft_of_serving (serving : connection.phase.isServing = true) :
    connection.callsLeft = connection.reader.unused.length / 14 + 1 :=
  if_pos serving

theorem callsLeft_of_not_serving (ends : connection.phase.isServing = false) :
    connection.callsLeft = 0 :=
  if_neg (by rw [ends]; exact Bool.false_ne_true)

theorem Moves.callsLeft_le (moves : Moves service connection next) :
    next.callsLeft + connection.phase.isReading.toNat ≤ connection.callsLeft := by
  cases moves with
  | read reading gave serving =>
      have enough := Reader.length_of_readRequest_ok gave
      rw [callsLeft_of_serving serving, callsLeft_of_serving (by rw [reading]; rfl), reading]
      change _ + 1 ≤ _
      omega
  | refused reading gave phase | collapsed reading gave phase =>
      have ends : next.phase.isServing = false := by rw [phase]; rfl
      have serves : connection.phase.isServing = true := by rw [reading]; rfl
      rw [callsLeft_of_not_serving ends, callsLeft_of_serving serves, reading]
      exact Nat.succ_le_succ (Nat.zero_le _)
  | answered serving answering same goesOn =>
      rw [answering, callsLeft_of_serving serving, ← same, callsLeft]
      split
      · exact Nat.le_refl _
      · exact Nat.zero_le _
  | closed closing phase =>
      have ends : next.phase.isServing = false := by rw [phase]; rfl
      rw [callsLeft_of_not_serving ends, closing]
      exact Nat.zero_le _
  | rests ended same =>
      have idle : connection.phase.isReading = false := by
        cases phase : connection.phase with
        | reading =>
            rw [phase] at ended
            cases ended
        | dispatching | writing | closing | closed | collapsed =>
            rfl
      rw [same, idle]
      exact Nat.le_refl _

theorem calls_le (returns : service.pipeline.Returns) (start : Connection) (steps : Nat) :
    calls service steps start + (runUpTo service steps start).callsLeft ≤ start.callsLeft := by
  induction steps with
  | zero =>
      exact Nat.le_of_eq (Nat.zero_add _)
  | succ steps inductionHypothesis =>
      have left := (moves_step returns (runUpTo service steps start)).callsLeft_le
      rw [calls_succ, runUpTo_succ]
      omega

/-! ## How a connection ends -/

/-- Some step asks for a request and meets a fault, over no more octets than there were and in the
same memory. -/
def Faults (service : Service) (start : Connection) : Prop :=
  ∃ steps fault, (runUpTo service steps start).phase = .reading ∧
    ((runUpTo service steps start).reader.readRequest service.limits).1 = .error (.fault fault) ∧
    (runUpTo service steps start).reader.Overcharges service.limits ∧
    (runUpTo service steps start).reader.unused.length ≤ start.reader.unused.length ∧
    (runUpTo service steps start).reader.buffer.memory = start.reader.buffer.memory

/-- Where a connection stands after some steps, and how it has come there. -/
inductive Stands (service : Service) (start current : Connection) : Prop
  | serving (serving : current.phase.isServing = true)
      (fewer : current.reader.unused.length ≤ start.reader.unused.length)
      (memory : current.reader.buffer.memory = start.reader.buffer.memory)
  | closing (closing : current.phase = .closing)
  | closed (closed : current.phase = .closed) {steps : Nat}
      (was : (runUpTo service steps start).phase = .closing)
  | collapsed {fault : Fault} (collapsed : current.phase = .collapsed fault)
      (faults : Faults service start)

theorem Stands.of_serving (stands : Stands service start connection)
    (serves : connection.phase.isServing = true) :
    connection.reader.unused.length ≤ start.reader.unused.length ∧
      connection.reader.buffer.memory = start.reader.buffer.memory := by
  cases stands with
  | serving serving fewer memory =>
      exact ⟨fewer, memory⟩
  | closing phase | closed phase | collapsed phase =>
      rw [phase] at serves
      cases serves

theorem stands_runUpTo (returns : service.pipeline.Returns) (begins : start.phase = .reading)
    (steps : Nat) : Stands service start (runUpTo service steps start) := by
  induction steps with
  | zero =>
      exact .serving (by rw [runUpTo, begins]; rfl) (Nat.le_refl _) rfl
  | succ steps inductionHypothesis =>
      have moves := moves_step returns (runUpTo service steps start)
      rw [← runUpTo_succ] at moves
      cases moves with
      | read reading gave serving =>
          obtain ⟨fewer, memory⟩ := inductionHypothesis.of_serving (by rw [reading]; rfl)
          have used := Reader.length_of_readRequest_ok gave
          have kept := Reader.memory_readRequest service.limits (runUpTo service steps start).reader
          rw [gave] at kept
          exact .serving serving (by omega) (kept.trans memory)
      | refused reading gave closing =>
          exact .closing closing
      | collapsed reading gave collapsed =>
          exact .collapsed collapsed ⟨steps, _, reading, gave, Reader.overcharges_of_fault gave,
            inductionHypothesis.of_serving (by rw [reading]; rfl)⟩
      | answered serving answering same goesOn =>
          rcases goesOn with serves | closing
          · obtain ⟨fewer, memory⟩ := inductionHypothesis.of_serving serving
            exact .serving serves (same ▸ fewer) (same ▸ memory)
          · exact .closing closing
      | closed closing closed =>
          exact .closed closed closing
      | rests ended same =>
          rw [same]
          exact inductionHypothesis

/-- A connection comes to closing, unless it meets a fault. -/
theorem closing_or_faults (returns : service.pipeline.Returns) (begins : start.phase = .reading) :
    (∃ steps, (runUpTo service steps start).phase = .closing) ∨ Faults service start := by
  have ended := isOver_runUpTo service (Nat.le_refl start.stepsLeft)
  cases stands_runUpTo returns begins start.stepsLeft with
  | serving serving =>
      cases phase : (runUpTo service start.stepsLeft start).phase with
      | reading | dispatching | writing =>
          rw [phase] at ended
          cases ended
      | closing | closed | collapsed =>
          rw [phase] at serving
          cases serving
  | closing closing =>
      exact .inl ⟨_, closing⟩
  | closed closed was =>
      exact .inl ⟨_, was⟩
  | collapsed collapsed faults =>
      exact .inr faults

theorem phase_run_of_fault {fault : Fault}
    (reading : (runUpTo service steps start).phase = .reading)
    (gave : ((runUpTo service steps start).reader.readRequest service.limits).1 =
      .error (.fault fault)) :
    (start.run service).phase = .collapsed fault := by
  have collapsed : (runUpTo service (steps + 1) start).phase = .collapsed fault := by
    rw [runUpTo_succ, step, reading]
    simp only [read, gave]
  rw [← runUpTo_eq_run (by rw [collapsed]; rfl), collapsed]

theorem phase_run_of_closing (closing : (runUpTo service steps start).phase = .closing) :
    (start.run service).phase = .closed := by
  have closed : (runUpTo service (steps + 1) start).phase = .closed := by
    rw [runUpTo_succ, step, closing]
    rfl
  rw [← runUpTo_eq_run (by rw [closed]; rfl), closed]

/-- A connection comes to closing just where it meets no fault. -/
theorem closes_iff (returns : service.pipeline.Returns) (begins : start.phase = .reading) :
    (∃ steps, (runUpTo service steps start).phase = .closing) ↔ ¬ Faults service start := by
  constructor
  · rintro ⟨steps, closing⟩ ⟨earlier, fault, reading, gave, -⟩
    have closed := phase_run_of_closing closing
    rw [phase_run_of_fault reading gave] at closed
    cases closed
  · exact (closing_or_faults returns begins).resolve_right

theorem Faults.memory_le (faults : Faults service start) :
    start.reader.buffer.memory.size ≤
      2 * (start.reader.unused.length + service.limits.body + 2) + ReadBuffer.readRoom := by
  obtain ⟨steps, fault, -, -, overcharges, fewer, sameMemory⟩ := faults
  have memory := overcharges.memory_le
  rw [sameMemory] at memory
  omega

/-- Whatever a peer sends, each reading makes progress and ends, and a connection asks for no more
requests than there are times fourteen octets, and one. It comes to closing just where no reading
meets a fault, and none does if twice what is sent and twice the bound on bodies fit into memory. -/
theorem comes_to_closing {service : Service} (returns : service.pipeline.Returns)
    {start : Connection} (begins : start.phase = .reading) :
    (∀ reader : Reader, reader.stream.IsPlain → reader.Progresses service.limits) ∧
      (∀ steps, calls service steps start ≤ start.reader.unused.length / 14 + 1) ∧
      ((∃ steps, (runUpTo service steps start).phase = .closing) ↔ ¬ Faults service start) ∧
      (2 * (start.reader.unused.length + service.limits.body + 2) + ReadBuffer.readRoom <
          start.reader.buffer.memory.size →
        ∃ steps, (runUpTo service steps start).phase = .closing) := by
  have closes := closes_iff returns begins
  refine ⟨fun reader plain => Reader.progresses service.limits plain, ?_, closes, ?_⟩
  · intro steps
    have serves : start.phase.isServing = true := by rw [begins]; rfl
    have asked := calls_le returns start steps
    rw [callsLeft_of_serving serves] at asked
    omega
  · intro memory
    exact closes.mpr fun faults => Nat.not_le.mpr memory faults.memory_le

/-- Two requests in two reads, the second of which is as short as can be, and a buffer without
room. -/
theorem comes_to_closing_of_two_requests :
    let service : Service := { pipeline := { execute := fun context => .ok (none, context) } }
    let reader := Reader.ofReads 0
      [Bytes.ascii "GET / HTTP/1.1\r\nConnection: keep-alive\r\n\r\nA / HT",
        Bytes.ascii "TP/1.1\n\n"]
    let address : SocketAddress := .short ⟨127, 0, 0, 1⟩ 8080
    let start : Connection :=
      { info := { id := ⟨1⟩, peer := address, listener := address }, reader }
    reader.Progresses service.limits ∧ (∀ steps, calls service steps start ≤ 5) ∧
      ∃ steps, (runUpTo service steps start).phase = .closing := by
  intro service reader address start
  have returns : service.pipeline.Returns := fun context => ⟨_, _, rfl⟩
  have plain : reader.stream.IsPlain :=
    (Reader.delivers_ofReads (by decide +kernel)).plain
  have begins : start.phase = .reading := rfl
  obtain ⟨progresses, asked, -, closes⟩ := comes_to_closing returns begins
  have length : start.reader.unused.length / 14 + 1 = 5 := by decide +kernel
  rw [length] at asked
  exact ⟨progresses reader plain, asked, closes (by decide +kernel)⟩

/-- A length that no memory holds, under a bound on bodies that allows it: the first reading ends
in a fault, and the connection never comes to closing. -/
theorem never_closes_of_vast_length :
    let service : Service :=
      { pipeline := { execute := fun context => .ok (none, context) }
        limits := { body := 9223372036854775808 } }
    let reader := Reader.ofReads 8192
      [Bytes.ascii "POST / HTTP/1.1\r\nContent-Length: 9223372036854775808\r\n\r\n"]
    let address : SocketAddress := .short ⟨127, 0, 0, 1⟩ 8080
    let start : Connection :=
      { info := { id := ⟨1⟩, peer := address, listener := address }, reader }
    service.pipeline.Returns ∧ reader.stream.IsPlain ∧ start.phase = .reading ∧
      (reader.readRequest service.limits).1 = .error (.fault (.reservation .capacityOverflow)) ∧
      ∀ steps, (runUpTo service steps start).phase ≠ .closing := by
  intro service reader address start
  have returns : service.pipeline.Returns := fun context => ⟨_, _, rfl⟩
  have plain : reader.stream.IsPlain := (Reader.delivers_ofReads (by decide +kernel)).plain
  have begins : start.phase = .reading := rfl
  have gave : (reader.readRequest service.limits).1 =
      .error (.fault (.reservation .capacityOverflow)) := by
    decide +kernel
  refine ⟨returns, plain, begins, gave, ?_⟩
  intro steps closing
  have faults : Faults service start :=
    ⟨0, _, begins, gave, Reader.overcharges_of_fault gave, Nat.le_refl _, rfl⟩
  exact (closes_iff returns begins).mp ⟨steps, closing⟩ faults

end Connection

end HttpServer
