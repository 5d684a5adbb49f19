import HttpServer.Proofs.Filling

/-!
# Loops over buffered octets

A part of a request is read by a loop: each turn looks at the buffered octets from a cursor on, and
moves the cursor, asks for another read, or leaves. A turn that has moved the cursor would do so
with more octets as well. So the cursor need not start again after a read, and a loop gives what
awaiting its glance gives, which starts from the same place every time.

A loop keeps a record of its turns. Every read is offered room for an octet at least and brings one,
or is the last and ends the call with a failure; every other turn in the record has moved the
cursor. That bounds both by the octets that are there.
-/

namespace HttpServer

/-! ## Turns -/

/-- What a turn of a loop comes to. -/
inductive Turn (Place α : Type) where
  /-- The loop goes on from a place further ahead in the buffer. -/
  | advance (next : Place)
  /-- The loop goes on from the same place after a read, which is to bring the buffer to `wanted`
  octets. -/
  | read (wanted : Nat)
  /-- The loop is left with an item and the octets after it. -/
  | leave (item : α) (rest : Bytes)
  /-- The loop is left without an item. -/
  | fail (failure : ReadFailure)

/-- A loop, with the cursor of each of its places. -/
structure Loop (Place α : Type) where
  turn : Place → Bytes → Turn Place α
  cursor : Place → Nat
  /-- The cursor moves ahead, and not beyond what is buffered. -/
  ahead : ∀ {place next : Place} {data : Bytes}, turn place data = .advance next →
    cursor place < cursor next ∧ cursor next ≤ data.length
  /-- What is buffered later does not matter. -/
  again : ∀ {place next : Place} {data : Bytes}, turn place data = .advance next →
    ∀ more, turn place (data ++ more) = .advance next

/-- A turn that is on record. -/
inductive Iteration where
  /-- The cursor has moved. -/
  | advanced (front back : Nat)
  /-- A read has been made with some room. -/
  | read (room : Nat) (brought : Delivery)
deriving DecidableEq

def Iteration.isRead : Iteration → Bool
  | .read _ _ => true
  | .advanced _ _ => false

namespace Loop

variable {Place α : Type} {loop : Loop Place α} {place next : Place} {data : Bytes}
  {atEnd : Bytes → DecodeError} {reader : Reader}

/-! ## Running a loop -/

/-- What the loop finds from a place on in what is buffered. -/
def glance (loop : Loop Place α) (place : Place) (data : Bytes) : Attempt α :=
  match _turned : loop.turn place data with
  | .advance next => loop.glance next data
  | .read wanted => .wait wanted
  | .leave item rest => .found item rest
  | .fail failure => .failed failure
termination_by data.length - loop.cursor place
decreasing_by
  have moved := loop.ahead _turned
  omega

/-- Runs the loop from a place on, with a record of its turns. -/
def run (loop : Loop Place α) (atEnd : Bytes → DecodeError) (place : Place) (reader : Reader) :
    List Iteration × Except ReadFailure α × Reader :=
  match _turned : loop.turn place reader.buffer.data with
  | .leave item rest => ([], .ok item, { reader with buffer := reader.buffer.keep rest })
  | .fail failure => ([], .error failure, reader)
  | .advance next =>
    let later := loop.run atEnd next reader
    (.advanced (loop.cursor place) (loop.cursor next) :: later.1, later.2)
  | .read wanted =>
    match reader.buffer.prepare wanted with
    | .error error => ([], .error (.fault (.reservation error)), reader)
    | .ok buffer =>
      match _brought : reader.stream.read buffer.spare with
      | (.failure kind, rest) =>
        ([.read buffer.spare (.failure kind)], .error (.refused (.readFailed kind)),
          { buffer, stream := rest })
      | (.octets [], rest) =>
        ([.read buffer.spare (.octets [])], .error (.refused (atEnd buffer.data)),
          { buffer, stream := rest })
      | (.octets (first :: others), rest) =>
        let later :=
          loop.run atEnd place { buffer := buffer.receive (first :: others), stream := rest }
        (.read buffer.spare (.octets (first :: others)) :: later.1, later.2)
termination_by (reader.stream.size, reader.buffer.data.length - loop.cursor place)
decreasing_by
  · have moved := loop.ahead _turned
    exact Prod.Lex.right _ (by omega)
  · exact Prod.Lex.left _ _ (Stream.size_read_lt _brought)

/-! ## Running is awaiting -/

theorem glance_of_advance (turned : loop.turn place data = .advance next) :
    loop.glance place data = loop.glance next data := by
  rw [glance]
  split
  case h_1 other same =>
    rw [turned] at same
    cases same
    rfl
  all_goals simp_all

theorem glance_of_read {wanted : Nat} (turned : loop.turn place data = .read wanted) :
    loop.glance place data = .wait wanted := by
  rw [glance]
  split <;> simp_all

theorem glance_of_leave {item : α} {rest : Bytes}
    (turned : loop.turn place data = .leave item rest) :
    loop.glance place data = .found item rest := by
  rw [glance]
  split <;> simp_all

theorem glance_of_fail {failure : ReadFailure} (turned : loop.turn place data = .fail failure) :
    loop.glance place data = .failed failure := by
  rw [glance]
  split <;> simp_all

end Loop

namespace Reader

variable {α : Type} {attempt other : Bytes → Attempt α} {reader : Reader}

theorem await_of_failure {atEnd : Bytes → DecodeError} {wanted : Nat} {buffer : ReadBuffer}
    {kind : IoFailure} {rest : Stream} (waits : attempt reader.buffer.data = .wait wanted)
    (prepared : reader.buffer.prepare wanted = .ok buffer)
    (brought : reader.stream.read buffer.spare = (.failure kind, rest)) :
    reader.await attempt atEnd =
      (.error (.refused (.readFailed kind)), { buffer, stream := rest }) := by
  rw [await.eq_def]
  simp only [waits, prepared]
  split <;> simp_all

theorem await_of_nothing {atEnd : Bytes → DecodeError} {wanted : Nat} {buffer : ReadBuffer}
    {rest : Stream} (waits : attempt reader.buffer.data = .wait wanted)
    (prepared : reader.buffer.prepare wanted = .ok buffer)
    (brought : reader.stream.read buffer.spare = (.octets [], rest)) :
    reader.await attempt atEnd =
      (.error (.refused (atEnd buffer.data)), { buffer, stream := rest }) := by
  rw [await.eq_def]
  simp only [waits, prepared]
  split <;> simp_all

theorem await_congr (atEnd : Bytes → DecodeError)
    (same : ∀ more, attempt (reader.buffer.data ++ more) = other (reader.buffer.data ++ more)) :
    reader.await attempt atEnd = reader.await other atEnd := by
  have here := same []
  rw [List.append_nil] at here
  fun_induction Reader.await attempt atEnd reader with
  | case1 reader item rest verdict =>
      rw [verdict] at here
      rw [await.eq_def]
      simp only [← here]
  | case2 reader failure verdict =>
      rw [verdict] at here
      rw [await.eq_def]
      simp only [← here]
  | case3 reader wanted verdict error refused =>
      rw [verdict] at here
      rw [await.eq_def]
      simp only [← here, refused]
  | case4 reader wanted verdict buffer prepared kind rest brought =>
      rw [verdict] at here
      rw [await_of_failure here.symm prepared brought]
  | case5 reader wanted verdict buffer prepared rest brought =>
      rw [verdict] at here
      rw [await_of_nothing here.symm prepared brought]
  | case6 reader wanted verdict buffer prepared first others rest brought inductionHypothesis =>
      rw [verdict] at here
      rw [await_of_read here.symm prepared (List.cons_ne_nil _ _) brought]
      have later : ∀ more, attempt ((buffer.receive (first :: others)).data ++ more) =
          other ((buffer.receive (first :: others)).data ++ more) := by
        intro more
        rw [ReadBuffer.receive, (ReadBuffer.prepare_ok prepared).1, List.append_assoc]
        exact same _
      have now := later []
      rw [List.append_nil] at now
      exact inductionHypothesis later now

end Reader

namespace Loop

variable {Place α : Type} {loop : Loop Place α} {place next : Place} {data : Bytes}
  {atEnd : Bytes → DecodeError} {reader : Reader}

theorem run_eq_await (loop : Loop Place α) (atEnd : Bytes → DecodeError) (place : Place)
    (reader : Reader) :
    (loop.run atEnd place reader).2 = reader.await (loop.glance place) atEnd := by
  fun_induction Loop.run loop atEnd place reader with
  | case1 place reader item rest turned =>
      rw [Reader.await.eq_def]
      simp only [glance_of_leave turned]
  | case2 place reader failure turned =>
      rw [Reader.await.eq_def]
      simp only [glance_of_fail turned]
  | case3 place reader next turned later inductionHypothesis =>
      rw [inductionHypothesis]
      apply Reader.await_congr
      intro more
      exact (glance_of_advance (loop.again turned more)).symm
  | case4 place reader wanted turned error refused =>
      rw [Reader.await.eq_def]
      simp only [glance_of_read turned, refused]
  | case5 place reader wanted turned buffer prepared kind rest brought =>
      rw [Reader.await_of_failure (glance_of_read turned) prepared brought]
  | case6 place reader wanted turned buffer prepared rest brought =>
      rw [Reader.await_of_nothing (glance_of_read turned) prepared brought]
  | case7 place reader wanted turned buffer prepared first others rest brought later
      inductionHypothesis =>
      rw [Reader.await_of_read (glance_of_read turned) prepared (List.cons_ne_nil _ _) brought]
      exact inductionHypothesis

end Loop

/-! ## What is on record -/

/-- How the turns on record lead to an outcome. Each read is offered room for an octet at least.
Either it brings one, or it is the last turn and the outcome is a failure. -/
inductive Proceeds {α : Type} : List Iteration → Except ReadFailure α → Prop
  | left {outcome : Except ReadFailure α} : Proceeds [] outcome
  | advanced {front back : Nat} {record : List Iteration} {outcome : Except ReadFailure α}
      (further : front < back) (later : Proceeds record outcome) :
      Proceeds (.advanced front back :: record) outcome
  | brought {room : Nat} {bytes : Bytes} {record : List Iteration}
      {outcome : Except ReadFailure α} (some : 0 < bytes.length) (fits : bytes.length ≤ room)
      (later : Proceeds record outcome) :
      Proceeds (.read room (.octets bytes) :: record) outcome
  | nothing {room : Nat} {failure : ReadFailure} (hasRoom : 0 < room) :
      Proceeds [.read room (.octets [])] (.error failure)
  | broken {room : Nat} {kind : IoFailure} {failure : ReadFailure} (hasRoom : 0 < room) :
      Proceeds [.read room (.failure kind)] (.error failure)

theorem Proceeds.append {α β : Type} {item : α} {record later : List Iteration}
    {outcome : Except ReadFailure β} (first : Proceeds record (.ok item : Except ReadFailure α))
    (second : Proceeds later outcome) : Proceeds (record ++ later) outcome := by
  generalize reached : (.ok item : Except ReadFailure α) = found at first
  induction first with
  | left =>
      exact second
  | advanced further _ inductionHypothesis =>
      exact .advanced further (inductionHypothesis reached)
  | brought some fits _ inductionHypothesis =>
      exact .brought some fits (inductionHypothesis reached)
  | nothing | broken =>
      cases reached

theorem Proceeds.map {α β : Type} {record : List Iteration} {outcome : Except ReadFailure α}
    (proceeds : Proceeds record outcome) (change : α → β) :
    Proceeds record (outcome.map change) := by
  induction proceeds with
  | left =>
      exact .left
  | advanced further _ inductionHypothesis =>
      exact .advanced further inductionHypothesis
  | brought some fits _ inductionHypothesis =>
      exact .brought some fits inductionHypothesis
  | nothing hasRoom =>
      exact .nothing hasRoom
  | broken hasRoom =>
      exact .broken hasRoom

/-- The one read that may find nothing, where a reading fails. -/
def lastRead {α : Type} : Except ReadFailure α → Nat
  | .ok _ => 0
  | .error _ => 1

def reads (record : List Iteration) : Nat := record.countP Iteration.isRead

def moves (record : List Iteration) : Nat := record.countP fun turn => !turn.isRead

theorem reads_read (room : Nat) (brought : Delivery) (record : List Iteration) :
    reads (.read room brought :: record) = reads record + 1 :=
  List.countP_cons_of_pos rfl

theorem moves_read (room : Nat) (brought : Delivery) (record : List Iteration) :
    moves (.read room brought :: record) = moves record :=
  List.countP_cons_of_neg Bool.false_ne_true

theorem moves_advanced (front back : Nat) (record : List Iteration) :
    moves (.advanced front back :: record) = moves record + 1 :=
  List.countP_cons_of_pos rfl

namespace Loop

variable {Place α : Type} {loop : Loop Place α} {place next : Place} {data : Bytes}
  {atEnd : Bytes → DecodeError} {reader : Reader}

theorem proceeds_run (loop : Loop Place α) (atEnd : Bytes → DecodeError) (place : Place)
    (reader : Reader) :
    Proceeds (loop.run atEnd place reader).1 (loop.run atEnd place reader).2.1 := by
  fun_induction Loop.run loop atEnd place reader with
  | case1 | case2 | case4 =>
      exact .left
  | case3 place reader next turned later inductionHypothesis =>
      exact .advanced (loop.ahead turned).1 inductionHypothesis
  | case5 place reader wanted turned buffer prepared kind rest brought =>
      exact .broken (ReadBuffer.prepare_ok prepared).2
  | case6 place reader wanted turned buffer prepared rest brought =>
      exact .nothing (ReadBuffer.prepare_ok prepared).2
  | case7 place reader wanted turned buffer prepared first others rest brought later
      inductionHypothesis =>
      exact .brought (Nat.zero_lt_succ _) (Stream.length_le_of_read brought) inductionHypothesis

/-- The octets bound the reads, but for one that finds nothing. -/
theorem reads_run (loop : Loop Place α) (atEnd : Bytes → DecodeError) (place : Place)
    {reader : Reader} (plain : reader.stream.IsPlain) :
    reads (loop.run atEnd place reader).1 +
        (loop.run atEnd place reader).2.2.stream.contents.length ≤
      reader.stream.contents.length + lastRead (loop.run atEnd place reader).2.1 := by
  fun_induction Loop.run loop atEnd place reader with
  | case1 | case2 | case4 =>
      simp [reads, lastRead]
  | case3 place reader next turned later inductionHypothesis =>
      exact inductionHypothesis plain
  | case5 place reader wanted turned buffer prepared kind rest brought =>
      obtain ⟨-, bytes, octets⟩ := plain.read brought
      cases octets
  | case6 place reader wanted turned buffer prepared rest brought =>
      obtain ⟨-, ended⟩ := plain.read_nothing (ReadBuffer.prepare_ok prepared).2 brought
      simp [ended, reads, lastRead, Iteration.isRead, Stream.contents]
  | case7 place reader wanted turned buffer prepared first others rest brought later
      inductionHypothesis =>
      have fewer := inductionHypothesis (plain.read brought).1
      have moved := congrArg List.length (Stream.contents_of_read brought)
      rw [List.length_append, List.length_cons] at moved
      change reads later.1 + later.2.2.stream.contents.length ≤
        rest.contents.length + lastRead later.2.1 at fewer
      change reads (_ :: later.1) + later.2.2.stream.contents.length ≤
        reader.stream.contents.length + lastRead later.2.1
      rw [reads_read]
      omega

theorem moves_run (loop : Loop Place α) (atEnd : Bytes → DecodeError) (place : Place)
    (reader : Reader) :
    moves (loop.run atEnd place reader).1 ≤ reader.unused.length - loop.cursor place := by
  fun_induction Loop.run loop atEnd place reader with
  | case1 | case2 | case4 | case5 | case6 =>
      exact Nat.zero_le _
  | case3 place reader next turned later inductionHypothesis =>
      obtain ⟨moved, within⟩ := loop.ahead turned
      have held : reader.buffer.data.length ≤ reader.unused.length := by
        rw [Reader.unused, List.length_append]
        exact Nat.le_add_right _ _
      rw [moves_advanced]
      change moves later.1 ≤ _ at inductionHypothesis
      omega
  | case7 place reader wanted turned buffer prepared first others rest brought later
      inductionHypothesis =>
      have same := Reader.unused_receive (ReadBuffer.prepare_ok prepared).1
        (Stream.contents_of_read brought)
      rw [same] at inductionHypothesis
      exact inductionHypothesis

end Loop

end HttpServer
