import HttpServer.Proofs.ReadingLoops

/-!
# The loops that read a request

The head of a request and a body of given length are read by loops that look at all octets in every
turn. A body in chunks is read by loops with a cursor: over size lines and what they announce, and
then over trailer lines. Together they read a request as `Reader.readRequest` does.
-/

namespace HttpServer

/-! ## Loops without a cursor -/

namespace Loop

variable {α : Type}

/-- A loop that looks at everything in every turn. -/
def ofAttempt (attempt : Bytes → Attempt α) : Loop Unit α where
  turn _ data :=
    match attempt data with
    | .found item rest => .leave item rest
    | .wait wanted => .read wanted
    | .failed failure => .fail failure
  cursor _ := 0
  ahead turned := by
    split at turned <;> cases turned
  again turned := by
    split at turned <;> cases turned

theorem moves_ofAttempt (attempt : Bytes → Attempt α) (atEnd : Bytes → DecodeError)
    (reader : Reader) : moves ((ofAttempt attempt).run atEnd () reader).1 = 0 := by
  -- no turn moves the cursor, since there is none
  generalize place : () = here
  fun_induction Loop.run (ofAttempt attempt) atEnd here reader with
  | case1 | case2 | case4 | case5 | case6 =>
      rfl
  | case3 place reader next turned =>
      simp only [ofAttempt] at turned
      split at turned <;> cases turned
  | case7 place reader wanted turned buffer prepared first others rest brought later
      inductionHypothesis =>
      exact (moves_read _ _ _).trans (inductionHypothesis rfl)

theorem glance_ofAttempt (attempt : Bytes → Attempt α) :
    (ofAttempt attempt).glance () = attempt := by
  funext data
  rw [glance]
  simp only [ofAttempt]
  cases attempt data <;> rfl

end Loop

/-! ## The loops over chunks -/

namespace Chunked

variable {limits : Limits} {data : Bytes} {passed : Nat} {body : Bytes}

/-- Where the loops over chunks stand: how many octets they have passed, and the data of the chunks
among them. -/
inductive Place where
  /-- Before a size line. -/
  | line (passed : Nat) (body : Bytes)
  /-- Before the data of a chunk of a size. -/
  | chunk (passed size : Nat) (body : Bytes)
  /-- Before a trailer line, or the empty line. -/
  | trailer (passed : Nat) (body : Bytes)

def Place.cursor : Place → Nat
  | .line passed _ | .chunk passed _ _ | .trailer passed _ => passed

def lineTurn (limits : Limits) (passed : Nat) (body data : Bytes) : Turn Place Bytes :=
  match scanSize (data.drop passed) with
  | .wrong _ => .fail (.refused .invalidChunk)
  | .partly =>
    if limits.head < (data.drop passed).length then .fail (.refused .invalidChunk) else .read 0
  | .found size rest =>
    let start := data.length - rest.length
    if size = 0 then .advance (.trailer start body)
    else if !fits limits body.length size then .fail (.refused (.bodyTooLarge limits.body))
    else if wordSize ≤ start + size + 2 then .fail (.fault .offsetOverflow)
    else .advance (.chunk start size body)

def chunkTurn (passed size : Nat) (body data : Bytes) : Turn Place Bytes :=
  let stop := passed + size + 2
  if data.length < stop then .read stop
  else if (data.drop (passed + size)).take 2 == Bytes.lineEnd then
    .advance (.line stop (body ++ (data.drop passed).take size))
  else .fail (.refused .invalidChunk)

def trailerTurn (limits : Limits) (passed : Nat) (body data : Bytes) : Turn Place Bytes :=
  match Bytes.afterLine (data.drop passed) with
  | none =>
    if limits.head < (data.drop passed).length then .fail (.refused (.headTooLarge limits.head))
    else .read 0
  | some rest =>
    if (data.drop passed).length = rest.length + 2 then .leave body rest
    else .advance (.trailer (data.length - rest.length) body)

def turn (limits : Limits) (place : Place) (data : Bytes) : Turn Place Bytes :=
  match place with
  | .line passed body => lineTurn limits passed body data
  | .chunk passed size body => chunkTurn passed size body data
  | .trailer passed body => trailerTurn limits passed body data

/-! ## Turns that move the cursor -/

theorem lineTurn_of_size {size : Nat} {line rest : Bytes} (here : data.drop passed = line ++ rest)
    (spelt : scanSize (line ++ rest) = .found size rest) :
    lineTurn limits passed body data =
      if size = 0 then .advance (.trailer (passed + line.length) body)
      else if !fits limits body.length size then .fail (.refused (.bodyTooLarge limits.body))
      else if wordSize ≤ passed + line.length + size + 2 then .fail (.fault .offsetOverflow)
      else .advance (.chunk (passed + line.length) size body) := by
  have shorter := length_of_scanSize spelt
  have total := congrArg List.length here
  rw [List.length_drop, List.length_append] at total
  rw [List.length_append] at shorter
  have start : data.length - rest.length = passed + line.length := by omega
  unfold lineTurn
  rw [here, spelt]
  simp only [start]

theorem chunkTurn_append {size : Nat} (arrived : passed + size + 2 ≤ data.length) (more : Bytes) :
    chunkTurn passed size body (data ++ more) = chunkTurn passed size body data := by
  have enough : ¬ data.length < passed + size + 2 := by omega
  have enoughToo : ¬ (data ++ more).length < passed + size + 2 := by
    rw [List.length_append]
    omega
  have mark : ((data ++ more).drop (passed + size)).take 2 =
      (data.drop (passed + size)).take 2 := by
    rw [List.drop_append_of_le_length (by omega),
      List.take_append_of_le_length (by rw [List.length_drop]; omega)]
  have chunk : ((data ++ more).drop passed).take size = (data.drop passed).take size := by
    rw [List.drop_append_of_le_length (by omega),
      List.take_append_of_le_length (by rw [List.length_drop]; omega)]
  simp only [chunkTurn, enough, enoughToo, if_false, mark, chunk]

theorem eq_of_chunkTurn_advance {size : Nat} {next : Place}
    (turned : chunkTurn passed size body data = .advance next) :
    passed + size + 2 ≤ data.length ∧
      next = .line (passed + size + 2) (body ++ (data.drop passed).take size) := by
  by_cases short : data.length < passed + size + 2
  · simp [chunkTurn, short] at turned
  · by_cases ends : (data.drop (passed + size)).take 2 == Bytes.lineEnd
    · simp only [chunkTurn, short, ends, if_false, if_true, Turn.advance.injEq] at turned
      exact ⟨by omega, turned.symm⟩
    · simp [chunkTurn, short, ends] at turned

theorem trailerTurn_of_line {line rest : Bytes} (here : data.drop passed = line ++ rest)
    (ended : Bytes.afterLine (line ++ rest) = some rest) (two : 2 ≤ line.length) :
    trailerTurn limits passed body data =
      if line.length = 2 then .leave body rest
      else .advance (.trailer (passed + line.length) body) := by
  have total := congrArg List.length here
  rw [List.length_drop, List.length_append] at total
  have start : data.length - rest.length = passed + line.length := by omega
  have last : (line ++ rest).length = rest.length + 2 ↔ line.length = 2 := by
    rw [List.length_append]
    omega
  unfold trailerTurn
  rw [here, ended]
  simp only [last, start]

/-- The front of what is ahead is ahead as well when more is buffered. -/
theorem drop_append_of_front {line rest : Bytes} (here : data.drop passed = line ++ rest)
    (some : 0 < line.length) (more : Bytes) :
    (data ++ more).drop passed = line ++ (rest ++ more) := by
  have total := congrArg List.length here
  rw [List.length_drop, List.length_append] at total
  rw [List.drop_append_of_le_length (by omega), here, List.append_assoc]

theorem exists_line_of_advance {next : Place}
    (turned : lineTurn limits passed body data = .advance next) :
    ∃ line rest size, data.drop passed = line ++ rest ∧ 2 ≤ line.length ∧
      ∀ more, scanSize (line ++ more) = .found size more := by
  unfold lineTurn at turned
  cases verdict : scanSize (data.drop passed) with
  | wrong error =>
      simp [verdict] at turned
  | partly =>
      simp only [verdict] at turned
      split at turned <;> cases turned
  | found size rest =>
      obtain ⟨line, cut, again⟩ := settled_scanSize.found verdict
      have shorter := length_of_scanSize verdict
      rw [cut, List.length_append] at shorter
      exact ⟨line, rest, size, cut, by omega, again⟩

theorem exists_line_of_trailer {next : Place}
    (turned : trailerTurn limits passed body data = .advance next) :
    ∃ line rest, data.drop passed = line ++ rest ∧ 2 ≤ line.length ∧
      ∀ more, Bytes.afterLine (line ++ more) = some more := by
  unfold trailerTurn at turned
  cases ended : Bytes.afterLine (data.drop passed) with
  | none =>
      simp only [ended] at turned
      split at turned <;> cases turned
  | some rest =>
      obtain ⟨line, cut, two, again⟩ := afterLine_settled ended
      exact ⟨line, rest, cut, two, again⟩

theorem ahead_of_turn {place next : Place} (turned : turn limits place data = .advance next) :
    place.cursor < next.cursor ∧ next.cursor ≤ data.length := by
  cases place with
  | line passed body =>
      obtain ⟨line, rest, size, here, two, again⟩ := exists_line_of_advance turned
      have total := congrArg List.length here
      rw [List.length_drop, List.length_append] at total
      rw [turn, lineTurn_of_size here (again rest)] at turned
      have cursor : next.cursor = passed + line.length := by
        split at turned
        · cases turned
          rfl
        · split at turned
          · cases turned
          · split at turned
            · cases turned
            · cases turned
              rfl
      change passed < next.cursor ∧ _
      omega
  | chunk passed size body =>
      obtain ⟨arrived, rfl⟩ := eq_of_chunkTurn_advance turned
      change passed < passed + size + 2 ∧ passed + size + 2 ≤ data.length
      omega
  | trailer passed body =>
      obtain ⟨line, rest, here, two, again⟩ := exists_line_of_trailer turned
      have total := congrArg List.length here
      rw [List.length_drop, List.length_append] at total
      rw [turn, trailerTurn_of_line here (again rest) two] at turned
      split at turned
      · cases turned
      · cases turned
        change passed < passed + line.length ∧ passed + line.length ≤ data.length
        omega

theorem turn_append {place next : Place} (turned : turn limits place data = .advance next)
    (more : Bytes) : turn limits place (data ++ more) = .advance next := by
  cases place with
  | line passed body =>
      obtain ⟨line, rest, size, here, two, again⟩ := exists_line_of_advance turned
      rw [turn, lineTurn_of_size here (again rest)] at turned
      rw [turn, lineTurn_of_size (drop_append_of_front here (by omega) more) (again _)]
      exact turned
  | chunk passed size body =>
      rw [turn, chunkTurn_append (eq_of_chunkTurn_advance turned).1]
      exact turned
  | trailer passed body =>
      obtain ⟨line, rest, here, two, again⟩ := exists_line_of_trailer turned
      rw [turn, trailerTurn_of_line here (again rest) two] at turned
      rw [turn, trailerTurn_of_line (drop_append_of_front here (by omega) more) (again _) two]
      split at turned
      case isTrue last =>
        cases turned
      case isFalse other =>
        rw [if_neg other]
        exact turned

/-- The loops over chunks and trailer lines. -/
def loop (limits : Limits) : Loop Place Bytes where
  turn := turn limits
  cursor := Place.cursor
  ahead := ahead_of_turn
  again := turn_append

/-! ## The scan of chunks -/

theorem glance_trailer (within : passed ≤ data.length) :
    (loop limits).glance (.trailer passed body) data =
      (scanTrailers limits (data.drop passed)).map (body ++ ·) := by
  -- each line that is passed leaves less ahead
  induction length : data.length - passed using Nat.strong_induction_on generalizing passed with
  | _ _ inductionHypothesis =>
    subst length
    rw [scanTrailers_eq]
    cases ended : Bytes.afterLine (data.drop passed) with
    | none =>
        by_cases long : limits.head < (data.drop passed).length
        · have turned : (loop limits).turn (.trailer passed body) data =
              .fail (.refused (.headTooLarge limits.head)) := by
            simp only [loop, turn, trailerTurn, ended, long, if_true]
          rw [Loop.glance_of_fail turned]
          simp only [long, if_true]
          rfl
        · have turned : (loop limits).turn (.trailer passed body) data = .read 0 := by
            simp only [loop, turn, trailerTurn, ended, long, if_false]
          rw [Loop.glance_of_read turned]
          simp only [long, if_false]
          rfl
    | some rest =>
        obtain ⟨line, here, two, again⟩ := afterLine_settled ended
        have total := congrArg List.length here
        rw [List.length_drop, List.length_append] at total
        have turned : (loop limits).turn (.trailer passed body) data = _ :=
          trailerTurn_of_line here (again rest) two
        have last : (data.drop passed).length = rest.length + 2 ↔ line.length = 2 := by
          rw [here, List.length_append]
          omega
        have behind : data.drop (passed + line.length) = rest := by
          rw [← List.drop_drop, here, List.drop_left]
        simp only [last]
        by_cases empty : line.length = 2
        · rw [if_pos empty] at turned ⊢
          rw [Loop.glance_of_leave turned, Attempt.map, List.append_nil]
        · rw [if_neg empty] at turned ⊢
          rw [Loop.glance_of_advance turned,
            inductionHypothesis _ (by omega) (by omega) rfl, behind]

theorem glance_chunk {size : Nat} (within : passed ≤ data.length)
    (behind : passed + size + 2 ≤ data.length →
      (loop limits).glance (.line (passed + size + 2) (body ++ (data.drop passed).take size)) data =
        (scanChunks limits (passed + size + 2) (body.length + size)
          ((data.drop passed).drop (size + 2))).map (body ++ (data.drop passed).take size ++ ·)) :
    (loop limits).glance (.chunk passed size body) data =
      (if (data.drop passed).length < size + 2 then .wait (passed + size + 2)
      else if ((data.drop passed).drop size).take 2 == Bytes.lineEnd then
        (scanChunks limits (passed + size + 2) (body.length + size)
          ((data.drop passed).drop (size + 2))).map ((data.drop passed).take size ++ ·)
      else .refused .invalidChunk : Attempt Bytes).map (body ++ ·) := by
  have few : (data.drop passed).length < size + 2 ↔ data.length < passed + size + 2 := by
    rw [List.length_drop]
    omega
  simp only [few, List.drop_drop]
  by_cases short : data.length < passed + size + 2
  · have turned : (loop limits).turn (.chunk passed size body) data =
        .read (passed + size + 2) := by
      simp only [loop, turn, chunkTurn, short, if_true]
    rw [Loop.glance_of_read turned, if_pos short]
    rfl
  · rw [if_neg short]
    by_cases ends : (data.drop (passed + size)).take 2 == Bytes.lineEnd
    · have turned : (loop limits).turn (.chunk passed size body) data =
          .advance (.line (passed + size + 2) (body ++ (data.drop passed).take size)) := by
        simp only [loop, turn, chunkTurn, short, ends, if_false, if_true]
      rw [Loop.glance_of_advance turned, behind (by omega), if_pos ends, List.drop_drop]
      cases scanChunks limits (passed + size + 2) (body.length + size)
          (data.drop (passed + (size + 2))) with
      | found item rest =>
          simp only [Attempt.map, List.append_assoc]
      | wait | failed =>
          rfl
    · have turned : (loop limits).turn (.chunk passed size body) data =
          .fail (.refused .invalidChunk) := by
        simp only [loop, turn, chunkTurn, short, ends, if_false, Bool.false_eq_true]
      rw [Loop.glance_of_fail turned, if_neg ends]
      rfl

/-- Behind the size line of a chunk the loops find what the scan of its data finds. -/
theorem glance_data {start size : Nat}
    (turned : (loop limits).turn (.line passed body) data =
      if !fits limits body.length size then .fail (.refused (.bodyTooLarge limits.body))
      else if wordSize ≤ start + size + 2 then .fail (.fault .offsetOverflow)
      else .advance (.chunk start size body))
    (within : start ≤ data.length)
    (behind : start + size + 2 ≤ data.length →
      (loop limits).glance (.line (start + size + 2) (body ++ (data.drop start).take size)) data =
        (scanChunks limits (start + size + 2) (body.length + size)
          ((data.drop start).drop (size + 2))).map (body ++ (data.drop start).take size ++ ·)) :
    (loop limits).glance (.line passed body) data =
      (scanData limits start body.length size (data.drop start)).map (body ++ ·) := by
  unfold scanData
  by_cases allowed : fits limits body.length size = true
  · by_cases far : wordSize ≤ start + size + 2
    · simp only [allowed, far, Bool.not_true, Bool.false_eq_true, if_false, if_true] at turned ⊢
      rw [Loop.glance_of_fail turned]
      rfl
    · simp only [allowed, far, Bool.not_true, Bool.false_eq_true, if_false] at turned ⊢
      rw [Loop.glance_of_advance turned, glance_chunk within behind]
  · simp only [allowed, Bool.not_false, if_true] at turned ⊢
    rw [Loop.glance_of_fail turned]
    rfl

theorem glance_line (within : passed ≤ data.length) :
    (loop limits).glance (.line passed body) data =
      (scanChunks limits passed body.length (data.drop passed)).map (body ++ ·) := by
  -- each chunk that is passed leaves less ahead
  induction length : data.length - passed using Nat.strong_induction_on
    generalizing passed body with
  | _ _ inductionHypothesis =>
    subst length
    cases verdict : scanSize (data.drop passed) with
    | wrong error =>
        have turned : (loop limits).turn (.line passed body) data =
            .fail (.refused .invalidChunk) := by
          simp only [loop, turn, lineTurn, verdict]
        rw [Loop.glance_of_fail turned, scanChunks_of_wrong verdict]
        rfl
    | partly =>
        rw [scanChunks_of_partly verdict]
        by_cases long : limits.head < (data.drop passed).length
        · have turned : (loop limits).turn (.line passed body) data =
              .fail (.refused .invalidChunk) := by
            simp only [loop, turn, lineTurn, verdict, long, if_true]
          rw [Loop.glance_of_fail turned, if_pos long]
          rfl
        · have turned : (loop limits).turn (.line passed body) data = .read 0 := by
            simp only [loop, turn, lineTurn, verdict, long, if_false]
          rw [Loop.glance_of_read turned, if_neg long]
          rfl
    | found size rest =>
        obtain ⟨line, here, again⟩ := settled_scanSize.found verdict
        have shorter := length_of_scanSize verdict
        have total := congrArg List.length here
        rw [List.length_drop, List.length_append] at total
        rw [here, List.length_append] at shorter
        have behind : data.drop (passed + line.length) = rest := by
          rw [← List.drop_drop, here, List.drop_left]
        have turned : (loop limits).turn (.line passed body) data = _ :=
          lineTurn_of_size here (again rest)
        rw [here, scanChunks_of_size (again rest)]
        by_cases last : size = 0
        · rw [if_pos last] at turned ⊢
          rw [Loop.glance_of_advance turned, glance_trailer (by omega), behind]
        · rw [if_neg last] at turned ⊢
          rw [glance_data turned (by omega), behind]
          intro arrived
          have whole : (body ++ (data.drop (passed + line.length)).take size).length =
              body.length + size := by
            rw [List.length_append, List.length_take, List.length_drop]
            omega
          rw [inductionHypothesis _ (by omega) arrived rfl, whole, List.drop_drop]
          rfl

/-- From the first size line on the loops find what the scan finds. -/
theorem glance_start (limits : Limits) : (loop limits).glance (.line 0 []) = scan limits := by
  funext data
  rw [glance_line (Nat.zero_le _)]
  change (scanChunks limits 0 0 data).map ([] ++ ·) = scanChunks limits 0 0 data
  cases scanChunks limits 0 0 data <;> rfl

end Chunked

/-! ## The loops of a request -/

namespace Reader

variable {limits : Limits} {reader : Reader}

def headTurns (limits : Limits) (reader : Reader) :
    List Iteration × Except ReadFailure RequestHead × Reader :=
  (Loop.ofAttempt (scanHead limits)).run headEnd () reader

def bodyTurns (limits : Limits) (framing : Framing) (reader : Reader) :
    List Iteration × Except ReadFailure Bytes × Reader :=
  match framing with
  | .absent | .sized _ =>
    (Loop.ofAttempt (framing.scanBody limits)).run (fun _ => .truncated) () reader
  | .chunked => (Chunked.loop limits).run (fun _ => .truncated) (.line 0 []) reader

def requestTurns (limits : Limits) (reader : Reader) :
    List Iteration × Except ReadFailure Request × Reader :=
  match reader.headTurns limits with
  | (record, .error failure, middle) => (record, .error failure, middle)
  | (record, .ok head, middle) =>
    match Framing.ofFields head.fields with
    | .error error => (record, .error (.refused error), middle)
    | .ok framing =>
      let body := middle.bodyTurns limits framing
      (record ++ body.1, body.2.1.map head.withBody, body.2.2)

theorem headTurns_eq (limits : Limits) (reader : Reader) :
    (reader.headTurns limits).2 = reader.readHead limits := by
  rw [headTurns, Loop.run_eq_await, Loop.glance_ofAttempt]
  rfl

theorem bodyTurns_eq (limits : Limits) (framing : Framing) (reader : Reader) :
    (reader.bodyTurns limits framing).2 = reader.readBody limits framing := by
  cases framing with
  | absent | sized =>
      rw [bodyTurns, Loop.run_eq_await, Loop.glance_ofAttempt]
      rfl
  | chunked =>
      rw [bodyTurns, Loop.run_eq_await, Chunked.glance_start]
      rfl

/-- The loops give no head, or one whose framing is refused, or one with the loops of a body. -/
theorem requestTurns_cases (limits : Limits) (reader : Reader) :
    (∃ record failure middle, reader.headTurns limits = (record, .error failure, middle) ∧
      reader.requestTurns limits = (record, .error failure, middle)) ∨
    (∃ record head middle error, reader.headTurns limits = (record, .ok head, middle) ∧
      Framing.ofFields head.fields = .error error ∧
      reader.requestTurns limits = (record, .error (.refused error), middle)) ∨
    ∃ record head middle framing, reader.headTurns limits = (record, .ok head, middle) ∧
      Framing.ofFields head.fields = .ok framing ∧
      reader.requestTurns limits =
        (record ++ (middle.bodyTurns limits framing).1,
          (middle.bodyTurns limits framing).2.1.map head.withBody,
          (middle.bodyTurns limits framing).2.2) := by
  unfold requestTurns
  obtain ⟨record, failure | head, middle⟩ := reader.headTurns limits
  · exact .inl ⟨record, failure, middle, rfl, rfl⟩
  · right
    cases framed : Framing.ofFields head.fields with
    | error error =>
        exact .inl ⟨record, head, middle, error, rfl, framed, by simp only [framed]⟩
    | ok framing =>
        exact .inr ⟨record, head, middle, framing, rfl, framed, by simp only [framed]⟩

/-- The loops read a request as it is read by awaiting its parts. -/
theorem requestTurns_eq (limits : Limits) (reader : Reader) :
    (reader.requestTurns limits).2 = reader.readRequest limits := by
  have headSame := headTurns_eq limits reader
  rcases requestTurns_cases limits reader with
    ⟨record, failure, middle, headRun, same⟩ | ⟨record, head, middle, error, headRun, framed, same⟩ |
      ⟨record, head, middle, framing, headRun, framed, same⟩
  · rw [headRun] at headSame
    rw [same, readRequest_of_head_error headSame.symm]
  · rw [headRun] at headSame
    rw [same, readRequest_of_framing_error headSame.symm framed]
  · rw [headRun] at headSame
    rw [same, readRequest_of_head headSame.symm framed, ← bodyTurns_eq]

theorem proceeds_bodyTurns (limits : Limits) (framing : Framing) (reader : Reader) :
    Proceeds (reader.bodyTurns limits framing).1 (reader.bodyTurns limits framing).2.1 := by
  cases framing with
  | absent | sized | chunked =>
      exact Loop.proceeds_run _ _ _ _

theorem proceeds_requestTurns (limits : Limits) (reader : Reader) :
    Proceeds (reader.requestTurns limits).1 (reader.requestTurns limits).2.1 := by
  have headProceeds : Proceeds (reader.headTurns limits).1 (reader.headTurns limits).2.1 :=
    Loop.proceeds_run _ _ _ _
  rcases requestTurns_cases limits reader with
    ⟨record, failure, middle, headRun, same⟩ | ⟨record, head, middle, error, headRun, -, same⟩ |
      ⟨record, head, middle, framing, headRun, -, same⟩
  · rw [headRun] at headProceeds
    rw [same]
    exact headProceeds.map fun head => head.withBody []
  · rw [headRun] at headProceeds
    rw [same]
    have nothing : Proceeds ([] : List Iteration)
        (.error (.refused error) : Except ReadFailure Request) := .left
    simpa using headProceeds.append nothing
  · rw [headRun] at headProceeds
    rw [same]
    exact headProceeds.append ((proceeds_bodyTurns limits framing middle).map head.withBody)

theorem reads_bodyTurns (limits : Limits) (framing : Framing) (plain : reader.stream.IsPlain) :
    reads (reader.bodyTurns limits framing).1 +
        (reader.bodyTurns limits framing).2.2.stream.contents.length ≤
      reader.stream.contents.length + lastRead (reader.bodyTurns limits framing).2.1 := by
  cases framing with
  | absent | sized | chunked =>
      exact Loop.reads_run _ _ _ plain

theorem moves_bodyTurns (limits : Limits) (framing : Framing) (reader : Reader) :
    moves (reader.bodyTurns limits framing).1 ≤ reader.unused.length := by
  cases framing with
  | absent | sized | chunked =>
      exact Nat.le_trans (Loop.moves_run _ _ _ _) (Nat.sub_le _ _)

theorem lastRead_le {α : Type} (outcome : Except ReadFailure α) : lastRead outcome ≤ 1 := by
  cases outcome <;> simp [lastRead]

/-- There are at most as many reads as octets to come, and one that finds nothing. -/
theorem reads_requestTurns (plain : reader.stream.IsPlain) :
    reads (reader.requestTurns limits).1 ≤ reader.stream.contents.length + 1 := by
  have headReads : reads (reader.headTurns limits).1 +
        (reader.headTurns limits).2.2.stream.contents.length ≤
      reader.stream.contents.length + lastRead (reader.headTurns limits).2.1 :=
    Loop.reads_run _ _ _ plain
  have headSame := headTurns_eq limits reader
  rcases requestTurns_cases limits reader with
    ⟨record, failure, middle, headRun, same⟩ | ⟨record, head, middle, error, headRun, -, same⟩ |
      ⟨record, head, middle, framing, headRun, -, same⟩
  · rw [headRun] at headReads
    rw [same]
    exact Nat.le_trans (Nat.le_add_right _ _) headReads
  · rw [headRun] at headReads
    rw [same]
    exact Nat.le_succ_of_le (Nat.le_trans (Nat.le_add_right _ _) headReads)
  · rw [headRun] at headReads headSame
    have plainMiddle : middle.stream.IsPlain := by
      have after := isPlain_await (scanHead limits) headEnd plain
      rw [← readHead, ← headSame] at after
      exact after
    have bodyReads := reads_bodyTurns limits framing plainMiddle
    have last := lastRead_le (middle.bodyTurns limits framing).2.1
    rw [same]
    change reads (record ++ (middle.bodyTurns limits framing).1) ≤ _
    change reads record + middle.stream.contents.length ≤ reader.stream.contents.length + 0
      at headReads
    rw [reads, List.countP_append]
    change reads record + reads (middle.bodyTurns limits framing).1 ≤ _
    omega

theorem unused_le_of_readHead {head : RequestHead} {middle : Reader}
    (headReading : reader.readHead limits = (.ok head, middle)) :
    middle.unused.length ≤ reader.unused.length := by
  obtain ⟨used, whole, -⟩ := used_of_await_ok (settledBelow_scanHead limits) headReading
  rw [whole, List.length_append]
  exact Nat.le_add_left _ _

/-- The cursor moves at most once for each octet. -/
theorem moves_requestTurns (limits : Limits) (reader : Reader) :
    moves (reader.requestTurns limits).1 ≤ reader.unused.length := by
  have still : moves (reader.headTurns limits).1 = 0 := Loop.moves_ofAttempt _ _ _
  have headSame := headTurns_eq limits reader
  rcases requestTurns_cases limits reader with
    ⟨record, failure, middle, headRun, same⟩ | ⟨record, head, middle, error, headRun, -, same⟩ |
      ⟨record, head, middle, framing, headRun, -, same⟩
  · rw [headRun] at still
    rw [same]
    exact Nat.le_trans (Nat.le_of_eq still) (Nat.zero_le _)
  · rw [headRun] at still
    rw [same]
    exact Nat.le_trans (Nat.le_of_eq still) (Nat.zero_le _)
  · rw [headRun] at still headSame
    have fewer := unused_le_of_readHead headSame.symm
    have bodyMoves := moves_bodyTurns limits framing middle
    rw [same]
    change moves (record ++ (middle.bodyTurns limits framing).1) ≤ _
    change moves record = 0 at still
    rw [moves, List.countP_append]
    change moves record + moves (middle.bodyTurns limits framing).1 ≤ _
    omega

end Reader

end HttpServer
