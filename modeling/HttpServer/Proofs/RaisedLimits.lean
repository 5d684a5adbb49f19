import HttpServer.Proofs.ReadingLoops
import HttpServer.Proofs.RequestOctets
import HttpServer.Proofs.Session

/-!
# Raising the limits

Limits are only ever compared with what is buffered or announced, to refuse it when it is too much.
So wherever a reader looks, higher limits let it do what it did before, unless the lower ones made
it refuse. A request that was read is read again, with the same octets left over, and a refusal
that is due to no limit stays as it is.
-/

namespace HttpServer

variable {limits raised : Limits}

/-- Limits are lower than others when both of them are. -/
instance : LE Limits where
  le limits raised := limits.head ≤ raised.head ∧ limits.body ≤ raised.body

/-! ## Refusals that blame a limit -/

namespace DecodeError

/-- Whether a refusal never has to do with the limits. -/
def ignoresLimits : DecodeError → Bool
  | .malformed _ | .invalidHead _ | .invalidContentLength | .unsupportedTransferEncoding => true
  | .closed | .truncated | .readFailed _ => true
  | .headTooLarge _ | .bodyTooLarge _ | .invalidChunk => false

/-- Whether a refusal of what is buffered is due to a limit. An invalid chunk is when the buffer
holds whole chunks and behind them the front of a size line that is already too long. -/
inductive BlamesLimit (limits : Limits) (buffered : Bytes) : DecodeError → Prop
  | head : BlamesLimit limits buffered (.headTooLarge limits.head)
  | body : BlamesLimit limits buffered (.bodyTooLarge limits.body)
  | sizeLine (chunks : List Chunked.Chunk) (line : Bytes)
      (cut : buffered = chunks.flatMap Chunked.Chunk.octets ++ line)
      (unended : Chunked.scanSize line = .partly) (long : limits.head < line.length) :
      BlamesLimit limits buffered .invalidChunk

theorem BlamesLimit.ignoresLimits_eq_false {buffered : Bytes} {error : DecodeError}
    (blames : error.BlamesLimit limits buffered) :
    error.ignoresLimits = false := by
  cases blames with
  | head | body | sizeLine =>
      rfl

theorem BlamesLimit.behind {buffered : Bytes} {error : DecodeError}
    (blames : error.BlamesLimit limits buffered) (chunk : Chunked.Chunk) :
    error.BlamesLimit limits (chunk.octets ++ buffered) := by
  cases blames with
  | head =>
      exact .head
  | body =>
      exact .body
  | sizeLine chunks line cut unended long =>
      refine .sizeLine (chunk :: chunks) line ?_ unended long
      rw [cut, List.flatMap_cons, List.append_assoc]

end DecodeError

/-- Whether an attempt refuses what it sees because of a limit. -/
def Attempt.IsLimited {α : Type} (limits : Limits) (seen : Bytes) (attempt : Attempt α) : Prop :=
  ∃ error, attempt = .refused error ∧ error.BlamesLimit limits seen

/-- Whether a reading ended because of a limit. -/
def Reader.IsLimited {α : Type} (limits : Limits) (reading : Except ReadFailure α × Reader) :
    Prop :=
  ∃ error, reading.1 = .error (.refused error) ∧
    error.BlamesLimit limits reading.2.buffer.data

theorem Attempt.IsLimited.map {α β : Type} {seen : Bytes} {attempt : Attempt α}
    (limited : attempt.IsLimited limits seen) (change : α → β) :
    (attempt.map change).IsLimited limits seen := by
  obtain ⟨error, rfl, blames⟩ := limited
  exact ⟨error, rfl, blames⟩

theorem Attempt.IsLimited.behind {α : Type} {seen : Bytes} {attempt : Attempt α}
    (limited : attempt.IsLimited limits seen) (chunk : Chunked.Chunk) :
    attempt.IsLimited limits (chunk.octets ++ seen) := by
  obtain ⟨error, same, blames⟩ := limited
  exact ⟨error, same, blames.behind chunk⟩

theorem Attempt.eq_of_look {α : Type} {seen : Bytes} {attempt other given : Attempt α}
    (look : other = attempt ∨ attempt.IsLimited limits seen) (verdict : attempt = given)
    (free : ∀ error, given ≠ .refused error) :
    other = given := by
  rcases look with same | ⟨error, refused, -⟩
  · rw [same, verdict]
  · exact absurd (verdict.symm.trans refused) (free error)

/-! ## One look -/

/-- A head is looked at in the same way, unless it fills the lower bound. -/
theorem Reader.scanHead_of_raised (within : limits ≤ raised) (bytes : Bytes) :
    scanHead raised bytes = scanHead limits bytes ∨
      (scanHead limits bytes).IsLimited limits bytes := by
  unfold scanHead
  cases HeadLines.scan bytes with
  | found lines rest =>
      exact Or.inl rfl
  | wrong error =>
      exact Or.inl rfl
  | partly =>
      by_cases full : limits.head ≤ bytes.length
      · right
        rw [if_pos full]
        exact ⟨_, rfl, .head⟩
      · left
        have fullNot : ¬ raised.head ≤ bytes.length := fun full' => full (within.1.trans full')
        rw [if_neg full, if_neg fullNot]

namespace Chunked

theorem fits_of_raised (within : limits ≤ raised) {decoded size : Nat}
    (allowed : fits limits decoded size = true) :
    fits raised decoded size = true := by
  simp only [fits, decide_eq_true_eq] at allowed ⊢
  exact allowed.trans within.2

theorem scanTrailers_of_raised (within : limits ≤ raised) (bytes : Bytes) :
    scanTrailers raised bytes = scanTrailers limits bytes ∨
      scanTrailers limits bytes = .refused (.headTooLarge limits.head) := by
  fun_induction scanTrailers limits bytes with
  | case1 bytes unended long =>
      exact Or.inr rfl
  | case2 bytes unended short =>
      left
      have shortToo : ¬ raised.head < bytes.length := fun long => short (within.1.trans_lt long)
      rw [scanTrailers_eq, unended]
      exact if_neg shortToo
  | case3 bytes rest line empty =>
      left
      rw [scanTrailers_eq, line]
      exact if_pos empty
  | case4 bytes rest line some inductionHypothesis =>
      rw [scanTrailers_eq raised, line]
      simp only [if_neg some]
      exact inductionHypothesis

/-- What a size line promises is looked at in the same way, if the chunks behind it are. -/
theorem scanData_of_raised (within : limits ≤ raised) {start decoded : Nat} {line : SizeLine}
    {after : Bytes} (some : line.size ≠ 0)
    (behind : line.size + 2 ≤ after.length → ∀ passed decoded,
      scanChunks raised passed decoded (after.drop (line.size + 2)) =
          scanChunks limits passed decoded (after.drop (line.size + 2)) ∨
        (scanChunks limits passed decoded (after.drop (line.size + 2))).IsLimited limits
          (after.drop (line.size + 2))) :
    scanData raised start decoded line.size after = scanData limits start decoded line.size after ∨
      (scanData limits start decoded line.size after).IsLimited limits (line.octets ++ after) := by
  by_cases allowed : fits limits decoded line.size = true
  · have allowedToo := fits_of_raised within allowed
    simp only [scanData, allowed, allowedToo, Bool.not_true, Bool.false_eq_true, if_false]
    by_cases far : wordSize ≤ start + line.size + 2
    · exact Or.inl (by rw [if_pos far, if_pos far])
    · rw [if_neg far, if_neg far]
      by_cases short : after.length < line.size + 2
      · exact Or.inl (by rw [if_pos short, if_pos short])
      · rw [if_neg short, if_neg short]
        by_cases ends : ((after.drop line.size).take 2 == Bytes.lineEnd) = true
        · rw [if_pos ends, if_pos ends]
          have arrived : line.size + 2 ≤ after.length := Nat.not_lt.mp short
          rcases behind arrived (start + line.size + 2) (decoded + line.size) with same | limited
          · exact Or.inl (by rw [same])
          · obtain ⟨chunk, -, -, parts⟩ := exists_chunk some arrived (beq_iff_eq.mp ends)
            rw [parts]
            exact Or.inr ((limited.behind chunk).map _)
        · exact Or.inl (by rw [if_neg ends, if_neg ends])
  · right
    refine ⟨.bodyTooLarge limits.body, ?_, .body⟩
    simp only [scanData, allowed, Bool.not_false, if_true]

/-- Chunks are looked at in the same way, unless a line around them is too long or the body gets too
large. -/
theorem scanChunks_of_raised (within : limits ≤ raised) (passed decoded : Nat) (ahead : Bytes) :
    scanChunks raised passed decoded ahead = scanChunks limits passed decoded ahead ∨
      (scanChunks limits passed decoded ahead).IsLimited limits ahead := by
  induction length : ahead.length using Nat.strong_induction_on
    generalizing ahead passed decoded with
  | _ _ inductionHypothesis =>
    subst length
    cases spelt : scanSize ahead with
    | wrong error =>
        exact Or.inl (by rw [scanChunks_of_wrong spelt, scanChunks_of_wrong spelt])
    | partly =>
        rw [scanChunks_of_partly spelt, scanChunks_of_partly spelt]
        by_cases long : limits.head < ahead.length
        · right
          rw [if_pos long]
          exact ⟨_, rfl, .sizeLine [] ahead rfl spelt long⟩
        · left
          have longNot : ¬ raised.head < ahead.length := fun more => long (within.1.trans_lt more)
          rw [if_neg long, if_neg longNot]
    | found size after =>
        obtain ⟨line, rfl, rfl⟩ := sizeLine_of_scanSize spelt
        have shorter := length_of_scanSize spelt
        rw [scanChunks_line, scanChunks_line]
        by_cases zero : line.size = 0
        · rw [if_pos zero, if_pos zero]
          rcases scanTrailers_of_raised within after with same | refused
          · exact Or.inl same
          · exact Or.inr ⟨_, refused, .head⟩
        · rw [if_neg zero, if_neg zero]
          apply scanData_of_raised within zero
          intro arrived passed decoded
          apply inductionHypothesis _ _ _ _ _ rfl
          rw [List.length_drop]
          omega

end Chunked

/-- A body is looked at in the same way, unless a limit makes it refused. -/
theorem Framing.scanBody_of_raised (within : limits ≤ raised) (framing : Framing)
    (bytes : Bytes) :
    framing.scanBody raised bytes = framing.scanBody limits bytes ∨
      (framing.scanBody limits bytes).IsLimited limits bytes := by
  cases framing with
  | absent =>
      exact Or.inl rfl
  | sized length =>
      simp only [scanBody, scanSized]
      by_cases large : limits.body < length
      · right
        rw [if_pos large]
        exact ⟨_, rfl, .body⟩
      · left
        have largeNot : ¬ raised.body < length := fun more => large (within.2.trans_lt more)
        rw [if_neg large, if_neg largeNot]
  | chunked =>
      exact Chunked.scanChunks_of_raised within 0 0 bytes

/-! ## Reading on -/

namespace Reader

variable {reader after : Reader}

theorem await_of_raised {α : Type} {attempt other : Bytes → Attempt α}
    (looks : ∀ bytes, other bytes = attempt bytes ∨ (attempt bytes).IsLimited limits bytes)
    (atEnd : Bytes → DecodeError) (reader : Reader) :
    reader.await other atEnd = reader.await attempt atEnd ∨
      IsLimited limits (reader.await attempt atEnd) := by
  fun_induction Reader.await attempt atEnd reader with
  | case1 reader item rest verdict =>
      have found := Attempt.eq_of_look (looks _) verdict (by simp [Attempt.refused])
      left
      rw [await.eq_def]
      simp only [found]
  | case2 reader failure verdict =>
      rcases looks reader.buffer.data with same | ⟨error, refused, blames⟩
      · left
        rw [verdict] at same
        rw [await.eq_def]
        simp only [same]
      · cases verdict.symm.trans refused
        exact Or.inr ⟨error, rfl, blames⟩
  | case3 reader wanted verdict error refused =>
      have waits := Attempt.eq_of_look (looks _) verdict (by simp [Attempt.refused])
      left
      rw [await.eq_def]
      simp only [waits, refused]
  | case4 reader wanted verdict buffer prepared kind rest brought =>
      have waits := Attempt.eq_of_look (looks _) verdict (by simp [Attempt.refused])
      exact Or.inl (await_of_failure waits prepared brought)
  | case5 reader wanted verdict buffer prepared rest brought =>
      have waits := Attempt.eq_of_look (looks _) verdict (by simp [Attempt.refused])
      exact Or.inl (await_of_nothing waits prepared brought)
  | case6 reader wanted verdict buffer prepared first others rest brought inductionHypothesis =>
      have waits := Attempt.eq_of_look (looks _) verdict (by simp [Attempt.refused])
      rw [await_of_read waits prepared (List.cons_ne_nil _ _) brought]
      exact inductionHypothesis

theorem readHead_of_raised (within : limits ≤ raised) (reader : Reader) :
    reader.readHead raised = reader.readHead limits ∨ IsLimited limits (reader.readHead limits) :=
  await_of_raised (scanHead_of_raised within) headEnd reader

theorem readBody_of_raised (within : limits ≤ raised) (framing : Framing) (reader : Reader) :
    reader.readBody raised framing = reader.readBody limits framing ∨
      IsLimited limits (reader.readBody limits framing) :=
  await_of_raised (framing.scanBody_of_raised within) _ reader

/-! ## Requests -/

/-- A request is read in the same way, or is refused because of a limit. -/
theorem readRequest_eq_or_isLimited (within : limits ≤ raised) (reader : Reader) :
    reader.readRequest raised = reader.readRequest limits ∨
      IsLimited limits (reader.readRequest limits) := by
  have headAgain := readHead_of_raised within reader
  rcases readRequest_cases limits reader with
    ⟨failure, middle, headReading, reading⟩ | ⟨head, middle, error, headReading, framed, reading⟩ |
      ⟨head, middle, framing, headReading, framed, reading⟩
  · rw [headReading] at headAgain
    rw [reading]
    rcases headAgain with same | limited
    · exact Or.inl (readRequest_of_head_error same)
    · obtain ⟨error, failed, blames⟩ := limited
      cases failed
      exact Or.inr ⟨error, rfl, blames⟩
  · rw [headReading] at headAgain
    rw [reading]
    rcases headAgain with same | ⟨_, failed, -⟩
    · exact Or.inl (readRequest_of_framing_error same framed)
    · cases failed
  · rw [headReading] at headAgain
    rw [reading]
    rcases headAgain with same | ⟨_, failed, -⟩
    · rw [readRequest_of_head same framed]
      rcases readBody_of_raised within framing middle with sameBody | ⟨error, failed, blames⟩
      · exact Or.inl (by rw [sameBody])
      · right
        refine ⟨error, ?_, blames⟩
        rw [failed]
        rfl
    · cases failed

/-- Calls are the same as long as none of them is refused because of a limit. -/
theorem readTimes_of_raised (within : limits ≤ raised) {times : Nat} {reader : Reader}
    (free : ∀ reading ∈ readTimes limits times reader, ¬ IsLimited limits reading) :
    readTimes raised times reader = readTimes limits times reader := by
  induction times generalizing reader with
  | zero =>
      rfl
  | succ times inductionHypothesis =>
      have first := free _ List.mem_cons_self
      have same := (readRequest_eq_or_isLimited within reader).resolve_right first
      have later := inductionHypothesis fun reading member =>
        free reading (List.mem_cons_of_mem _ member)
      simp only [readTimes, same, later]

/-- Whatever is buffered, comes and fits: a request that is read under some limits is read under
higher ones, with the same octets left in the buffer and in the stream. A refusal that never has to
do with limits stays the same too, and whatever does change was a refusal because of a limit. So
calls that all succeed are the same under both. -/
theorem readRequest_of_raised_limits (within : limits ≤ raised) (reader : Reader) :
    (∀ request after, reader.readRequest limits = (.ok request, after) →
      reader.readRequest raised = (.ok request, after)) ∧
    (∀ error after, error.ignoresLimits = true →
      reader.readRequest limits = (.error (.refused error), after) →
      reader.readRequest raised = (.error (.refused error), after)) ∧
    (reader.readRequest raised ≠ reader.readRequest limits →
      ∃ error after, reader.readRequest limits = (.error (.refused error), after) ∧
        error.BlamesLimit limits after.buffer.data) ∧
    ∀ times, (∀ reading ∈ readTimes limits times reader, reading.1.isOk = true) →
      readTimes raised times reader = readTimes limits times reader := by
  have either := readRequest_eq_or_isLimited within reader
  refine ⟨?_, ?_, ?_, ?_⟩
  · intro request after gave
    rw [gave] at either
    rcases either with same | ⟨error, failed, -⟩
    · exact same
    · cases failed
  · intro error after ignores gave
    rw [gave] at either
    rcases either with same | ⟨_, failed, blames⟩
    · exact same
    · cases failed
      rw [blames.ignoresLimits_eq_false] at ignores
      cases ignores
  · intro differs
    obtain ⟨error, failed, blames⟩ := either.resolve_left differs
    exact ⟨error, (reader.readRequest limits).2, Prod.ext failed rfl, blames⟩
  · intro times succeed
    apply readTimes_of_raised within
    rintro reading member ⟨error, failed, -⟩
    have success := succeed reading member
    rw [failed] at success
    cases success

/-- Two requests in pieces, behind which the stream ends inside a third one, and a size line that is
too long under the lower limits only. -/
theorem readRequest_of_raised_limits_of_two_requests :
    let limits : Limits := { head := 60, body := 3 }
    let raised : Limits := { head := 61, body := 4000 }
    let reader : Reader :=
      { buffer := { data := Bytes.ascii "POST /a HTTP/1.1\r\nTransfer-Enc", capacity := 8 }
        stream := [.octets (Bytes.ascii "oding: chunked\r\n\r\n1;x=y\r\na"),
          .octets (Bytes.ascii "\r\n2\r\nbc\r\n0\r\nT: v\r\n\r\nGET /b HTTP/1.1\r"),
          .octets (Bytes.ascii "\n\r\nGET /c")] }
    let long : Reader :=
      { buffer :=
          { data := Bytes.ascii "POST / HTTP/1.1\r\nTransfer-Encoding: chunked\r\n\r\n" ++
              Bytes.ascii "1\r\na\r\n1;" ++ List.replicate 59 0x78
            capacity := 200 }
        stream := [.octets (Bytes.ascii "\r\nb\r\n0\r\n\r\n")] }
    let rest := afterCalls limits 2 reader
    (readTimes raised 2 reader = readTimes limits 2 reader ∧
      (readTimes raised 2 reader).map (fun reading => reading.1.toOption.map Request.body) =
        [some (Bytes.ascii "abc"), some []]) ∧
      (∃ after, rest.readRequest raised = (.error (.refused .truncated), after)) ∧
      (long.readRequest raised).1.toOption.map Request.body = some (Bytes.ascii "ab") ∧
      ∃ error after, long.readRequest limits = (.error (.refused error), after) ∧
        error.BlamesLimit limits after.buffer.data := by
  intro limits raised reader long rest
  have within : limits ≤ raised := ⟨by decide, by decide⟩
  obtain ⟨-, -, -, calls⟩ := readRequest_of_raised_limits within reader
  have same := calls 2 (by decide +kernel)
  obtain ⟨-, refusal, -, -⟩ := readRequest_of_raised_limits within rest
  have ended : (rest.readRequest limits).1 = .error (.refused .truncated) := by decide +kernel
  obtain ⟨-, -, change, -⟩ := readRequest_of_raised_limits within long
  have differs : long.readRequest raised ≠ long.readRequest limits := by decide +kernel
  refine ⟨⟨same, ?_⟩, ⟨_, refusal .truncated _ rfl (Prod.ext ended rfl)⟩, ?_, change differs⟩
  · rw [same]
    decide +kernel
  · decide +kernel

end Reader

end HttpServer
