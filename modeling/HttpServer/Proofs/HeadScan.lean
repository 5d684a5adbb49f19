import HttpServer.Proofs.Settled
import HttpServer.Request.Decode

/-!
# The scan of a request head is settled

Every part of a head is recognised by a mark that ends it, so no part is taken for whole before
its end has arrived and none is found wrong that later octets could mend. The blank lines before a
request line have no mark of their own: they end where the method begins.
-/

namespace HttpServer

namespace HeadLines

open Scan

/-! ## Parts of a line -/

@[simp]
theorem scanLineEnd_nil (error : HeadLinesError) :
    scanLineEnd error [] = .partly :=
  rfl

theorem settled_scanLineEnd (error : HeadLinesError) :
    Settled (scanLineEnd error) := by
  apply Settled.of_cons (scanLineEnd_nil error)
  intro first
  by_cases feed : first = Bytes.lineFeed
  · subst feed
    exact Settled.of_found ()
  · by_cases carriage : first = Bytes.carriageReturn
    · subst carriage
      apply Settled.of_cons rfl
      intro second
      by_cases secondFeed : second = Bytes.lineFeed
      · subst secondFeed
        exact Settled.of_found ()
      · simpa [scanLineEnd, feed, secondFeed] using Settled.of_wrong error
    · simpa [scanLineEnd, feed, carriage] using Settled.of_wrong error

theorem settled_scanMethod : Settled scanMethod := by
  apply Settled.afterMark Bytes.isToken
    (fun method mark rest =>
      if mark == Bytes.space && !method.isEmpty then .found method rest
      else .wrong HeadLinesError.token)
  intro method mark
  exact Settled.ite _ (Settled.of_found method) (Settled.of_wrong HeadLinesError.token)

theorem settled_scanTarget : Settled scanTarget := by
  apply Settled.afterMark Bytes.isTarget
    (fun target mark rest =>
      if mark == Bytes.space && !target.isEmpty && Utf8.isWellFormed target then
        .found target rest
      else .wrong HeadLinesError.token)
  intro target mark
  exact Settled.ite _ (Settled.of_found target) (Settled.of_wrong HeadLinesError.token)

theorem versionStart_eq_take :
    versionStart = version10.take 7 ∧ versionStart = version11.take 7 := by
  decide

/-- What fewer octets than a version has say against a version, they say for good. -/
theorem scanVersion_append_of_mismatch {bytes : Bytes}
    (short : bytes.length < 8) (differs : bytes ≠ versionStart.take bytes.length)
    (more : Bytes) :
    scanVersion (bytes ++ more) = .wrong .version := by
  have front (text : Bytes) (same : (bytes ++ more).take 8 = text) :
      bytes = text.take bytes.length := by
    rw [← same, List.take_take, Nat.min_eq_left (by omega), List.take_left]
  have notPartly (size : Nat) : (bytes ++ more).take 8 ≠ versionStart.take size := by
    intro same
    apply differs
    have start := front _ same
    rw [List.take_take] at start
    by_cases enough : bytes.length ≤ size
    · rwa [Nat.min_eq_left enough] at start
    · have cutShort := congrArg List.length start
      rw [List.length_take] at cutShort
      omega
  have notWhole (text : Bytes) (start : versionStart = text.take 7) :
      (bytes ++ more).take 8 ≠ text := by
    intro same
    apply differs
    have cut := front _ same
    rw [start, List.take_take, Nat.min_eq_left (by omega)]
    exact cut
  have notFirst := notWhole version10 versionStart_eq_take.1
  have notSecond := notWhole version11 versionStart_eq_take.2
  simp [scanVersion, notPartly, notFirst, notSecond]

/-- What eight octets say about the version they spell. -/
def judgeVersion (text rest : Bytes) : Scanned Version :=
  if text == version10 then .found .http10 rest
  else if text == version11 then .found .http11 rest
  else .wrong .version

theorem settled_judgeVersion (text : Bytes) : Settled (judgeVersion text) :=
  Settled.ite _ (Settled.of_found Version.http10)
    (Settled.ite _ (Settled.of_found Version.http11) (Settled.of_wrong HeadLinesError.version))

theorem scanVersion_append {text : Bytes} (whole : text.length = 8) (rest : Bytes) :
    scanVersion (text ++ rest) = judgeVersion text rest := by
  have front : (text ++ rest).take 8 = text := by
    rw [← whole, List.take_left]
  have after : (text ++ rest).drop 8 = rest := by
    rw [← whole, List.drop_left]
  simp only [scanVersion, front, after, whole, Nat.lt_irrefl, if_false, judgeVersion]

theorem scanVersion_of_short {bytes : Bytes} (short : bytes.length < 8) :
    scanVersion bytes =
      if bytes == versionStart.take bytes.length then .partly else .wrong .version := by
  have cut : bytes.take 8 = bytes := List.take_of_length_le (by omega)
  simp only [scanVersion, cut, short, if_true]

theorem settled_scanVersion : Settled scanVersion := by
  have eight {bytes : Bytes} (long : ¬ bytes.length < 8) :
      (bytes.take 8).length = 8 ∧ bytes = bytes.take 8 ++ bytes.drop 8 := by
    constructor
    · rw [List.length_take]
      omega
    · exact (List.take_append_drop 8 bytes).symm
  constructor
  · intro bytes rest version found
    by_cases short : bytes.length < 8
    · rw [scanVersion_of_short short] at found
      split at found <;> simp at found
    · obtain ⟨whole, cut⟩ := eight short
      rw [cut, scanVersion_append whole] at found
      obtain ⟨used, cutRest, again⟩ := (settled_judgeVersion _).found found
      refine ⟨bytes.take 8 ++ used, ?_, ?_⟩
      · rw [List.append_assoc, ← cutRest]
        exact cut
      · intro more
        rw [List.append_assoc, scanVersion_append whole]
        exact again more
  · intro bytes error wrong more
    by_cases short : bytes.length < 8
    · rw [scanVersion_of_short short] at wrong
      split at wrong
      · simp at wrong
      · rename_i differs
        rw [← wrong]
        exact scanVersion_append_of_mismatch short (by simpa using differs) more
    · obtain ⟨whole, cut⟩ := eight short
      rw [cut, scanVersion_append whole] at wrong
      rw [cut, List.append_assoc, scanVersion_append whole]
      exact (settled_judgeVersion _).wrong wrong more

/-! ## Field lines -/

/-- The value of a field line, with the blanks before it and the line ending after it. -/
theorem settled_fieldValue (name : Bytes) :
    Settled (fun rest =>
      (scanLineEnd .fieldValue
          ((rest.dropWhile Bytes.isBlank).dropWhile Bytes.isFieldValue)).map fun _ =>
        (name, Bytes.trimRight ((rest.dropWhile Bytes.isBlank).takeWhile Bytes.isFieldValue))) := by
  have nothing (front : Bytes) :
      (scanLineEnd .fieldValue []).map (fun _ => (name, Bytes.trimRight front)) = .partly :=
    rfl
  have value : Settled (fun content : Bytes =>
      (scanLineEnd .fieldValue (content.dropWhile Bytes.isFieldValue)).map fun _ =>
        (name, Bytes.trimRight (content.takeWhile Bytes.isFieldValue))) := by
    apply Settled.afterRun Bytes.isFieldValue
      (fun value rest =>
        (scanLineEnd .fieldValue rest).map fun _ => (name, Bytes.trimRight value))
    · exact nothing
    · intro front mark _
      exact ((settled_scanLineEnd .fieldValue).cons rfl mark).map _
  apply Settled.afterRun Bytes.isBlank
    (fun _ content =>
      (scanLineEnd .fieldValue (content.dropWhile Bytes.isFieldValue)).map fun _ =>
        (name, Bytes.trimRight (content.takeWhile Bytes.isFieldValue)))
  · intro front
    exact nothing []
  · intro front mark _
    exact value.cons (nothing []) mark

theorem settled_scanField : Settled scanField := by
  apply Settled.afterMark Bytes.isToken
    (fun name mark rest =>
      if mark == Target.colon && !name.isEmpty then
        (scanLineEnd .fieldValue
            ((rest.dropWhile Bytes.isBlank).dropWhile Bytes.isFieldValue)).map fun _ =>
          (name, Bytes.trimRight ((rest.dropWhile Bytes.isBlank).takeWhile Bytes.isFieldValue))
      else .wrong HeadLinesError.fieldName)
  intro name mark
  exact Settled.ite _ (settled_fieldValue name) (Settled.of_wrong HeadLinesError.fieldName)

/-- What follows a field line where `room` further lines are allowed. -/
def furtherFields (room : Nat) (line : Bytes × Bytes) (rest : Bytes) :
    Scanned (List (Bytes × Bytes)) :=
  match room with
  | 0 => .wrong .tooManyFields
  | room + 1 => (scanFields room rest).map (line :: ·)

theorem scanFields_cons (room : Nat) (first : UInt8) (rest : Bytes) :
    scanFields room (first :: rest) =
      if first == Bytes.lineFeed || first == Bytes.carriageReturn then
        (scanLineEnd .newLine (first :: rest)).map fun _ => []
      else (scanField (first :: rest)).andThen (furtherFields room) := by
  rw [scanFields.eq_def]
  by_cases ends : (first == Bytes.lineFeed || first == Bytes.carriageReturn) = true
  · simp only [ends, if_true]
  · simp only [ends, Bool.false_eq_true, if_false]
    cases verdict : scanField (first :: rest) with
    | found line after =>
        cases room <;> simp only [Scan.andThen, furtherFields]
    | partly =>
        simp only [Scan.andThen]
    | wrong error =>
        simp only [Scan.andThen]

theorem settled_scanFields_of_further {room : Nat}
    (settled : ∀ line, Settled (furtherFields room line)) :
    Settled (scanFields room) := by
  apply Settled.of_cons (by rw [scanFields.eq_def])
  intro first
  simp only [scanFields_cons]
  apply Settled.ite
  · exact ((settled_scanLineEnd .newLine).cons rfl first).map _
  · exact (settled_scanField.cons rfl first).andThen settled

theorem settled_scanFields (room : Nat) : Settled (scanFields room) := by
  induction room with
  | zero =>
      apply settled_scanFields_of_further
      intro line
      exact Settled.of_wrong HeadLinesError.tooManyFields
  | succ room inductionHypothesis =>
      apply settled_scanFields_of_further
      intro line
      exact inductionHypothesis.map _

/-! ## The whole head -/

/-- What follows the blank lines before a request line. -/
def scanAfterBlank (bytes : Bytes) : Scanned HeadLines :=
  (scanMethod bytes).andThen fun method rest =>
  (scanTarget rest).andThen fun target rest =>
  (scanVersion rest).andThen fun version rest =>
  (scanLineEnd .newLine rest).andThen fun _ rest =>
  (scanFields maximumFields rest).map fun fields => { method, target, version, fields }

theorem settled_scanAfterBlank : Settled scanAfterBlank := by
  apply settled_scanMethod.andThen
  intro method
  apply settled_scanTarget.andThen
  intro target
  apply settled_scanVersion.andThen
  intro version
  apply (settled_scanLineEnd .newLine).andThen
  intro _
  exact (settled_scanFields maximumFields).map _

/-- Blank lines end where an octet stands that begins no line ending; with that octet before it,
anything may follow them. -/
theorem skipBlankLines_found {bytes rest : Bytes}
    (found : skipBlankLines bytes = .found () rest) :
    ∃ blank first tail, bytes = blank ++ rest ∧ rest = first :: tail ∧
      ∀ more, skipBlankLines (blank ++ first :: more) = .found () (first :: more) := by
  fun_induction skipBlankLines bytes with
  | case1 =>
      simp at found
  | case2 first tail feed inductionHypothesis =>
      obtain ⟨blank, mark, others, cut, begins, again⟩ := inductionHypothesis found
      refine ⟨first :: blank, mark, others, by simp [cut], begins, ?_⟩
      intro more
      rw [List.cons_append, skipBlankLines.eq_def]
      simp only [feed, if_true]
      exact again more
  | case3 =>
      simp at found
  | case4 first noFeed carriage second tail feed inductionHypothesis =>
      obtain ⟨blank, mark, others, cut, begins, again⟩ := inductionHypothesis found
      refine ⟨first :: second :: blank, mark, others, by simp [cut], begins, ?_⟩
      intro more
      rw [List.cons_append, List.cons_append, skipBlankLines.eq_def]
      simp only [noFeed, carriage, feed, if_true, Bool.false_eq_true, if_false]
      exact again more
  | case5 =>
      simp at found
  | case6 first tail noFeed noCarriage =>
      simp only [Scan.found.injEq, true_and] at found
      refine ⟨[], first, tail, by simp [found], found.symm, ?_⟩
      intro more
      rw [List.nil_append, skipBlankLines.eq_def]
      simp only [noFeed, noCarriage, Bool.false_eq_true, if_false]

theorem skipBlankLines_wrong {bytes : Bytes} {error : HeadLinesError}
    (wrong : skipBlankLines bytes = .wrong error) (more : Bytes) :
    skipBlankLines (bytes ++ more) = .wrong error := by
  fun_induction skipBlankLines bytes with
  | case1 =>
      simp at wrong
  | case2 first tail feed inductionHypothesis =>
      rw [List.cons_append, skipBlankLines.eq_def]
      simp only [feed, if_true]
      exact inductionHypothesis wrong
  | case3 =>
      simp at wrong
  | case4 first noFeed carriage second tail feed inductionHypothesis =>
      rw [List.cons_append, List.cons_append, skipBlankLines.eq_def]
      simp only [noFeed, carriage, feed, if_true, Bool.false_eq_true, if_false]
      exact inductionHypothesis wrong
  | case5 first noFeed carriage second tail noSecondFeed =>
      rw [List.cons_append, List.cons_append, skipBlankLines.eq_def]
      simp only [noFeed, carriage, noSecondFeed, if_true, Bool.false_eq_true, if_false]
      exact wrong
  | case6 =>
      simp at wrong

/-- Blank lines in front of what is settled and not there yet on nothing. -/
theorem settled_afterBlankLines {α : Type} {next : Bytes → Scanned α} (settled : Settled next)
    (nothing : next [] = .partly) :
    Settled (fun bytes => (skipBlankLines bytes).andThen fun _ rest => next rest) := by
  constructor
  · intro bytes rest item found
    cases blankness : skipBlankLines bytes with
    | found _ after =>
        simp only [blankness, Scan.andThen] at found
        obtain ⟨blank, first, tail, cut, begins, again⟩ := skipBlankLines_found blankness
        rw [begins] at found
        obtain ⟨used, cutTail, againAfter⟩ := (settled.cons nothing first).found found
        refine ⟨blank ++ first :: used, by simp [cut, begins, cutTail], ?_⟩
        intro more
        have joined : blank ++ first :: used ++ more = blank ++ first :: (used ++ more) := by
          simp
        simp only [joined, again]
        exact againAfter more
    | partly =>
        simp [blankness, Scan.andThen] at found
    | wrong error =>
        simp [blankness, Scan.andThen] at found
  · intro bytes error wrong more
    cases blankness : skipBlankLines bytes with
    | found _ after =>
        simp only [blankness, Scan.andThen] at wrong
        obtain ⟨blank, first, tail, cut, begins, again⟩ := skipBlankLines_found blankness
        rw [begins] at wrong
        have joined : bytes ++ more = blank ++ first :: (tail ++ more) := by
          simp [cut, begins]
        simp only [joined, again]
        exact (settled.cons nothing first).wrong wrong more
    | partly =>
        simp [blankness, Scan.andThen] at wrong
    | wrong inner =>
        simp only [blankness, Scan.andThen, Scan.wrong.injEq] at wrong
        subst wrong
        simp only [skipBlankLines_wrong blankness more, Scan.andThen]

theorem settled_scan : Settled scan :=
  settled_afterBlankLines settled_scanAfterBlank rfl

theorem scan_append {octets : Bytes} {lines : HeadLines} (scanned : scan octets = .found lines [])
    (more : Bytes) :
    scan (octets ++ more) = .found lines more := by
  obtain ⟨used, cut, again⟩ := settled_scan.found scanned
  rw [cut, List.append_nil]
  exact again more

end HeadLines

/-- The octets are the lines of this head and nothing more. -/
def RequestHead.IsSpelledBy (head : RequestHead) (octets : Bytes) : Prop :=
  ∃ lines, HeadLines.scan octets = .found lines [] ∧ RequestHead.ofLines lines = .ok head

/-! ## The head as an attempt -/

namespace Reader

/-- On fewer octets than the bound on heads, a head is judged for good. -/
theorem settledBelow_scanHead (limits : Limits) :
    Attempt.SettledBelow limits.head (scanHead limits) := by
  constructor
  · intro bytes rest head found
    cases verdict : HeadLines.scan bytes with
    | found lines after =>
        obtain ⟨used, cut, again⟩ := HeadLines.settled_scan.found verdict
        simp only [scanHead, verdict] at found
        cases reading : RequestHead.ofLines lines with
        | ok spelled =>
            simp only [reading, Attempt.found.injEq] at found
            obtain ⟨rfl, rfl⟩ := found
            refine ⟨used, cut, ?_⟩
            intro more
            simp only [scanHead, again more, reading]
        | error error =>
            simp [reading, Attempt.refused] at found
    | partly =>
        simp only [scanHead, verdict] at found
        split at found <;> simp [Attempt.refused] at found
    | wrong error =>
        simp [scanHead, verdict, Attempt.refused] at found
  · intro bytes failure short failed more
    cases verdict : HeadLines.scan bytes with
    | found lines after =>
        obtain ⟨used, cut, again⟩ := HeadLines.settled_scan.found verdict
        simp only [scanHead, verdict] at failed
        rw [cut, List.append_assoc]
        simp only [scanHead, again]
        cases reading : RequestHead.ofLines lines with
        | ok spelled =>
            simp [reading] at failed
        | error error =>
            simpa only [reading] using failed
    | partly =>
        simp only [scanHead, verdict, Nat.not_le.mpr short, if_false] at failed
        simp at failed
    | wrong error =>
        simp only [scanHead, verdict] at failed
        simpa only [scanHead, HeadLines.settled_scan.wrong verdict more] using failed

/-- A head is found, refused, or waited for octet by octet, the last only below the bound. -/
theorem scanHead_cases (limits : Limits) (bytes : Bytes) :
    (∃ head rest, scanHead limits bytes = .found head rest) ∨
      (∃ error, scanHead limits bytes = .failed (.refused error)) ∨
      scanHead limits bytes = .wait 0 ∧ bytes.length < limits.head := by
  unfold scanHead
  split
  · split
    · exact Or.inl ⟨_, _, rfl⟩
    · exact Or.inr (Or.inl ⟨_, rfl⟩)
  · exact Or.inr (Or.inl ⟨_, rfl⟩)
  · split
    · exact Or.inr (Or.inl ⟨_, rfl⟩)
    · rename_i below
      exact Or.inr (Or.inr ⟨rfl, Nat.not_le.mp below⟩)

theorem below_of_scanHead_wait {limits : Limits} {bytes : Bytes} {wanted : Nat}
    (waits : scanHead limits bytes = .wait wanted) :
    wanted = 0 ∧ bytes.length < limits.head := by
  rcases scanHead_cases limits bytes with ⟨head, rest, found⟩ | ⟨error, refused⟩ | ⟨same, below⟩
  · simp [found] at waits
  · simp [refused] at waits
  · rw [same, Attempt.wait.injEq] at waits
    exact ⟨waits.symm, below⟩

theorem modest_scanHead (limits : Limits) (octets : Bytes) :
    Attempt.Modest octets.length (scanHead limits) octets := by
  constructor
  · intro front more wanted cut waits
    rw [(below_of_scanHead_wait waits).1, cut, List.length_append]
    exact ⟨Nat.zero_le _, Nat.le_add_right _ _⟩
  · intro front more error _ failed
    rcases scanHead_cases limits front with
      ⟨head, rest, found⟩ | ⟨refusal, refused⟩ | ⟨waits, -⟩
    · simp [found] at failed
    · simp [refused] at failed
    · simp [waits] at failed

/-! ## The head at the front of what is unused -/

variable {limits : Limits} {octets : Bytes}

theorem scanHead_of_isSpelledBy {head : RequestHead} (spelled : head.IsSpelledBy octets)
    (more : Bytes) :
    scanHead limits (octets ++ more) = .found head more := by
  obtain ⟨lines, scanned, read⟩ := spelled
  have again := HeadLines.scan_append scanned more
  simp only [scanHead, again, read]

/-- A head that is not all there is waited for, unless what is there fills the bound on heads. -/
theorem scanHead_of_front {lines : HeadLines} {front tail : Bytes}
    (scanned : HeadLines.scan octets = .found lines []) (cut : octets = front ++ tail)
    (strict : tail ≠ []) :
    scanHead limits front =
      if limits.head ≤ front.length then .refused (.headTooLarge limits.head) else .wait 0 := by
  rw [cut] at scanned
  have waits := HeadLines.settled_scan.partly_of_front scanned strict
  simp only [scanHead, waits]

/-- A head that is not longer than the bound on heads is found once it is all there. -/
theorem spells_of_isSpelledBy {head : RequestHead} (spelled : head.IsSpelledBy octets)
    (within : octets.length ≤ limits.head) :
    Attempt.Spells 0 (scanHead limits) octets head := by
  constructor
  · exact scanHead_of_isSpelledBy spelled
  · intro front tail cut strict
    obtain ⟨lines, scanned, -⟩ := spelled
    have shorter : ¬ limits.head ≤ front.length := by
      have positive := List.length_pos_iff.mpr strict
      rw [cut, List.length_append] at within
      omega
    refine ⟨0, Nat.zero_le _, ?_⟩
    rw [scanHead_of_front scanned cut strict, if_neg shorter]

end Reader

end HttpServer
