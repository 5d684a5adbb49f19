import HttpServer.Body.Framing
import HttpServer.Proofs.Settled

/-!
# The scan of a body is settled

A size line is recognised by the mark after its digits and by its line ending, a chunk by its size,
and the trailer by its empty line. On fewer octets than the bound on heads, no unfinished line is
too long, so what the scan of a body decides there stays decided.
-/

namespace HttpServer

namespace Chunked

open Scan

/-! ## Size lines -/

@[simp]
theorem scanSizeEnd_nil (size : Nat) : scanSizeEnd size [] = .partly :=
  rfl

theorem settled_scanSizeEnd (size : Nat) : Settled (scanSizeEnd size) := by
  apply Settled.of_cons (scanSizeEnd_nil size)
  intro first
  simp only [scanSizeEnd]
  apply Settled.ite
  · apply Settled.of_cons rfl
    intro second
    exact Settled.ite _ (Settled.of_found size) (Settled.of_wrong ())
  · exact Settled.of_wrong ()

/-- What follows the digits of a size line. -/
def scanAfterDigits (size : Nat) (bytes : Bytes) : Scan Unit Nat :=
  match bytes.dropWhile Bytes.isBlank with
  | [] => .partly
  | first :: rest =>
    if first == semicolon then scanSizeEnd size (rest.dropWhile (· != Bytes.carriageReturn))
    else scanSizeEnd size (first :: rest)

theorem settled_scanAfterDigits (size : Nat) : Settled (scanAfterDigits size) := by
  apply Settled.afterMark Bytes.isBlank
    (fun _ first rest =>
      if first == semicolon then scanSizeEnd size (rest.dropWhile (· != Bytes.carriageReturn))
      else scanSizeEnd size (first :: rest))
  intro front first
  apply Settled.ite
  · apply Settled.afterRun (· != Bytes.carriageReturn)
      (fun _ rest => scanSizeEnd size rest)
    · intro front
      rfl
    · intro front mark _
      exact (settled_scanSizeEnd size).cons rfl mark
  · exact (settled_scanSizeEnd size).cons rfl first

theorem settled_scanSize : Settled scanSize := by
  apply Settled.afterJudgedRun Numeral.isHexDigit
    (fun digits rest =>
      if maximumDigits < digits.length then .wrong ()
      else scanAfterDigits (Numeral.hexValue digits) rest)
  · intro digits rest size
    split
    · simp
    · simp [scanAfterDigits]
  · intro digits error wrong more rest
    split at wrong
    · rename_i long
      have longer : maximumDigits < (digits ++ more).length := by
        rw [List.length_append]
        omega
      simp only [longer, if_true]
    · simp [scanAfterDigits] at wrong
  · intro digits mark _
    split
    · exact Settled.of_wrong ()
    · exact (settled_scanAfterDigits _).cons rfl mark

/-! ## Trailers -/

/-- The first line ending decides where the first line ends. -/
theorem afterLine_settled {bytes rest : Bytes} (found : Bytes.afterLine bytes = some rest) :
    ∃ line, bytes = line ++ rest ∧ 2 ≤ line.length ∧
      ∀ more, Bytes.afterLine (line ++ more) = some more := by
  fun_induction Bytes.afterLine bytes with
  | case1 tail =>
      simp only [Option.some.injEq] at found
      subst found
      exact ⟨Bytes.lineEnd, rfl, by decide, fun more => rfl⟩
  | case2 first tail notEnd inductionHypothesis =>
      obtain ⟨line, cut, long, again⟩ := inductionHypothesis found
      refine ⟨first :: line, by simp [cut], by simp; omega, ?_⟩
      intro more
      rw [List.cons_append, Bytes.afterLine.eq_def]
      split
      · rename_i after same
        simp only [List.cons.injEq] at same
        cases line with
        | nil =>
            simp at long
        | cons second others =>
            simp only [List.cons_append, List.cons.injEq] at same cut
            obtain ⟨carriage, feed, -⟩ := same
            exact (notEnd (others ++ rest) carriage (by rw [cut, feed])).elim
      · rename_i same
        simp only [List.cons.injEq] at same
        rw [← same.2]
        exact again more
      · rename_i same
        simp at same
  | case3 =>
      simp at found

/-- The scan of trailers without the record of how their first line was found. -/
theorem scanTrailers_eq (limits : Limits) (bytes : Bytes) :
    scanTrailers limits bytes =
      match Bytes.afterLine bytes with
      | none =>
        if limits.head < bytes.length then .refused (.headTooLarge limits.head) else .wait 0
      | some rest =>
        if bytes.length = rest.length + 2 then .found [] rest else scanTrailers limits rest := by
  rw [scanTrailers]
  split <;> simp_all

theorem settledBelow_scanTrailers (limits : Limits) :
    Attempt.SettledBelow limits.head (scanTrailers limits) := by
  constructor
  · intro bytes rest nothing found
    fun_induction scanTrailers limits bytes with
    | case1 | case2 =>
        simp [Attempt.refused] at found
    | case3 bytes after line short =>
        simp only [Attempt.found.injEq] at found
        obtain ⟨rfl, rfl⟩ := found
        obtain ⟨ending, cut, -, again⟩ := afterLine_settled line
        have two : ending.length = 2 := by
          rw [cut, List.length_append] at short
          omega
        refine ⟨ending, cut, ?_⟩
        intro more
        rw [scanTrailers_eq, again]
        simp [two, Nat.add_comm]
    | case4 bytes after line long inductionHypothesis =>
        obtain ⟨ending, cut, -, again⟩ := afterLine_settled line
        obtain ⟨used, cutAfter, againAfter⟩ := inductionHypothesis found
        refine ⟨ending ++ used, by rw [List.append_assoc, ← cutAfter, ← cut], ?_⟩
        intro more
        have notTwo : ¬ (ending ++ (used ++ more)).length = (used ++ more).length + 2 := by
          rw [cut] at long
          simp only [List.length_append] at long ⊢
          omega
        rw [List.append_assoc, scanTrailers_eq, again]
        simp only [notTwo, if_false]
        exact againAfter more
  · intro bytes failure short failed more
    fun_induction scanTrailers limits bytes with
    | case1 bytes unended long =>
        omega
    | case2 | case3 =>
        simp at failed
    | case4 bytes after line long inductionHypothesis =>
        obtain ⟨ending, cut, -, again⟩ := afterLine_settled line
        have shorter : after.length < limits.head := by
          rw [cut, List.length_append] at short
          omega
        have notTwo : ¬ (ending ++ (after ++ more)).length = (after ++ more).length + 2 := by
          rw [cut] at long
          simp only [List.length_append] at long ⊢
          omega
        conv => lhs; rw [cut]
        rw [List.append_assoc, scanTrailers_eq, again]
        simp only [notTwo, if_false]
        exact inductionHypothesis shorter failed

/-! ## Chunks -/

/-- The scan of what follows a size line that promises `size` octets and ends `start` octets into
the buffer. -/
def scanData (limits : Limits) (start decoded size : Nat) (rest : Bytes) : Attempt Bytes :=
  if !fits limits decoded size then .refused (.bodyTooLarge limits.body)
  else if wordSize ≤ start + size + 2 then .failed (.fault .offsetOverflow)
  else if rest.length < size + 2 then .wait (start + size + 2)
  else if (rest.drop size).take 2 == Bytes.lineEnd then
    (scanChunks limits (start + size + 2) (decoded + size) (rest.drop (size + 2))).map
      (rest.take size ++ ·)
  else .refused .invalidChunk

theorem scanChunks_of_size {limits : Limits} {passed decoded size : Nat} {line rest : Bytes}
    (spelt : scanSize (line ++ rest) = .found size rest) :
    scanChunks limits passed decoded (line ++ rest) =
      if size = 0 then scanTrailers limits rest
      else scanData limits (passed + line.length) decoded size rest := by
  have lineLength : (line ++ rest).length - rest.length = line.length := by
    rw [List.length_append]
    omega
  have cutRest {size : Nat} {first second : UInt8} {tail : Bytes}
      (cut : rest.drop size = first :: second :: tail) :
      size + 2 ≤ rest.length ∧ (rest.drop size).take 2 = [first, second] ∧
        rest.drop (size + 2) = tail := by
    refine ⟨?_, by rw [cut]; rfl, by rw [← List.drop_drop, cut]; rfl⟩
    have long := congrArg List.length cut
    simp only [List.length_drop, List.length_cons] at long
    omega
  fun_cases scanChunks limits passed decoded (line ++ rest) with
  | case1 error verdict =>
      simp [spelt] at verdict
  | case2 verdict | case3 verdict =>
      simp [spelt] at verdict
  | case4 after verdict =>
      simp only [spelt, Scan.found.injEq] at verdict
      obtain ⟨rfl, rfl⟩ := verdict
      simp
  | case5 given after verdict some large =>
      simp only [spelt, Scan.found.injEq] at verdict
      obtain ⟨rfl, rfl⟩ := verdict
      simp only [some, large, scanData, if_true, if_false]
  | case6 given after verdict some allowed start stop far =>
      simp only [spelt, Scan.found.injEq] at verdict
      obtain ⟨rfl, rfl⟩ := verdict
      simp only [stop, start, lineLength] at far
      simp only [some, allowed, scanData, far, if_true, if_false, Bool.false_eq_true]
  | case7 given after verdict some allowed start stop near short =>
      simp only [spelt, Scan.found.injEq] at verdict
      obtain ⟨rfl, rfl⟩ := verdict
      simp only [stop, start, lineLength] at near short ⊢
      have few : rest.length < size + 2 := by
        rw [List.length_append] at short
        omega
      simp only [some, allowed, scanData, near, few, if_true, if_false, Bool.false_eq_true]
  | case8 given after verdict some allowed start stop near enough first second tail cut ends =>
      simp only [spelt, Scan.found.injEq] at verdict
      obtain ⟨rfl, rfl⟩ := verdict
      simp only [stop, start, lineLength] at near ⊢
      obtain ⟨long, mark, behind⟩ := cutRest cut
      simp only [some, allowed, scanData, near, Nat.not_lt.mpr long, mark, ends, behind, if_true,
        if_false, Bool.false_eq_true]
  | case9 given after verdict some allowed start stop near enough first second tail cut differs =>
      simp only [spelt, Scan.found.injEq] at verdict
      obtain ⟨rfl, rfl⟩ := verdict
      simp only [stop, start, lineLength] at near
      obtain ⟨long, mark, behind⟩ := cutRest cut
      simp only [some, allowed, scanData, near, Nat.not_lt.mpr long, mark, differs, if_false,
        Bool.false_eq_true]
  | case10 given after verdict some allowed start stop near enough few =>
      simp only [spelt, Scan.found.injEq] at verdict
      obtain ⟨rfl, rfl⟩ := verdict
      simp only [stop, start, lineLength] at enough
      rw [List.length_append] at enough
      exfalso
      have long : 2 ≤ (rest.drop size).length := by
        rw [List.length_drop]
        omega
      match cut : rest.drop size, long with
      | first :: second :: tail, _ =>
          exact few first second tail cut

/-- More octets behind a chunk that has arrived whole are left to what comes after it. -/
theorem scanData_append {limits : Limits} {start decoded size : Nat} {rest : Bytes}
    (arrived : size + 2 ≤ rest.length) (more : Bytes) :
    scanData limits start decoded size (rest ++ more) =
      if !fits limits decoded size then .refused (.bodyTooLarge limits.body)
      else if wordSize ≤ start + size + 2 then .failed (.fault .offsetOverflow)
      else if (rest.drop size).take 2 == Bytes.lineEnd then
        (scanChunks limits (start + size + 2) (decoded + size)
          (rest.drop (size + 2) ++ more)).map (rest.take size ++ ·)
      else .refused .invalidChunk := by
  have front : (rest ++ more).take size = rest.take size :=
    List.take_append_of_le_length (by omega)
  have mark : ((rest ++ more).drop size).take 2 = (rest.drop size).take 2 := by
    rw [List.drop_append_of_le_length (by omega)]
    apply List.take_append_of_le_length
    rw [List.length_drop]
    omega
  have behind : (rest ++ more).drop (size + 2) = rest.drop (size + 2) ++ more :=
    List.drop_append_of_le_length (by omega)
  have long : ¬ (rest ++ more).length < size + 2 := by
    rw [List.length_append]
    omega
  simp only [scanData, front, mark, behind, long, if_false]

theorem scanChunks_of_wrong {limits : Limits} {passed decoded : Nat} {ahead : Bytes}
    {error : Unit} (spelt : scanSize ahead = .wrong error) :
    scanChunks limits passed decoded ahead = .refused .invalidChunk := by
  rw [scanChunks.eq_def]
  split <;> simp_all

theorem scanChunks_of_partly {limits : Limits} {passed decoded : Nat} {ahead : Bytes}
    (spelt : scanSize ahead = .partly) :
    scanChunks limits passed decoded ahead =
      if limits.head < ahead.length then .refused .invalidChunk else .wait 0 := by
  rw [scanChunks.eq_def]
  split <;> simp_all

theorem scanSize_of_found {limits : Limits} {passed decoded : Nat} {ahead body rest : Bytes}
    (found : scanChunks limits passed decoded ahead = .found body rest) :
    ∃ size after, scanSize ahead = .found size after := by
  cases verdict : scanSize ahead with
  | found size after =>
      exact ⟨size, after, rfl⟩
  | partly =>
      rw [scanChunks_of_partly verdict] at found
      split at found <;> simp [Attempt.refused] at found
  | wrong error =>
      simp [scanChunks_of_wrong verdict, Attempt.refused] at found

theorem scanData_found {limits : Limits} {start decoded size : Nat} {after body rest : Bytes}
    (found : scanData limits start decoded size after = .found body rest) :
    size + 2 ≤ after.length ∧ fits limits decoded size = true ∧
      start + size + 2 < wordSize ∧ (after.drop size).take 2 = Bytes.lineEnd ∧
      ∃ tail, scanChunks limits (start + size + 2) (decoded + size) (after.drop (size + 2)) =
        .found tail rest ∧ body = after.take size ++ tail := by
  unfold scanData at found
  split at found
  · simp [Attempt.refused] at found
  · split at found
    · simp at found
    · split at found
      · simp at found
      · split at found
        · rename_i allowed near long ends
          refine ⟨by omega, by simpa using allowed, by omega, by simpa using ends, ?_⟩
          cases verdict : scanChunks limits (start + size + 2) (decoded + size)
              (after.drop (size + 2)) with
          | found tail behind =>
              simp only [verdict, Attempt.map, Attempt.found.injEq] at found
              obtain ⟨rfl, rfl⟩ := found
              exact ⟨tail, rfl, rfl⟩
          | wait wanted =>
              simp [verdict, Attempt.map] at found
          | failed failure =>
              simp [verdict, Attempt.map] at found
        · simp [Attempt.refused] at found

theorem fits_of_near {limits : Limits} {start decoded size : Nat}
    (allowed : fits limits decoded size = true) (behind : decoded ≤ start)
    (near : start + size + 2 < wordSize) :
    decoded + size ≤ limits.body := by
  simp only [fits, decide_eq_true_eq] at allowed
  omega

theorem le_of_fits {limits : Limits} {decoded size : Nat}
    (allowed : fits limits decoded size = true) (small : size < wordSize) :
    size ≤ limits.body := by
  simp only [fits, decide_eq_true_eq] at allowed
  omega

/-- Behind a size line the scan waits for all of the chunk, or has passed over it. -/
theorem scanData_wait {limits : Limits} {start decoded size wanted : Nat} {after : Bytes}
    (waits : scanData limits start decoded size after = .wait wanted) :
    fits limits decoded size = true ∧ start + size + 2 < wordSize ∧
      (after.length < size + 2 ∧ wanted = start + size + 2 ∨
        size + 2 ≤ after.length ∧ (after.drop size).take 2 = Bytes.lineEnd ∧
          scanChunks limits (start + size + 2) (decoded + size) (after.drop (size + 2)) =
            .wait wanted) := by
  unfold scanData at waits
  split at waits
  · simp [Attempt.refused] at waits
  · split at waits
    · simp at waits
    · rename_i allowed near
      refine ⟨by simpa using allowed, by omega, ?_⟩
      split at waits
      · rename_i short
        exact Or.inl ⟨short, (Attempt.wait.inj waits).symm⟩
      · split at waits
        · rename_i arrived ends
          refine Or.inr ⟨by omega, by simpa using ends, ?_⟩
          cases verdict : scanChunks limits (start + size + 2) (decoded + size)
              (after.drop (size + 2)) with
          | found tail behind =>
              simp [verdict, Attempt.map] at waits
          | wait inner =>
              simpa [verdict, Attempt.map] using waits
          | failed failure =>
              simp [verdict, Attempt.map] at waits
        · simp [Attempt.refused] at waits

/-- A failure behind a size line stays one when the rest of the body fails for good. -/
theorem scanData_failed_append {limits : Limits} {start decoded size : Nat} {after more : Bytes}
    {failure : ReadFailure}
    (failed : scanData limits start decoded size after = .failed failure)
    (forGood : ∀ {inner},
      scanChunks limits (start + size + 2) (decoded + size) (after.drop (size + 2)) =
        .failed inner →
      scanChunks limits (start + size + 2) (decoded + size) (after.drop (size + 2) ++ more) =
        .failed inner) :
    scanData limits start decoded size (after ++ more) = .failed failure := by
  by_cases allowed : fits limits decoded size = true
  · by_cases far : wordSize ≤ start + size + 2
    · simpa only [scanData, allowed, far, Bool.not_true, Bool.false_eq_true, if_false, if_true]
        using failed
    · by_cases short : after.length < size + 2
      · simp [scanData, allowed, far, short] at failed
      · rw [scanData_append (by omega)]
        by_cases ends : ((after.drop size).take 2 == Bytes.lineEnd) = true
        · simp only [scanData, allowed, far, short, ends, Bool.not_true, Bool.false_eq_true,
            if_false, if_true] at failed ⊢
          cases behind : scanChunks limits (start + size + 2) (decoded + size)
              (after.drop (size + 2)) with
          | found tail rest =>
              simp [behind, Attempt.map] at failed
          | wait wanted =>
              simp [behind, Attempt.map] at failed
          | failed inner =>
              rw [behind] at failed
              rw [forGood behind]
              exact failed
        · simpa only [scanData, allowed, far, short, ends, Bool.not_true, Bool.false_eq_true,
            if_false] using failed
  · simpa only [scanData, allowed, Bool.not_false, if_true] using failed

theorem scanChunks_found {limits : Limits} {body rest : Bytes} :
    ∀ {ahead : Bytes} {passed decoded : Nat},
      scanChunks limits passed decoded ahead = .found body rest →
        ∃ used, ahead = used ++ rest ∧
          ∀ more, scanChunks limits passed decoded (used ++ more) = .found body more := by
  intro ahead
  induction length : ahead.length using Nat.strong_induction_on generalizing ahead body with
  | _ _ inductionHypothesis =>
    intro passed decoded found
    obtain ⟨size, after, spelt⟩ := scanSize_of_found found
    obtain ⟨line, cut, again⟩ := settled_scanSize.found spelt
    subst cut
    rw [scanChunks_of_size spelt] at found
    by_cases last : size = 0
    · simp only [last, if_true] at found
      obtain ⟨used, cutAfter, againAfter⟩ := (settledBelow_scanTrailers limits).found found
      refine ⟨line ++ used, by rw [List.append_assoc, ← cutAfter], ?_⟩
      intro more
      rw [List.append_assoc, scanChunks_of_size (again _)]
      simp only [last, if_true]
      exact againAfter more
    · simp only [last, if_false] at found
      obtain ⟨arrived, allowed, near, ends, tail, foundTail, joined⟩ := scanData_found found
      have shorter := length_of_scanSize spelt
      have fewer : (after.drop (size + 2)).length < (line ++ after).length := by
        rw [List.length_drop]
        omega
      obtain ⟨used, cutTail, againTail⟩ :=
        inductionHypothesis _ (length ▸ fewer) rfl foundTail
      have chunk : (after.take (size + 2)).length = size + 2 := by
        rw [List.length_take]
        omega
      have parts : (after.take (size + 2)).take size = after.take size ∧
          ((after.take (size + 2)).drop size).take 2 = Bytes.lineEnd ∧
          (after.take (size + 2)).drop (size + 2) = [] := by
        refine ⟨by rw [List.take_take, Nat.min_eq_left (by omega)], ?_, by simp⟩
        rw [List.drop_take, List.take_take, ← ends]
        congr 1
        omega
      refine ⟨line ++ (after.take (size + 2) ++ used), ?_, ?_⟩
      · rw [List.append_assoc, List.append_assoc, ← cutTail, List.take_append_drop]
      · intro more
        rw [List.append_assoc, List.append_assoc, scanChunks_of_size (again _),
          scanData_append (by omega)]
        simp only [last, allowed, Nat.not_le.mpr near, parts, List.nil_append, againTail more,
          Attempt.map, joined, if_false, Bool.not_true, Bool.false_eq_true, beq_self_eq_true,
          if_true]

theorem scanChunks_failed {limits : Limits} :
    ∀ {ahead : Bytes} {passed decoded : Nat} {failure : ReadFailure}, ahead.length < limits.head →
      scanChunks limits passed decoded ahead = .failed failure →
        ∀ more, scanChunks limits passed decoded (ahead ++ more) = .failed failure := by
  intro ahead
  induction length : ahead.length using Nat.strong_induction_on generalizing ahead with
  | _ _ inductionHypothesis =>
    intro passed decoded failure short failed more
    subst length
    cases verdict : scanSize ahead with
    | partly =>
        rw [scanChunks_of_partly verdict, if_neg (by omega)] at failed
        simp at failed
    | wrong error =>
        rw [scanChunks_of_wrong verdict] at failed
        rw [scanChunks_of_wrong (settled_scanSize.wrong verdict more)]
        exact failed
    | found size after =>
        obtain ⟨line, cut, again⟩ := settled_scanSize.found verdict
        subst cut
        rw [scanChunks_of_size verdict] at failed
        rw [List.append_assoc, scanChunks_of_size (again _)]
        by_cases last : size = 0
        · simp only [last, if_true] at failed ⊢
          refine (settledBelow_scanTrailers limits).failed ?_ failed more
          rw [List.length_append] at short
          omega
        · simp only [last, if_false] at failed ⊢
          have shorter := length_of_scanSize verdict
          have fewer : (after.drop (size + 2)).length < (line ++ after).length := by
            rw [List.length_drop]
            omega
          apply scanData_failed_append failed
          intro inner stopped
          exact inductionHypothesis _ fewer rfl (by omega) stopped more

theorem settledBelow_scanChunks (limits : Limits) (passed decoded : Nat) :
    Attempt.SettledBelow limits.head (scanChunks limits passed decoded) :=
  ⟨scanChunks_found, scanChunks_failed⟩

end Chunked

namespace Framing

theorem scanSized_append {limits : Limits} {length : Nat} {text : Bytes}
    (whole : text.length = length) (rest : Bytes) :
    scanSized limits length (text ++ rest) =
      if limits.body < length then .refused (.bodyTooLarge limits.body) else .found text rest := by
  subst whole
  have arrived : ¬ (text ++ rest).length < text.length := by
    rw [List.length_append]
    omega
  simp only [scanSized, arrived, if_false, List.take_left, List.drop_left]

theorem spells_scanSized {limits : Limits} {octets : Bytes}
    (allowed : octets.length ≤ limits.body) :
    Attempt.Spells 0 (scanSized limits octets.length) octets octets := by
  have small : ¬ limits.body < octets.length := Nat.not_lt.mpr allowed
  constructor
  · intro more
    rw [scanSized_append rfl, if_neg small]
  · intro front tail cut strict
    have positive := List.length_pos_iff.mpr strict
    have total := congrArg List.length cut
    rw [List.length_append] at total
    have short : front.length < octets.length := by omega
    refine ⟨octets.length, by omega, ?_⟩
    simp only [scanSized, small, short, if_false, if_true]

theorem settledBelow_scanSized (limits : Limits) (length : Nat) :
    Attempt.SettledBelow limits.head (scanSized limits length) := by
  constructor
  · intro bytes rest body found
    unfold scanSized at found
    split at found
    · simp [Attempt.refused] at found
    · split at found
      · simp at found
      · rename_i allowed enough
        simp only [Attempt.found.injEq] at found
        obtain ⟨rfl, rfl⟩ := found
        refine ⟨bytes.take length, (List.take_append_drop length bytes).symm, ?_⟩
        intro more
        have whole : (bytes.take length).length = length := by
          rw [List.length_take]
          omega
        rw [scanSized_append whole, if_neg allowed]
  · intro bytes failure _ failed more
    unfold scanSized at failed ⊢
    split at failed
    · rename_i large
      simpa only [large, if_true] using failed
    · split at failed <;> simp at failed

theorem settledBelow_scanBody (limits : Limits) (framing : Framing) :
    Attempt.SettledBelow limits.head (framing.scanBody limits) := by
  cases framing with
  | absent =>
      constructor
      · intro bytes rest body found
        simp only [scanBody, Attempt.found.injEq] at found
        obtain ⟨rfl, rfl⟩ := found
        exact ⟨[], rfl, fun more => rfl⟩
      · intro bytes failure _ failed
        simp [scanBody] at failed
  | sized length =>
      exact settledBelow_scanSized limits length
  | chunked =>
      exact Chunked.settledBelow_scanChunks limits 0 0

end Framing

end HttpServer
