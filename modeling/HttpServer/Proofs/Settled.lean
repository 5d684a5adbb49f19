import HttpServer.Reader
import Mathlib.Data.List.TakeWhile

/-!
# Verdicts that more octets do not change

Whoever looks at a front of what a peer sends must not decide anything that later octets could
overturn. A scan is settled when an item it found depends on nothing but the octets it used, and
when octets found wrong stay wrong whatever follows them. Settled scans are closed under the ways
in which the grammar of a message puts them together.
-/

namespace HttpServer

/-! ## Fronts of a run -/

namespace Bytes

variable {test : UInt8 → Bool}

theorem takeWhile_append_mark {front : Bytes} {mark : UInt8}
    (passing : ∀ byte ∈ front, test byte = true) (stop : test mark = false) (more : Bytes) :
    (front ++ mark :: more).takeWhile test = front := by
  rw [List.takeWhile_append_of_pos passing,
    List.takeWhile_cons_of_neg (by simp [stop]), List.append_nil]

theorem dropWhile_append_mark {front : Bytes} {mark : UInt8}
    (passing : ∀ byte ∈ front, test byte = true) (stop : test mark = false) (more : Bytes) :
    (front ++ mark :: more).dropWhile test = mark :: more := by
  rw [List.dropWhile_append_of_pos passing,
    List.dropWhile_cons_of_neg (by simp [stop])]

theorem not_test_of_dropWhile {bytes rest : Bytes} {mark : UInt8}
    (stopped : bytes.dropWhile test = mark :: rest) :
    test mark = false := by
  have stops := List.head?_dropWhile_not test bytes
  rw [stopped] at stops
  simpa using stops

theorem takeWhile_append_of_stopped {bytes rest : Bytes} {mark : UInt8}
    (stopped : bytes.dropWhile test = mark :: rest) :
    bytes = bytes.takeWhile test ++ mark :: rest := by
  rw [← stopped]
  exact List.takeWhile_append_dropWhile.symm

/-- A front of two parts ends inside the first part or goes on into the second. -/
theorem front_cases {first second front tail : Bytes}
    (cut : first ++ second = front ++ tail) :
    (∃ rest, rest ≠ [] ∧ first = front ++ rest) ∨
      ∃ middle, front = first ++ middle ∧ second = middle ++ tail := by
  rcases List.append_eq_append_iff.mp cut with
    ⟨middle, cutFront, cutSecond⟩ | ⟨rest, cutFirst, cutTail⟩
  · exact Or.inr ⟨middle, cutFront, cutSecond⟩
  · by_cases strict : rest = []
    · subst strict
      right
      refine ⟨[], ?_, ?_⟩
      · rw [cutFirst, List.append_nil, List.append_nil]
      · exact cutTail.symm
    · exact Or.inl ⟨rest, strict, cutFirst⟩

end Bytes

namespace Scan

variable {ε α β : Type}

/-- The octets a scan used decide the item it found, and wrong octets stay wrong. -/
structure Settled (scan : Bytes → Scan ε α) : Prop where
  found : ∀ {bytes rest : Bytes} {item : α}, scan bytes = .found item rest →
    ∃ used, bytes = used ++ rest ∧ ∀ more, scan (used ++ more) = .found item more
  wrong : ∀ {bytes : Bytes} {error : ε}, scan bytes = .wrong error →
    ∀ more, scan (bytes ++ more) = .wrong error

namespace Settled

/-! ## Scans that use nothing -/

theorem of_found (item : α) :
    Settled (fun rest => (.found item rest : Scan ε α)) := by
  constructor
  · intro bytes rest found same
    simp only [Scan.found.injEq] at same
    obtain ⟨rfl, rfl⟩ := same
    exact ⟨[], by simp⟩
  · intro bytes error wrong
    simp at wrong

theorem of_wrong (error : ε) :
    Settled (fun _ => (.wrong error : Scan ε α)) := by
  constructor
  · intro bytes rest item found
    simp at found
  · intro bytes given wrong more
    exact wrong

/-! ## Putting scans together -/

theorem ite {first second : Bytes → Scan ε α} (test : Bool)
    (settledFirst : Settled first) (settledSecond : Settled second) :
    Settled (fun bytes => if test then first bytes else second bytes) := by
  cases test with
  | true =>
      exact settledFirst
  | false =>
      exact settledSecond

theorem map {scan : Bytes → Scan ε α}
    (settled : Settled scan) (change : α → β) :
    Settled (fun bytes => (scan bytes).map change) := by
  constructor
  · intro bytes rest item found
    cases verdict : scan bytes with
    | found inner after =>
        simp only [verdict, Scan.map, Scan.found.injEq] at found
        obtain ⟨rfl, rfl⟩ := found
        obtain ⟨used, cut, again⟩ := settled.found verdict
        refine ⟨used, cut, ?_⟩
        intro more
        simp only [again more, Scan.map]
    | partly =>
        simp [verdict, Scan.map] at found
    | wrong error =>
        simp [verdict, Scan.map] at found
  · intro bytes error wrong more
    cases verdict : scan bytes with
    | found inner after =>
        simp [verdict, Scan.map] at wrong
    | partly =>
        simp [verdict, Scan.map] at wrong
    | wrong inner =>
        simp only [verdict, Scan.map, Scan.wrong.injEq] at wrong
        subst wrong
        simp only [settled.wrong verdict more, Scan.map]

theorem andThen {scan : Bytes → Scan ε α} {next : α → Bytes → Scan ε β}
    (settled : Settled scan) (settledNext : ∀ item, Settled (next item)) :
    Settled (fun bytes => (scan bytes).andThen next) := by
  constructor
  · intro bytes rest item found
    cases verdict : scan bytes with
    | found inner middle =>
        simp only [verdict, Scan.andThen] at found
        obtain ⟨first, cut, again⟩ := settled.found verdict
        obtain ⟨second, cutNext, againNext⟩ := (settledNext inner).found found
        refine ⟨first ++ second, by simp [cut, cutNext], ?_⟩
        intro more
        rw [List.append_assoc]
        simp only [again, Scan.andThen, againNext]
    | partly =>
        simp [verdict, Scan.andThen] at found
    | wrong error =>
        simp [verdict, Scan.andThen] at found
  · intro bytes error wrong more
    cases verdict : scan bytes with
    | found inner middle =>
        simp only [verdict, Scan.andThen] at wrong
        obtain ⟨first, cut, again⟩ := settled.found verdict
        rw [cut, List.append_assoc]
        simp only [again, Scan.andThen]
        exact (settledNext inner).wrong wrong more
    | partly =>
        simp [verdict, Scan.andThen] at wrong
    | wrong inner =>
        simp only [verdict, Scan.andThen, Scan.wrong.injEq] at wrong
        subst wrong
        simp only [settled.wrong verdict more, Scan.andThen]

/-- A scan that waits on nothing at all may be looked at one first octet at a time. -/
theorem of_cons {scan : Bytes → Scan ε α}
    (nothing : scan [] = .partly)
    (settled : ∀ first, Settled (fun rest => scan (first :: rest))) :
    Settled scan := by
  constructor
  · intro bytes rest item found
    cases bytes with
    | nil =>
        simp [nothing] at found
    | cons first tail =>
        obtain ⟨used, cut, again⟩ := (settled first).found found
        exact ⟨first :: used, by simp [cut], again⟩
  · intro bytes error wrong more
    cases bytes with
    | nil =>
        simp [nothing] at wrong
    | cons first tail =>
        exact (settled first).wrong wrong more

theorem cons {scan : Bytes → Scan ε α}
    (settled : Settled scan) (nothing : scan [] = .partly) (first : UInt8) :
    Settled (fun rest => scan (first :: rest)) := by
  constructor
  · intro bytes rest item found
    obtain ⟨used, cut, again⟩ := settled.found found
    cases used with
    | nil =>
        have onNothing := again []
        simp [nothing] at onNothing
    | cons mark others =>
        simp only [List.cons_append, List.cons.injEq] at cut
        obtain ⟨rfl, cutTail⟩ := cut
        exact ⟨others, cutTail, again⟩
  · intro bytes error wrong more
    exact settled.wrong wrong more

/-- After a run of octets that pass a test comes a mark that ends the run; what is decided at the
mark may depend on the run. Before the mark has come nothing is found, and a run can only be
refused with all that continue it. -/
theorem afterJudgedRun (test : UInt8 → Bool) (next : Bytes → Bytes → Scan ε α)
    (undecided : ∀ front rest item, next front [] ≠ .found item rest)
    (refused : ∀ front error, next front [] = .wrong error →
      ∀ more rest, next (front ++ more) rest = .wrong error)
    (settled : ∀ front mark, test mark = false →
      Settled (fun rest => next front (mark :: rest))) :
    Settled (fun bytes => next (bytes.takeWhile test) (bytes.dropWhile test)) := by
  have passing (bytes : Bytes) : ∀ byte ∈ bytes.takeWhile test, test byte = true :=
    fun _ member => List.mem_takeWhile_imp member
  constructor
  · intro bytes rest item found
    cases stopped : bytes.dropWhile test with
    | nil =>
        rw [stopped] at found
        exact absurd found (undecided _ _ _)
    | cons mark tail =>
        have stop := Bytes.not_test_of_dropWhile stopped
        rw [stopped] at found
        obtain ⟨used, cut, again⟩ := (settled _ mark stop).found found
        refine ⟨bytes.takeWhile test ++ mark :: used, ?_, ?_⟩
        · have whole := Bytes.takeWhile_append_of_stopped stopped
          rw [cut] at whole
          simpa using whole
        · intro more
          have joined : bytes.takeWhile test ++ mark :: used ++ more =
              bytes.takeWhile test ++ mark :: (used ++ more) := by
            simp
          simp only [joined]
          rw [Bytes.takeWhile_append_mark (passing bytes) stop,
            Bytes.dropWhile_append_mark (passing bytes) stop]
          exact again more
  · intro bytes error wrong more
    cases stopped : bytes.dropWhile test with
    | nil =>
        have whole : bytes.takeWhile test = bytes := by
          have joined := List.takeWhile_append_dropWhile (p := test) (l := bytes)
          rwa [stopped, List.append_nil] at joined
        have all : ∀ byte ∈ bytes, test byte = true := by
          rw [← whole]
          exact passing bytes
        rw [stopped, whole] at wrong
        rw [List.takeWhile_append_of_pos all]
        exact refused _ _ wrong _ _
    | cons mark tail =>
        have stop := Bytes.not_test_of_dropWhile stopped
        have whole : bytes ++ more = bytes.takeWhile test ++ mark :: (tail ++ more) := by
          conv => lhs; rw [Bytes.takeWhile_append_of_stopped stopped]
          simp
        rw [stopped] at wrong
        rw [whole, Bytes.takeWhile_append_mark (passing bytes) stop,
          Bytes.dropWhile_append_mark (passing bytes) stop]
        exact (settled _ mark stop).wrong wrong more

/-- A run that is judged at its mark only. -/
theorem afterRun (test : UInt8 → Bool) (next : Bytes → Bytes → Scan ε α)
    (nothing : ∀ front, next front [] = .partly)
    (settled : ∀ front mark, test mark = false →
      Settled (fun rest => next front (mark :: rest))) :
    Settled (fun bytes => next (bytes.takeWhile test) (bytes.dropWhile test)) := by
  apply afterJudgedRun test next _ _ settled
  · intro front rest item
    simp [nothing]
  · intro front error wrong
    simp [nothing] at wrong

/-- What is decided at a mark and nowhere else. -/
def atMark (judge : UInt8 → Bytes → Scan ε α) : Bytes → Scan ε α
  | [] => .partly
  | mark :: rest => judge mark rest

theorem afterMark (test : UInt8 → Bool) (judge : Bytes → UInt8 → Bytes → Scan ε α)
    (settled : ∀ front mark, Settled (judge front mark)) :
    Settled (fun bytes => atMark (judge (bytes.takeWhile test)) (bytes.dropWhile test)) := by
  apply afterRun test (fun front => atMark (judge front))
  · intro front
    rfl
  · intro front mark _
    exact settled front mark

theorem partly_of_front {scan : Bytes → Scan ε α} {front tail : Bytes} {item : α}
    (settled : Settled scan)
    (whole : scan (front ++ tail) = .found item []) (strict : tail ≠ []) :
    scan front = .partly := by
  cases verdict : scan front with
  | partly =>
      rfl
  | wrong error =>
      have stays := settled.wrong verdict tail
      simp [whole] at stays
  | found inner rest =>
      obtain ⟨used, cut, again⟩ := settled.found verdict
      have longer := again (rest ++ tail)
      rw [← List.append_assoc, ← cut, whole] at longer
      simp only [Scan.found.injEq, List.nil_eq_append_iff] at longer
      exact absurd longer.2.2 strict

end Settled

end Scan

/-! ## Attempts -/

namespace Attempt

variable {α β : Type}

/-- The octets an attempt used decide the item it found, and on fewer than `bound` octets a
failure stays a failure. -/
structure SettledBelow (bound : Nat) (attempt : Bytes → Attempt α) : Prop where
  found : ∀ {bytes rest : Bytes} {item : α}, attempt bytes = .found item rest →
    ∃ used, bytes = used ++ rest ∧ ∀ more, attempt (used ++ more) = .found item more
  failed : ∀ {bytes : Bytes} {failure : ReadFailure}, bytes.length < bound →
    attempt bytes = .failed failure → ∀ more, attempt (bytes ++ more) = .failed failure

/-- The same verdict with more octets behind what was looked at. -/
def extend (more : Bytes) : Attempt α → Attempt α
  | .found item rest => .found item (rest ++ more)
  | .wait wanted => .wait wanted
  | .failed failure => .failed failure

/-- On every front of the octets an attempt waits or gives the verdict that it gives on all of
them. -/
def Steady (attempt : Bytes → Attempt α) (whole : Bytes) : Prop :=
  ∀ front more, whole = front ++ more →
    (∃ wanted, attempt front = .wait wanted) ∨ attempt whole = (attempt front).extend more

theorem SettledBelow.steady {bound : Nat} {attempt : Bytes → Attempt α} {whole : Bytes}
    (settled : SettledBelow bound attempt) (short : whole.length < bound) :
    Steady attempt whole := by
  intro front more cut
  cases verdict : attempt front with
  | wait wanted =>
      exact Or.inl ⟨wanted, rfl⟩
  | found item rest =>
      obtain ⟨used, cutFront, again⟩ := settled.found verdict
      right
      rw [cut, cutFront, List.append_assoc, again]
      rfl
  | failed failure =>
      right
      have frontShort : front.length < bound := by
        rw [cut, List.length_append] at short
        omega
      rw [cut, settled.failed frontShort verdict more]
      rfl

/-- An attempt waits on every front of the octets that make an item and finds the item once they
are all there. It never waits for more octets than those and the `passed` ones before them. -/
structure Spells (passed : Nat) (attempt : Bytes → Attempt α) (used : Bytes) (item : α) :
    Prop where
  whole : ∀ more, attempt (used ++ more) = .found item more
  front : ∀ front tail, used = front ++ tail → tail ≠ [] →
    ∃ wanted, wanted ≤ passed + used.length ∧ attempt front = .wait wanted

theorem Spells.steady {passed : Nat} {attempt : Bytes → Attempt α} {used rest : Bytes} {item : α}
    (spells : Spells passed attempt used item) :
    Steady attempt (used ++ rest) := by
  intro front more cut
  rcases Bytes.front_cases cut with ⟨tail, strict, cutUsed⟩ | ⟨middle, cutFront, cutRest⟩
  · obtain ⟨wanted, _, waiting⟩ := spells.front front tail cutUsed strict
    exact Or.inl ⟨wanted, waiting⟩
  · right
    rw [spells.whole rest, cutFront, spells.whole middle, cutRest]
    rfl

/-- An attempt waits on every front of a front that is not all of the octets. -/
theorem Spells.steady_front {passed : Nat} {attempt : Bytes → Attempt α} {used begun tail : Bytes}
    {item : α} (spells : Spells passed attempt used item) (cut : used = begun ++ tail)
    (strict : tail ≠ []) :
    Steady attempt begun := by
  rintro front more rfl
  rw [List.append_assoc] at cut
  have further : more ++ tail ≠ [] :=
    fun nothing => strict (List.append_eq_nil_iff.mp nothing).2
  obtain ⟨wanted, -, waiting⟩ := spells.front front (more ++ tail) cut further
  exact Or.inl ⟨wanted, waiting⟩

/-- On the fronts of some octets an attempt waits for no more than `bound` octets, and only while
there are no more, and it is no attempt that runs out of memory by itself. -/
structure Modest (bound : Nat) (attempt : Bytes → Attempt α) (whole : Bytes) : Prop where
  waits : ∀ {front more : Bytes} {wanted : Nat}, whole = front ++ more →
    attempt front = .wait wanted → wanted ≤ bound ∧ front.length ≤ bound
  sober : ∀ {front more : Bytes} {error : ReservationError}, whole = front ++ more →
    attempt front ≠ .failed (.fault (.reservation error))

theorem Spells.modest {attempt : Bytes → Attempt α} {used rest : Bytes} {item : α}
    (spells : Spells 0 attempt used item) :
    Modest used.length attempt (used ++ rest) := by
  constructor
  · intro front more wanted cut waits
    rcases Bytes.front_cases cut with ⟨tail, strict, cutUsed⟩ | ⟨middle, cutFront, -⟩
    · obtain ⟨asked, small, same⟩ := spells.front front tail cutUsed strict
      rw [waits, Attempt.wait.injEq] at same
      subst same
      rw [Nat.zero_add] at small
      refine ⟨small, ?_⟩
      rw [cutUsed, List.length_append]
      exact Nat.le_add_right _ _
    · rw [cutFront, spells.whole] at waits
      simp at waits
  · intro front more error cut failed
    rcases Bytes.front_cases cut with ⟨tail, strict, cutUsed⟩ | ⟨middle, cutFront, -⟩
    · obtain ⟨asked, -, same⟩ := spells.front front tail cutUsed strict
      simp [failed] at same
    · rw [cutFront, spells.whole] at failed
      simp at failed

theorem Modest.of_append {bound : Nat} {attempt : Bytes → Attempt α} {front tail : Bytes}
    (modest : Modest bound attempt (front ++ tail)) :
    Modest bound attempt front := by
  constructor
  · rintro first more wanted rfl waits
    exact modest.waits (List.append_assoc first more tail) waits
  · rintro first more error rfl
    exact modest.sober (List.append_assoc first more tail)

theorem Spells.modest_front {attempt : Bytes → Attempt α} {used begun tail : Bytes} {item : α}
    (spells : Spells 0 attempt used item) (cut : used = begun ++ tail) :
    Modest used.length attempt begun := by
  have modest : Modest used.length attempt (used ++ []) := spells.modest
  rw [List.append_nil] at modest
  generalize used.length = bound at modest ⊢
  rw [cut] at modest
  exact modest.of_append

end Attempt

end HttpServer
