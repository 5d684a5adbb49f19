import HttpServer.Tracker
import Mathlib.Data.List.Induction

/-!
# Waiting until nobody is counted

A release that takes the count to zero notifies in a step of its own, and a waiter registers, reads
the count and parks in steps of its own, so that connections can be counted and released between
any two of them. A waiter is not forgotten all the same: as long as one is parked and has not been
notified, someone is counted or a notification is still to come.
-/

namespace HttpServer

namespace TrackerStep

def isTrack : TrackerStep → Bool
  | .track => true
  | _ => false

def isRelease : TrackerStep → Bool
  | .release _ => true
  | _ => false

def isNotify : TrackerStep → Bool
  | .notify => true
  | _ => false

def isWait : TrackerStep → Bool
  | .wait => true
  | _ => false

end TrackerStep

namespace Tracker

variable {tracker after : Tracker} {taken : List TrackerStep} {next : TrackerStep}

/-! ## What one step does -/

theorem step_release {guard : Nat} (possible : tracker.step (.release guard) = some after) :
    ∃ id, tracker.guards[guard]? = some ⟨id, false⟩ ∧
      after = { tracker with
        guards := tracker.guards.set guard ⟨id, true⟩
        active := tracker.active - 1
        notifying := if tracker.active = 1 then tracker.notifying + 1 else tracker.notifying } := by
  simp only [step] at possible
  split at possible
  · rename_i id held
    exact ⟨id, held, (Option.some.inj possible).symm⟩
  · simp at possible

theorem step_notify (possible : tracker.step .notify = some after) :
    0 < tracker.notifying ∧
      after = { tracker with
        notifying := tracker.notifying - 1
        waiters := tracker.waiters.map WaiterPhase.notify } := by
  simp only [step] at possible
  split at possible
  · simp at possible
  · rename_i pending
    exact ⟨Nat.pos_of_ne_zero pending, (Option.some.inj possible).symm⟩

theorem step_register {waiter : Nat} (possible : tracker.step (.register waiter) = some after) :
    tracker.waiters[waiter]? = some .calling ∧
      after = { tracker with waiters := tracker.waiters.set waiter (.registered false) } := by
  simp only [step] at possible
  split at possible
  · rename_i calling
    exact ⟨calling, (Option.some.inj possible).symm⟩
  · simp at possible

theorem step_read {waiter : Nat} (possible : tracker.step (.read waiter) = some after) :
    ∃ notified, tracker.waiters[waiter]? = some (.registered notified) ∧
      after = { tracker with
        waiters := tracker.waiters.set waiter
          (if tracker.active = 0 then .returned else .parked notified) } := by
  simp only [step] at possible
  split at possible
  · rename_i notified registered
    exact ⟨notified, registered, (Option.some.inj possible).symm⟩
  · simp at possible

theorem step_wake {waiter : Nat} (possible : tracker.step (.wake waiter) = some after) :
    tracker.waiters[waiter]? = some (.parked true) ∧
      after = { tracker with waiters := tracker.waiters.set waiter .calling } := by
  simp only [step] at possible
  split at possible
  · rename_i parked
    exact ⟨parked, (Option.some.inj possible).symm⟩
  · simp at possible

/-! ## What every step preserves -/

/-- The count is that of the guards not yet released, and nobody is parked in vain. -/
structure Sound (tracker : Tracker) : Prop where
  active : tracker.active = tracker.guards.countP fun guard => !guard.released
  awaited : ∀ {waiter : Nat}, tracker.waiters[waiter]? = some (.parked false) →
    0 < tracker.active ∨ 0 < tracker.notifying

theorem sound_empty : ({} : Tracker).Sound := by
  constructor
  · rfl
  · intro waiter parked
    simp at parked

theorem Sound.active_pos (sound : tracker.Sound) {guard : Nat} {id : ConnectionId}
    (held : tracker.guards[guard]? = some ⟨id, false⟩) :
    0 < tracker.active := by
  rw [sound.active, List.countP_pos_iff]
  exact ⟨⟨id, false⟩, List.mem_of_getElem? held, rfl⟩

/-- After one waiter has moved, those parked without notice are others that were so before. -/
theorem parked_of_set {waiters : List WaiterPhase} {moved waiter : Nat} {phase : WaiterPhase}
    (different : phase ≠ .parked false)
    (parked : (waiters.set moved phase)[waiter]? = some (.parked false)) :
    waiters[waiter]? = some (.parked false) := by
  by_cases same : moved = waiter
  · subst same
    rw [List.getElem?_set_self'] at parked
    obtain ⟨before, -, now⟩ := Option.map_eq_some_iff.mp parked
    exact absurd now different
  · rwa [List.getElem?_set_ne same] at parked

theorem sound_release {guard : Nat} (sound : tracker.Sound)
    (possible : tracker.step (.release guard) = some after) :
    after.Sound := by
  obtain ⟨id, held, rfl⟩ := step_release possible
  have positive := sound.active_pos held
  obtain ⟨inside, value⟩ := List.getElem?_eq_some_iff.mp held
  constructor
  · have counted := sound.active
    show tracker.active - 1 = (tracker.guards.set guard ⟨id, true⟩).countP _
    rw [List.countP_set inside, value, ← counted]
    rfl
  · intro waiter parked
    by_cases last : tracker.active = 1
    · right
      simp [last]
    · left
      show 0 < tracker.active - 1
      omega

theorem sound_step (sound : tracker.Sound) (possible : tracker.step next = some after) :
    after.Sound := by
  cases next with
  | track =>
      cases Option.some.inj possible
      constructor
      · show tracker.active + 1 = (tracker.guards ++ [_]).countP _
        rw [List.countP_append, ← sound.active]
        rfl
      · intro waiter parked
        exact Or.inl (Nat.succ_pos tracker.active)
  | release guard =>
      exact sound_release sound possible
  | notify =>
      obtain ⟨-, rfl⟩ := step_notify possible
      refine ⟨sound.active, ?_⟩
      intro waiter parked
      rw [List.getElem?_map, Option.map_eq_some_iff] at parked
      obtain ⟨phase, -, notified⟩ := parked
      cases phase <;> simp [WaiterPhase.notify] at notified
  | wait =>
      cases Option.some.inj possible
      refine ⟨sound.active, ?_⟩
      intro waiter parked
      rw [List.getElem?_append] at parked
      split at parked
      · exact sound.awaited parked
      · have member := List.mem_of_getElem? parked
        simp at member
  | register waiter =>
      obtain ⟨-, rfl⟩ := step_register possible
      exact ⟨sound.active, fun parked => sound.awaited (parked_of_set (by simp) parked)⟩
  | read waiter =>
      obtain ⟨notified, -, rfl⟩ := step_read possible
      refine ⟨sound.active, ?_⟩
      intro other parked
      by_cases idle : tracker.active = 0
      · rw [if_pos idle] at parked
        exact sound.awaited (parked_of_set (by simp) parked)
      · exact Or.inl (Nat.pos_of_ne_zero idle)
  | wake waiter =>
      obtain ⟨-, rfl⟩ := step_wake possible
      exact ⟨sound.active, fun parked => sound.awaited (parked_of_set (by simp) parked)⟩

/-! ## Runs -/

/-- Takes steps one after the other, each of which must be possible. -/
def follow (tracker : Tracker) (taken : List TrackerStep) : Option Tracker :=
  taken.foldlM step tracker

theorem follow_cons {later : List TrackerStep}
    (run : tracker.follow (next :: later) = some after) :
    ∃ middle, tracker.step next = some middle ∧ middle.follow later = some after := by
  rw [follow, List.foldlM_cons] at run
  exact Option.bind_eq_some_iff.mp run

theorem follow_concat {before : List TrackerStep}
    (run : tracker.follow (before ++ [next]) = some after) :
    ∃ middle, tracker.follow before = some middle ∧ middle.step next = some after := by
  rw [follow, List.foldlM_append] at run
  obtain ⟨middle, first, last⟩ := Option.bind_eq_some_iff.mp run
  obtain ⟨final, possible, nothing⟩ := follow_cons last
  cases Option.some.inj nothing
  exact ⟨middle, first, possible⟩

/-- What holds at the start, and after a step when it held before the step, holds after every
run. -/
theorem follow_induction {motive : List TrackerStep → Tracker → Prop} (start : motive [] {})
    (onward : ∀ {before : List TrackerStep} {middle : Tracker} {next : TrackerStep}
      {after : Tracker}, ({} : Tracker).follow before = some middle → motive before middle →
        middle.step next = some after → motive (before ++ [next]) after)
    (run : ({} : Tracker).follow taken = some after) :
    motive taken after := by
  induction taken using List.reverseRecOn generalizing after with
  | nil =>
      cases Option.some.inj run
      exact start
  | append_singleton before next inductionHypothesis =>
      obtain ⟨middle, first, last⟩ := follow_concat run
      exact onward first (inductionHypothesis first) last

theorem sound_follow (run : ({} : Tracker).follow taken = some tracker) :
    tracker.Sound :=
  follow_induction sound_empty (fun _ sound possible => sound_step sound possible) run

/-- How many of the steps are releases that take the count from one to zero. -/
def emptyings (tracker : Tracker) : List TrackerStep → Nat
  | [] => 0
  | next :: later =>
    (if next.isRelease ∧ tracker.active = 1 then 1 else 0) +
      match tracker.step next with
      | some after => emptyings after later
      | none => 0

theorem emptyings_concat {before : List TrackerStep} {middle : Tracker}
    (run : tracker.follow before = some middle) (possible : middle.step next = some after) :
    tracker.emptyings (before ++ [next]) =
      tracker.emptyings before + if next.isRelease ∧ middle.active = 1 then 1 else 0 := by
  induction before generalizing tracker with
  | nil =>
      cases Option.some.inj run
      simp [emptyings, possible]
  | cons first later inductionHypothesis =>
      obtain ⟨second, taken, rest⟩ := follow_cons run
      rw [List.cons_append, emptyings, emptyings, taken]
      simp only [inductionHypothesis rest, Nat.add_assoc]

/-! ## What a run leaves behind -/

/-- Someone who began to wait as the `waiter`th has since read a count of zero. -/
def ReadZero (taken : List TrackerStep) (waiter : Nat) : Prop :=
  ∃ before between later middle,
    taken = before ++ .wait :: (between ++ .read waiter :: later) ∧
    before.countP TrackerStep.isWait = waiter ∧
    ({} : Tracker).follow (before ++ .wait :: between) = some middle ∧ middle.active = 0

/-- What the steps taken since the start have made of the tracker. -/
structure Recorded (taken : List TrackerStep) (tracker : Tracker) : Prop where
  counted : tracker.active + taken.countP TrackerStep.isRelease =
    taken.countP TrackerStep.isTrack
  notifying : tracker.notifying + taken.countP TrackerStep.isNotify =
    ({} : Tracker).emptyings taken
  waiters : tracker.waiters.length = taken.countP TrackerStep.isWait
  returned : ∀ {waiter : Nat}, tracker.waiters[waiter]? = some .returned →
    ReadZero taken waiter

theorem ReadZero.onward {waiter : Nat} (read : ReadZero taken waiter) (next : TrackerStep) :
    ReadZero (taken ++ [next]) waiter := by
  obtain ⟨before, between, later, middle, rfl, began, run, zero⟩ := read
  exact ⟨before, between, later ++ [next], middle, by simp, began, run, zero⟩

/-- A list has a place for each of the members that pass a test. -/
theorem exists_split_of_lt_countP {α : Type} {test : α → Bool} {list : List α} {place : Nat}
    (fewer : place < list.countP test) :
    ∃ before found later, list = before ++ found :: later ∧ test found = true ∧
      before.countP test = place := by
  induction list generalizing place with
  | nil =>
      simp at fewer
  | cons first others inductionHypothesis =>
      by_cases passes : test first = true
      · rw [List.countP_cons_of_pos passes] at fewer
        cases place with
        | zero =>
            exact ⟨[], first, others, rfl, passes, rfl⟩
        | succ place =>
            obtain ⟨before, found, later, rfl, foundPasses, count⟩ :=
              inductionHypothesis (Nat.lt_of_succ_lt_succ fewer)
            refine ⟨first :: before, found, later, rfl, foundPasses, ?_⟩
            rw [List.countP_cons_of_pos passes, count]
      · rw [List.countP_cons_of_neg passes] at fewer
        obtain ⟨before, found, later, rfl, foundPasses, count⟩ := inductionHypothesis fewer
        refine ⟨first :: before, found, later, rfl, foundPasses, ?_⟩
        rw [List.countP_cons_of_neg passes, count]

/-- Whoever reads a count of zero began to wait before. -/
theorem readZero_of_read {waiter : Nat} (run : ({} : Tracker).follow taken = some tracker)
    (waiting : waiter < taken.countP TrackerStep.isWait) (zero : tracker.active = 0) :
    ReadZero (taken ++ [.read waiter]) waiter := by
  obtain ⟨before, call, between, rfl, calls, count⟩ := exists_split_of_lt_countP waiting
  cases call <;> simp only [TrackerStep.isWait, Bool.false_eq_true] at calls
  exact ⟨before, between, [], tracker, by simp, count, run, zero⟩

theorem recorded_empty : Recorded [] {} := by
  refine ⟨rfl, rfl, rfl, ?_⟩
  intro waiter returned
  simp at returned

section

variable (run : ({} : Tracker).follow taken = some tracker) (recorded : Recorded taken tracker)

include run recorded

/-- A step of one waiter counts nobody and notifies nobody. -/
theorem Recorded.move {waiter : Nat} {phase : WaiterPhase}
    (possible : tracker.step next = some { tracker with
      waiters := tracker.waiters.set waiter phase })
    (mover : next = .register waiter ∨ next = .read waiter ∨ next = .wake waiter)
    (returns : phase = .returned → ReadZero (taken ++ [next]) waiter) :
    Recorded (taken ++ [next]) { tracker with waiters := tracker.waiters.set waiter phase } := by
  have quiet : next.isTrack = false ∧ next.isRelease = false ∧ next.isNotify = false ∧
      next.isWait = false := by
    rcases mover with rfl | rfl | rfl <;> exact ⟨rfl, rfl, rfl, rfl⟩
  obtain ⟨noTrack, noRelease, noNotify, noWait⟩ := quiet
  constructor
  · simpa [List.countP_append, noTrack, noRelease] using recorded.counted
  · simpa [List.countP_append, noNotify, noRelease, emptyings_concat run possible]
      using recorded.notifying
  · simpa [List.countP_append, noWait] using recorded.waiters
  · intro other returned
    by_cases same : waiter = other
    · subst same
      rw [List.getElem?_set_self'] at returned
      obtain ⟨before, -, now⟩ := Option.map_eq_some_iff.mp returned
      exact returns now
    · rw [List.getElem?_set_ne same] at returned
      exact (recorded.returned returned).onward next

theorem recorded_release {guard : Nat} (sound : tracker.Sound)
    (possible : tracker.step (.release guard) = some after) :
    Recorded (taken ++ [.release guard]) after := by
  have emptied := emptyings_concat run possible
  obtain ⟨id, held, rfl⟩ := step_release possible
  have positive := sound.active_pos held
  have counted := recorded.counted
  have notifying := recorded.notifying
  constructor
  · simp only [List.countP_append, List.countP_singleton, TrackerStep.isRelease,
      TrackerStep.isTrack, if_true, Bool.false_eq_true, if_false]
    omega
  · rw [emptied]
    simp only [List.countP_append, List.countP_singleton, TrackerStep.isRelease,
      TrackerStep.isNotify, true_and, Bool.false_eq_true, if_false]
    split <;> omega
  · simpa [List.countP_append, TrackerStep.isWait] using recorded.waiters
  · exact fun returned => (recorded.returned returned).onward _

theorem recorded_step (sound : tracker.Sound) (possible : tracker.step next = some after) :
    Recorded (taken ++ [next]) after := by
  have emptied := emptyings_concat run possible
  cases next with
  | track =>
      cases Option.some.inj possible
      have counted := recorded.counted
      constructor
      · simp only [List.countP_append, List.countP_singleton, TrackerStep.isRelease,
          TrackerStep.isTrack, if_true, Bool.false_eq_true, if_false]
        omega
      · simpa [List.countP_append, TrackerStep.isNotify, TrackerStep.isRelease, emptied]
          using recorded.notifying
      · simpa [List.countP_append, TrackerStep.isWait] using recorded.waiters
      · exact fun returned => (recorded.returned returned).onward _
  | release guard =>
      exact recorded_release run recorded sound possible
  | notify =>
      obtain ⟨positive, rfl⟩ := step_notify possible
      have notifying := recorded.notifying
      constructor
      · simpa [List.countP_append, TrackerStep.isTrack, TrackerStep.isRelease]
          using recorded.counted
      · rw [emptied]
        simp only [List.countP_append, List.countP_singleton, TrackerStep.isRelease,
          TrackerStep.isNotify, if_true, Bool.false_eq_true, false_and, if_false]
        omega
      · simpa [List.countP_append, TrackerStep.isWait] using recorded.waiters
      · intro waiter returned
        rw [List.getElem?_map, Option.map_eq_some_iff] at returned
        obtain ⟨phase, before, same⟩ := returned
        cases phase <;> simp only [WaiterPhase.notify, reduceCtorEq] at same
        exact (recorded.returned before).onward _
  | wait =>
      cases Option.some.inj possible
      constructor
      · simpa [List.countP_append, TrackerStep.isTrack, TrackerStep.isRelease]
          using recorded.counted
      · simpa [List.countP_append, TrackerStep.isNotify, TrackerStep.isRelease, emptied]
          using recorded.notifying
      · simpa [List.countP_append, TrackerStep.isWait] using recorded.waiters
      · intro waiter returned
        rw [List.getElem?_append] at returned
        split at returned
        · exact (recorded.returned returned).onward _
        · have member := List.mem_of_getElem? returned
          simp at member
  | register waiter =>
      obtain ⟨-, rfl⟩ := step_register possible
      exact recorded.move run possible (Or.inl rfl) (by simp)
  | read waiter =>
      obtain ⟨notified, registered, rfl⟩ := step_read possible
      obtain ⟨inside, -⟩ := List.getElem?_eq_some_iff.mp registered
      rw [recorded.waiters] at inside
      apply recorded.move run possible (Or.inr (Or.inl rfl))
      intro returns
      split at returns
      · rename_i zero
        exact readZero_of_read run inside zero
      · simp at returns
  | wake waiter =>
      obtain ⟨-, rfl⟩ := step_wake possible
      exact recorded.move run possible (Or.inr (Or.inr rfl)) (by simp)

end

theorem recorded_follow (run : ({} : Tracker).follow taken = some tracker) :
    Recorded taken tracker :=
  follow_induction recorded_empty
    (fun first recorded possible => recorded_step first recorded (sound_follow first) possible) run

/-! ## Nobody waits for ever -/

/-- While nobody is counted, a waiter that is not parked without notice returns at the next look. -/
theorem poll_of_idle {waiter : Nat} (zero : tracker.active = 0)
    (inside : waiter < tracker.waiters.length)
    (free : tracker.waiters[waiter]? ≠ some (.parked false)) :
    (tracker.poll waiter).waiters[waiter]? = some .returned := by
  obtain ⟨phase, there⟩ : ∃ phase, tracker.waiters[waiter]? = some phase :=
    ⟨_, List.getElem?_eq_getElem inside⟩
  cases phase with
  | calling =>
      simp [poll, steps, step, there, List.getElem?_set_self', zero]
  | registered notified =>
      simp [poll, steps, step, there, List.getElem?_set_self', zero]
  | parked notified =>
      cases notified with
      | false =>
          exact absurd there free
      | true =>
          simp [poll, steps, step, there, List.getElem?_set_self', zero]
  | returned =>
      simp [poll, steps, step, there]

/-- What holds of a tracker and its waiters after any run from the start. -/
structure WakesInTime (taken : List TrackerStep) (tracker : Tracker) : Prop where
  /-- The count is the number of guards not yet released, which is that of the connections counted
  less that of the releases. -/
  count : tracker.active = tracker.guards.countP (fun guard => !guard.released) ∧
    tracker.active + taken.countP TrackerStep.isRelease = taken.countP TrackerStep.isTrack
  /-- The notifications still to come are those of the releases that took the count from one to
  zero. -/
  pending : tracker.notifying + taken.countP TrackerStep.isNotify =
    ({} : Tracker).emptyings taken
  /-- While a waiter is parked and has not been notified, someone is counted or a notification is
  still to come. -/
  parked : ∀ waiter : Nat, tracker.waiters[waiter]? = some (.parked false) →
    0 < tracker.active ∨ 0 < tracker.notifying
  /-- A waiter that has returned has read a count of zero since it began to wait. -/
  returned : ∀ waiter : Nat, tracker.waiters[waiter]? = some .returned → ReadZero taken waiter
  /-- When nobody is counted and no notification is to come, no waiter is parked without notice,
  and each of them returns at its next look. -/
  idle : tracker.active = 0 → tracker.notifying = 0 →
    ∀ waiter : Nat, waiter < tracker.waiters.length →
      tracker.waiters[waiter]? ≠ some (.parked false) ∧
        (tracker.poll waiter).waiters[waiter]? = some .returned

/-- In whatever order connections are counted, guards are released and waiters wait, nobody is
woken too early and nobody is forgotten. -/
theorem wakesInTime_of_follow (run : ({} : Tracker).follow taken = some tracker) :
    WakesInTime taken tracker := by
  have sound := sound_follow run
  have recorded := recorded_follow run
  refine ⟨⟨sound.active, recorded.counted⟩, recorded.notifying, fun _ => sound.awaited,
    fun _ => recorded.returned, ?_⟩
  intro zero quiet waiter inside
  have free : tracker.waiters[waiter]? ≠ some (.parked false) := by
    intro parked
    rcases sound.awaited parked with counted | pending
    · omega
    · omega
  exact ⟨free, poll_of_idle zero inside free⟩

/-- A connection is counted between the release that empties the tracker and its notification, and
the waiter parks a second time. -/
theorem wakesInTime_of_late_notification :
    let taken : List TrackerStep :=
      [.track, .wait, .register 0, .read 0, .release 0, .track, .notify, .wake 0, .register 0,
        .read 0, .release 1, .notify, .wake 0, .register 0, .read 0]
    ∃ tracker, ({} : Tracker).follow taken = some tracker ∧ tracker.waiters = [.returned] ∧
      WakesInTime taken tracker := by
  intro taken
  exact ⟨_, rfl, rfl, wakesInTime_of_follow rfl⟩

end Tracker

end HttpServer
