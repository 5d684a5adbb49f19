import HttpServer.Proofs.Drain
import HttpServer.Shutdown

/-!
# Requests to stop

A server and whoever may stop it have handles on one latch. Any handle on the latch will do, and it
does not matter how the handle was come by: from the first trigger on the latch is triggered for
all, and everyone who waits for it is told at the next look. The accept loop remembers a request to
stop just when the latch that it looks at has been triggered.
-/

namespace HttpServer

namespace Latches

variable {latches : Latches} {latch handle : Nat} {next : LatchStep}

/-! ## One step -/

/-- Whether a step triggers a latch. -/
def asks (latches : Latches) (latch : Nat) : LatchStep → Bool
  | .trigger handle => latches.behind? handle == some latch
  | _ => false

/-- Behind every handle is a latch that there is, and only those have been told who wait for a latch
that has been triggered. -/
structure Sound (latches : Latches) : Prop where
  handles : ∀ {handle latch : Nat}, latches.behind? handle = some latch →
    latch < latches.triggered.length
  waiters : ∀ waiter ∈ latches.waiters, waiter.returned = true →
    ∃ latch, waiter.latch = some latch ∧ latches.isTriggered latch = true

theorem sound_initial : ({} : Latches).Sound := by
  constructor
  · intro handle latch there
    cases handle with
    | zero =>
        cases there
        exact Nat.zero_lt_one
    | succ handle =>
        cases there
  · simp

theorem isTriggered_new (latches : Latches) (latch : Nat) :
    latches.new.isTriggered latch = latches.isTriggered latch := by
  show (latches.triggered ++ [false]).getD latch false = latches.triggered.getD latch false
  simp only [List.getD_eq_getElem?_getD, List.getElem?_append, List.getElem?_singleton]
  split
  · rfl
  · rename_i beyond
    rw [List.getElem?_eq_none (Nat.le_of_not_lt beyond)]
    split <;> rfl

theorem isTriggered_trigger (sound : latches.Sound) (handle latch : Nat) :
    (latches.trigger handle).isTriggered latch =
      (latches.isTriggered latch || latches.behind? handle == some latch) := by
  unfold trigger
  cases there : latches.behind? handle with
  | none =>
      simp
  | some other =>
      have inside := sound.handles there
      show (latches.triggered.set other true).getD latch false = _
      rw [List.getD_eq_getElem?_getD, List.getElem?_set]
      by_cases same : other = latch
      · subst same
        simp [inside]
      · simp [same, isTriggered]

/-- A latch is triggered after a step when it was before, or when the step triggers it. -/
theorem isTriggered_step (sound : latches.Sound) (next : LatchStep) (latch : Nat) :
    (latches.step next).isTriggered latch =
      (latches.isTriggered latch || latches.asks latch next) := by
  cases next with
  | new =>
      exact (isTriggered_new latches latch).trans (Bool.or_false _).symm
  | trigger handle =>
      exact isTriggered_trigger sound handle latch
  | clone | drop | wait | poll =>
      exact (Bool.or_false _).symm

/-- A latch stays triggered. -/
theorem isTriggered_of_step (sound : latches.Sound) (next : LatchStep)
    (triggered : latches.isTriggered latch = true) :
    (latches.step next).isTriggered latch = true := by
  rw [isTriggered_step sound, triggered, Bool.true_or]

/-! ## Handles -/

/-- A clone is a handle on the same latch. -/
theorem behind?_clone (latches : Latches) (handle : Nat) :
    (latches.clone handle).behind? latches.handles.length = latches.behind? handle := by
  show (latches.handles ++ [latches.behind? handle]).getD latches.handles.length none = _
  rw [List.getD_eq_getElem?_getD, List.getElem?_concat_length, Option.getD_some]

/-- Triggering a latch again changes nothing, whatever handle it is done with. -/
theorem trigger_of_isTriggered (there : latches.behind? handle = some latch)
    (triggered : latches.isTriggered latch = true) :
    latches.trigger handle = latches := by
  have same : latches.triggered.set latch true = latches.triggered := by
    rw [isTriggered, List.getD_eq_getElem?_getD] at triggered
    cases known : latches.triggered[latch]? with
    | none =>
        rw [known] at triggered
        cases triggered
    | some value =>
        rw [known] at triggered
        obtain rfl : value = true := triggered
        obtain ⟨inside, isTrue⟩ := List.getElem?_eq_some_iff.mp known
        rw [← isTrue]
        exact List.set_getElem_self inside
  simp only [trigger, there, same]

theorem behind?_concat {latch : Option Nat} {found : Nat}
    (there : (latches.handles ++ [latch]).getD handle none = some found) :
    latches.behind? handle = some found ∨ latch = some found := by
  rw [List.getD_eq_getElem?_getD, List.getElem?_append] at there
  split at there
  · left
    rw [behind?, List.getD_eq_getElem?_getD]
    exact there
  · rw [List.getElem?_singleton] at there
    split at there
    · exact .inr there
    · cases there

theorem handles_step (sound : latches.Sound)
    (there : (latches.step next).behind? handle = some latch) :
    latch < (latches.step next).triggered.length := by
  cases next with
  | new =>
      show latch < (latches.triggered ++ [false]).length
      rw [List.length_append]
      rcases behind?_concat there with earlier | now
      · exact Nat.lt_succ_of_lt (sound.handles earlier)
      · rw [← Option.some.inj now]
        exact Nat.lt_succ_self _
  | clone given =>
      rcases behind?_concat there with earlier | now
      · exact sound.handles earlier
      · exact sound.handles now
  | drop given =>
      show latch < latches.triggered.length
      replace there : (latches.handles.set given none).getD handle none = some latch := there
      rw [List.getD_eq_getElem?_getD, List.getElem?_set] at there
      split at there
      · split at there <;> cases there
      · rw [← List.getD_eq_getElem?_getD] at there
        exact sound.handles there
  | trigger given =>
      have length : (latches.trigger given).triggered.length = latches.triggered.length := by
        unfold trigger
        split
        · exact List.length_set
        · rfl
      have handles : (latches.trigger given).handles = latches.handles := by
        unfold trigger
        split <;> rfl
      show latch < (latches.trigger given).triggered.length
      replace there : (latches.trigger given).handles.getD handle none = some latch := there
      rw [handles] at there
      rw [length]
      exact sound.handles there
  | wait | poll =>
      exact sound.handles there

/-! ## Waiting -/

/-- Whoever waits is told at a look just when the latch has been triggered. -/
theorem returned_poll (sound : latches.Sound) {index : Nat} {waiter : LatchWaiter}
    (there : latches.waiters[index]? = some waiter) :
    (latches.poll index).waiters[index]?.map LatchWaiter.returned =
      some (waiter.latch.any latches.isTriggered) := by
  have looked : (latches.poll index).waiters[index]? =
      some { waiter with returned := latches.mayReturn waiter } := by
    show (latches.waiters.modify index _)[index]? = _
    rw [List.getElem?_modify_eq, there]
    rfl
  rw [looked, Option.map_some, mayReturn]
  cases told : waiter.returned with
  | false =>
      rfl
  | true =>
      obtain ⟨latch, isLatch, triggered⟩ :=
        sound.waiters waiter (List.mem_of_getElem? there) told
      rw [isLatch, Option.any_some, triggered]
      rfl

/-- Who has been told by a look waits for a latch that has been triggered. -/
theorem told_of_poll {index : Nat}
    (waiters : ∀ waiter ∈ latches.waiters, waiter.returned = true →
      ∃ latch, waiter.latch = some latch ∧ latches.isTriggered latch = true) :
    ∀ waiter ∈ (latches.poll index).waiters, waiter.returned = true →
      ∃ latch, waiter.latch = some latch ∧ (latches.poll index).isTriggered latch = true := by
  intro waiter member told
  obtain ⟨place, there⟩ := List.mem_iff_getElem?.mp member
  replace there : (latches.waiters.modify index fun found =>
      { found with returned := latches.mayReturn found })[place]? = some waiter := there
  rw [List.getElem?_modify] at there
  obtain ⟨found, known, rfl⟩ := Option.map_eq_some_iff.mp there
  have before := waiters found (List.mem_of_getElem? known)
  split at told
  · rw [if_pos ‹_›]
    rcases Bool.or_eq_true_iff.mp told with earlier | now
    · exact before earlier
    · cases isLatch : found.latch with
      | none =>
          rw [isLatch] at now
          cases now
      | some latch =>
          rw [isLatch] at now
          exact ⟨latch, rfl, now⟩
  · rw [if_neg ‹_›]
    exact before told

theorem sound_step (sound : latches.Sound) (next : LatchStep) : (latches.step next).Sound := by
  have kept : ∀ waiter ∈ latches.waiters, waiter.returned = true →
      ∃ latch, waiter.latch = some latch ∧ (latches.step next).isTriggered latch = true := by
    intro waiter member told
    obtain ⟨latch, isLatch, triggered⟩ := sound.waiters waiter member told
    exact ⟨latch, isLatch, isTriggered_of_step sound next triggered⟩
  refine ⟨fun there => handles_step sound there, ?_⟩
  cases next with
  | new | clone | drop =>
      exact kept
  | trigger handle =>
      have waiters : (latches.step (.trigger handle)).waiters = latches.waiters := by
        show (latches.trigger handle).waiters = latches.waiters
        unfold trigger
        split <;> rfl
      rw [waiters]
      exact kept
  | poll waiter =>
      exact told_of_poll sound.waiters
  | wait handle =>
      refine told_of_poll fun waiter member told => ?_
      rcases List.mem_append.mp member with earlier | new
      · exact sound.waiters waiter earlier told
      · rw [List.mem_singleton.mp new] at told
        cases told

end Latches

/-! ## The loop that looks at a latch -/

def LoopStep.isRequest : LoopStep → Bool
  | .requestStop => true
  | _ => false

namespace AcceptLoop

variable {loop after : AcceptLoop} {latches latchesAfter : Latches} {latch : Nat}

/-- Takes a step on the latches, which asks the loop to stop when it triggers the latch of the loop,
or a step of the loop that is no such request. -/
def steer (latch : Nat) :
    Latches × AcceptLoop → LatchStep ⊕ LoopStep → Option (Latches × AcceptLoop)
  | (latches, loop), .inl next =>
    (if latches.asks latch next then loop.step .requestStop else some loop).map
      fun after => (latches.step next, after)
  | (latches, loop), .inr next =>
    if next.isRequest then none else (loop.step next).map fun after => (latches, after)

theorem stopRequested_of_step {next : LoopStep} (other : next.isRequest = false)
    (taken : loop.step next = some after) :
    after.stopRequested = loop.stopRequested := by
  let earlier : List LoopStep := if loop.stopRequested then [.requestStop] else []
  have asked : loop.stopRequested = true ↔ .requestStop ∈ earlier := by
    simp only [earlier]
    split <;> simp [*]
  have kept := asked_step asked taken
  have different : next ≠ .requestStop := by
    rintro rfl
    cases other
  cases given : loop.stopRequested with
  | true =>
      exact kept.mpr (List.mem_append_left _ (asked.mp given))
  | false =>
      rw [← Bool.not_eq_true, kept, List.mem_append, ← asked, given]
      simpa using different.symm

/-- The loop remembers a request just when its latch has been triggered. -/
structure Heeds (latch : Nat) (state : Latches × AcceptLoop) : Prop where
  sound : state.1.Sound
  heeds : state.2.stopRequested = state.1.isTriggered latch

theorem heeds_steer {state next : Latches × AcceptLoop} {step : LatchStep ⊕ LoopStep}
    (heeds : Heeds latch state) (taken : steer latch state step = some next) :
    Heeds latch next ∧ ∃ steps, state.2.follow steps = some next.2 := by
  obtain ⟨latches, loop⟩ := state
  obtain ⟨sound, same⟩ := heeds
  cases step with
  | inl given =>
      obtain ⟨asked, isAsked, rfl⟩ := Option.map_eq_some_iff.mp taken
      have triggered := Latches.isTriggered_step sound given latch
      split at isAsked
      · rename_i asks
        refine ⟨⟨Latches.sound_step sound given, ?_⟩, [.requestStop], ?_⟩
        · rw [step_requestStop isAsked, triggered, asks, Bool.or_true]
        · exact (follow_singleton loop _).trans isAsked
      · rename_i silent
        obtain rfl := Option.some.inj isAsked
        refine ⟨⟨Latches.sound_step sound given, ?_⟩, [], rfl⟩
        rw [triggered, Bool.eq_false_iff.mpr silent, Bool.or_false]
        exact same
  | inr given =>
      simp only [steer] at taken
      split at taken
      · cases taken
      · rename_i other
        obtain ⟨after, moved, rfl⟩ := Option.map_eq_some_iff.mp taken
        refine ⟨⟨sound, ?_⟩, [given], ?_⟩
        · exact (stopRequested_of_step (Bool.eq_false_iff.mpr other) moved).trans same
        · exact (follow_singleton loop _).trans moved

/-- Whatever is done with handles on the latch of a server and on others, in whatever order with the
steps of the server: its loop goes through a run of its own, and it remembers a request to stop just
when the latch has been triggered. -/
theorem heeds_of_steer {logPrefix : String} {listener : Listener}
    {taken : List (LatchStep ⊕ LoopStep)}
    (run : taken.foldlM (steer 0) ({}, start logPrefix listener) = some (latches, loop)) :
    Heeds 0 (latches, loop) ∧ ∃ steps, (start logPrefix listener).follow steps = some loop := by
  have general (state last : Latches × AcceptLoop) (heeds : Heeds 0 state)
      (rest : taken.foldlM (steer 0) state = some last) :
      Heeds 0 last ∧ ∃ steps, state.2.follow steps = some last.2 := by
    clear run
    induction taken generalizing state with
    | nil =>
        cases Option.some.inj rest
        exact ⟨heeds, [], rfl⟩
    | cons next later inductionHypothesis =>
        rw [List.foldlM_cons] at rest
        obtain ⟨middle, first, last⟩ := Option.bind_eq_some_iff.mp rest
        obtain ⟨heedsMiddle, steps, follows⟩ := heeds_steer heeds first
        obtain ⟨heedsLast, others, followsLast⟩ := inductionHypothesis middle heedsMiddle last
        refine ⟨heedsLast, steps ++ others, ?_⟩
        rw [follow, List.foldlM_append]
        exact Option.bind_eq_some_iff.mpr ⟨middle.2, follows, followsLast⟩
  exact general _ _ ⟨Latches.sound_initial, rfl⟩ run

end AcceptLoop

end HttpServer
