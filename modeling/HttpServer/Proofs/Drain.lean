import HttpServer.AcceptLoop
import Mathlib.Data.List.Induction

/-!
# Draining

An accept loop stops only when it has been asked to and nobody is left. The count of running
handlers carries the argument: it moves with the accepted connections and the handlers that leave,
and with nothing else, in whatever order the loop, the handlers and those who ask for shutdown take
their steps.
-/

namespace HttpServer

def HandlerPhase.hasEnded : HandlerPhase → Bool
  | .ended _ => true
  | _ => false

namespace LoopStep

def isAccept : LoopStep → Bool
  | .accept _ => true
  | _ => false

def brings : LoopStep → Bool
  | .accept (.ok _) => true
  | _ => false

def isLeave : LoopStep → Bool
  | .leave _ => true
  | _ => false

def isLeaveOf (handler : Nat) : LoopStep → Bool
  | .leave other => other == handler
  | _ => false

end LoopStep

namespace Tracker

theorem track_eq (tracker : Tracker) :
    tracker.track =
      { tracker with
        guards := tracker.guards ++ [{ id := ⟨tracker.guards.length + 1⟩ }]
        active := tracker.active + 1 } := rfl

theorem steps_notify (tracker : Tracker) :
    (tracker.steps [.notify]).guards = tracker.guards ∧
      (tracker.steps [.notify]).active = tracker.active := by
  by_cases nobody : tracker.notifying = 0
  · simp [steps, step, nobody]
  · simp [steps, step, nobody]

theorem release_of_held {tracker : Tracker} {guard : Nat} {id : ConnectionId}
    (held : tracker.guards[guard]? = some ⟨id, false⟩) :
    (tracker.release guard).guards = tracker.guards.set guard ⟨id, true⟩ ∧
      (tracker.release guard).active = tracker.active - 1 := by
  have released : tracker.step (.release guard) = some
      { tracker with
        guards := tracker.guards.set guard ⟨id, true⟩
        active := tracker.active - 1
        notifying := if tracker.active = 1 then tracker.notifying + 1 else tracker.notifying } := by
    simp only [step, held]
  have first (given : Tracker) : given.release guard =
      ((given.step (.release guard)).getD given).steps [.notify] := rfl
  rw [first, released]
  exact steps_notify _

end Tracker

namespace AcceptLoop

variable {loop after : AcceptLoop}

/-! ## What one step does -/

/-- What the outcome of an accept does to the loop before it looks whether to stop. -/
theorem take_error (loop : AcceptLoop) (error : AcceptError) :
    (loop.take (.error error)).tracker = loop.tracker ∧
      (loop.take (.error error)).handlers = loop.handlers ∧
      (loop.take (.error error)).phase = loop.phase ∧
      (loop.take (.error error)).stopRequested = loop.stopRequested := by
  unfold take
  simp only
  split
  · exact ⟨rfl, rfl, rfl, rfl⟩
  · exact ⟨rfl, rfl, rfl, rfl⟩

theorem look_same (loop : AcceptLoop) :
    loop.look.tracker = loop.tracker ∧ loop.look.handlers = loop.handlers ∧
      loop.look.stopRequested = loop.stopRequested ∧
      loop.look.phase = (if loop.stopRequested then .draining else loop.phase) ∧
      loop.look.looking = false := by
  unfold look
  split
  · exact ⟨rfl, rfl, rfl, rfl, rfl⟩
  · exact ⟨rfl, rfl, rfl, rfl, rfl⟩

theorem step_accept {outcome : Except AcceptError Unit}
    (taken : loop.step (.accept outcome) = some after) :
    loop.phase = .accepting ∧ loop.looking = false ∧
      after = { loop.take outcome with looking := true } := by
  simp only [step] at taken
  split at taken
  · rename_i ready
    exact ⟨ready.1, ready.2, (Option.some.inj taken).symm⟩
  · simp at taken

theorem step_look (taken : loop.step .look = some after) :
    loop.looking = true ∧ after = loop.look := by
  simp only [step] at taken
  split at taken
  · rename_i looks
    exact ⟨looks, (Option.some.inj taken).symm⟩
  · simp at taken

theorem step_requestStop (taken : loop.step .requestStop = some after) :
    after = { loop with stopRequested := true } :=
  (Option.some.inj taken).symm

theorem step_shut {handler : Nat} {exit : HandlerExit}
    (taken : loop.step (.shut handler exit) = some after) :
    loop.handlers[handler]? = some .running ∧
      after = { loop with handlers := loop.handlers.set handler (.shut exit) } := by
  simp only [step] at taken
  split at taken
  · rename_i running
    exact ⟨running, (Option.some.inj taken).symm⟩
  · simp at taken

theorem step_leave {handler : Nat} (taken : loop.step (.leave handler) = some after) :
    ∃ exit, loop.handlers[handler]? = some (.shut exit) ∧
      after = { loop with
        handlers := loop.handlers.set handler (.ended exit)
        tracker := loop.tracker.release handler
        metrics := loop.metrics ++ [.closed] } := by
  simp only [step] at taken
  split at taken
  · rename_i exit shut
    exact ⟨exit, shut, (Option.some.inj taken).symm⟩
  · simp at taken

theorem step_finish (taken : loop.step .finish = some after) :
    loop.phase = .draining ∧ loop.tracker.active = 0 ∧
      after = { loop.note .info "All handlers finished" [] with phase := .stopped } := by
  simp only [step] at taken
  split at taken
  · rename_i idle
    exact ⟨idle.1, idle.2, (Option.some.inj taken).symm⟩
  · simp at taken

/-! ## Which handlers are gone -/

/-- Whether the handler of each accepted connection is gone. -/
def endings (loop : AcceptLoop) : List Bool := loop.handlers.map HandlerPhase.hasEnded

theorem endings_getElem? {handler : Nat} {phase : HandlerPhase}
    (there : loop.handlers[handler]? = some phase) :
    loop.endings[handler]? = some phase.hasEnded := by
  rw [endings, List.getElem?_map, there, Option.map_some]

theorem endings_accept_ok (taken : loop.step (.accept (.ok ())) = some after) :
    after.endings = loop.endings ++ [false] ∧
      after.tracker = loop.tracker.track := by
  obtain ⟨-, -, rfl⟩ := step_accept taken
  exact ⟨List.map_append, rfl⟩

theorem endings_accept_error {error : AcceptError}
    (taken : loop.step (.accept (.error error)) = some after) :
    after.endings = loop.endings ∧ after.tracker = loop.tracker := by
  obtain ⟨-, -, rfl⟩ := step_accept taken
  obtain ⟨tracker, handlers, -, -⟩ := take_error loop error
  exact ⟨congrArg (List.map HandlerPhase.hasEnded) handlers, tracker⟩

theorem endings_look (taken : loop.step .look = some after) :
    after.endings = loop.endings ∧ after.tracker = loop.tracker := by
  obtain ⟨-, rfl⟩ := step_look taken
  obtain ⟨tracker, handlers, -⟩ := look_same loop
  exact ⟨congrArg (List.map HandlerPhase.hasEnded) handlers, tracker⟩

theorem endings_shut {handler : Nat} {exit : HandlerExit}
    (taken : loop.step (.shut handler exit) = some after) :
    after.endings = loop.endings ∧ after.tracker = loop.tracker := by
  obtain ⟨running, rfl⟩ := step_shut taken
  refine ⟨?_, rfl⟩
  have there := endings_getElem? running
  obtain ⟨inside, value⟩ := List.getElem?_eq_some_iff.mp there
  have same : loop.endings.set handler (HandlerPhase.shut exit).hasEnded = loop.endings := by
    rw [show (HandlerPhase.shut exit).hasEnded = loop.endings[handler] from value.symm]
    exact List.set_getElem_self inside
  rw [← same]
  exact List.map_set

theorem endings_leave {handler : Nat} (taken : loop.step (.leave handler) = some after) :
    loop.endings[handler]? = some false ∧ after.endings = loop.endings.set handler true ∧
      after.tracker = loop.tracker.release handler := by
  obtain ⟨exit, shut, rfl⟩ := step_leave taken
  exact ⟨endings_getElem? shut, List.map_set, rfl⟩

/-! ## What every step preserves -/

/-- The guards that have been released are those of the handlers that are gone, and the count is
the number of the others. The loop looks only while it accepts, leaves accepting only when it has
been asked to, and stops only when the count is zero. -/
structure Sound (loop : AcceptLoop) : Prop where
  guards : loop.tracker.guards.map Guard.released = loop.endings
  active : loop.tracker.active + loop.endings.count true = loop.endings.length
  looks : loop.looking = true → loop.phase = .accepting
  asked : loop.phase ≠ .accepting → loop.stopRequested = true
  idle : loop.phase = .stopped → loop.tracker.active = 0

theorem sound_start (logPrefix : String) (listener : Listener) :
    (start logPrefix listener).Sound := by
  constructor
  · rfl
  · rfl
  · intro looking
    rfl
  · intro left
    exact absurd rfl left
  · intro stopped
    rfl

theorem Sound.held (sound : loop.Sound) {handler : Nat}
    (there : loop.endings[handler]? = some false) :
    ∃ id, loop.tracker.guards[handler]? = some ⟨id, false⟩ := by
  rw [← sound.guards, List.getElem?_map] at there
  obtain ⟨⟨id, released⟩, found, free⟩ := Option.map_eq_some_iff.mp there
  subst free
  exact ⟨id, found⟩

theorem Sound.active_pos (sound : loop.Sound) {handler : Nat}
    (there : loop.endings[handler]? = some false) :
    0 < loop.tracker.active := by
  have member : false ∈ loop.endings := List.mem_of_getElem? there
  have fewer : loop.endings.count true < loop.endings.length := by
    apply Nat.lt_of_le_of_ne List.count_le_length
    intro all
    rw [List.count_eq_length] at all
    exact absurd (all false member) (by decide)
  have counted := sound.active
  omega

theorem sound_accept {outcome : Except AcceptError Unit} (sound : loop.Sound)
    (taken : loop.step (.accept outcome) = some after) :
    after.Sound := by
  have accepting : after.phase = .accepting := by
    obtain ⟨accepting, -, rfl⟩ := step_accept taken
    cases outcome with
    | ok =>
        exact accepting
    | error error =>
        exact (take_error loop error).2.2.1.trans accepting
  have asked : after.phase ≠ .accepting → after.stopRequested = true :=
    fun left => absurd accepting left
  have going : after.phase ≠ .stopped := by simp [accepting]
  cases outcome with
  | error error =>
      obtain ⟨endings, tracker⟩ := endings_accept_error taken
      refine ⟨?_, ?_, fun _ => accepting, asked, fun stopped => absurd stopped going⟩
      · rw [endings, tracker, sound.guards]
      · rw [endings, tracker, sound.active]
  | ok =>
      obtain ⟨endings, tracker⟩ := endings_accept_ok taken
      refine ⟨?_, ?_, fun _ => accepting, asked, fun stopped => absurd stopped going⟩
      · rw [endings, tracker, Tracker.track_eq, List.map_append, sound.guards]
        rfl
      · have counted := sound.active
        rw [endings, tracker, Tracker.track_eq, List.count_append, List.length_append]
        show loop.tracker.active + 1 + (loop.endings.count true + 0) = loop.endings.length + 1
        omega

theorem sound_look (sound : loop.Sound) (taken : loop.step .look = some after) : after.Sound := by
  obtain ⟨endings, tracker⟩ := endings_look taken
  obtain ⟨looking, rfl⟩ := step_look taken
  obtain ⟨-, -, request, phase, done⟩ := look_same loop
  refine ⟨by rw [endings, tracker, sound.guards], by rw [endings, tracker, sound.active], ?_, ?_, ?_⟩
  · intro looksAgain
    rw [done] at looksAgain
    cases looksAgain
  · intro left
    rw [request]
    by_contra free
    rw [phase, if_neg free] at left
    exact left (sound.looks looking)
  · intro stopped
    rw [phase, sound.looks looking] at stopped
    split at stopped <;> cases stopped

theorem sound_leave {handler : Nat} (sound : loop.Sound)
    (taken : loop.step (.leave handler) = some after) :
    after.Sound := by
  obtain ⟨there, endings, tracker⟩ := endings_leave taken
  obtain ⟨exit, shut, same⟩ := step_leave taken
  obtain ⟨id, held⟩ := sound.held there
  obtain ⟨guards, active⟩ := Tracker.release_of_held held
  obtain ⟨inside, value⟩ := List.getElem?_eq_some_iff.mp there
  constructor
  · rw [endings, tracker, guards, List.map_set, sound.guards]
  · have counted := sound.active
    have some := sound.active_pos there
    rw [endings, tracker, active, List.count_set inside, List.length_set, value]
    show loop.tracker.active - 1 + (loop.endings.count true - 0 + 1) = loop.endings.length
    omega
  · rw [same]
    exact sound.looks
  · rw [same]
    exact sound.asked
  · intro stopped
    rw [same] at stopped
    rw [tracker, active, sound.idle stopped]

theorem sound_step {next : LoopStep} (sound : loop.Sound) (taken : loop.step next = some after) :
    after.Sound := by
  cases next with
  | accept outcome =>
      exact sound_accept sound taken
  | look =>
      exact sound_look sound taken
  | requestStop =>
      rw [step_requestStop taken]
      exact ⟨sound.guards, sound.active, sound.looks, fun _ => rfl, sound.idle⟩
  | shut handler exit =>
      obtain ⟨endings, tracker⟩ := endings_shut taken
      obtain ⟨-, same⟩ := step_shut taken
      refine ⟨?_, ?_, ?_, ?_, ?_⟩
      · rw [endings, tracker, sound.guards]
      · rw [endings, tracker, sound.active]
      · rw [same]
        exact sound.looks
      · rw [same]
        exact sound.asked
      · rw [same]
        exact sound.idle
  | leave handler =>
      exact sound_leave sound taken
  | finish =>
      obtain ⟨draining, idle, rfl⟩ := step_finish taken
      refine ⟨sound.guards, sound.active, ?_, ?_, ?_⟩
      · intro looks
        cases draining.symm.trans (sound.looks looks)
      · intro left
        apply sound.asked
        simp [draining]
      · intro stopped
        exact idle

/-! ## Runs -/

/-- Takes steps one after the other, each of which must be possible. -/
def follow (loop : AcceptLoop) (taken : List LoopStep) : Option AcceptLoop :=
  taken.foldlM step loop

theorem follow_singleton (loop : AcceptLoop) (next : LoopStep) :
    loop.follow [next] = loop.step next := by
  rw [follow, List.foldlM_cons]
  cases loop.step next <;> rfl

theorem follow_append {before later : List LoopStep}
    (run : loop.follow (before ++ later) = some after) :
    ∃ middle, loop.follow before = some middle ∧ middle.follow later = some after := by
  rw [follow, List.foldlM_append] at run
  exact Option.bind_eq_some_iff.mp run

theorem follow_cons {next : LoopStep} {later : List LoopStep}
    (run : loop.follow (next :: later) = some after) :
    ∃ middle, loop.step next = some middle ∧ middle.follow later = some after := by
  rw [follow, List.foldlM_cons] at run
  exact Option.bind_eq_some_iff.mp run

theorem follow_concat {next : LoopStep} {before : List LoopStep}
    (run : loop.follow (before ++ [next]) = some after) :
    ∃ middle, loop.follow before = some middle ∧ middle.step next = some after := by
  obtain ⟨middle, first, last⟩ := follow_append run
  obtain ⟨final, taken, nothing⟩ := follow_cons last
  cases Option.some.inj nothing
  exact ⟨middle, first, taken⟩

theorem sound_follow {taken : List LoopStep} (sound : loop.Sound)
    (run : loop.follow taken = some after) :
    after.Sound := by
  induction taken generalizing loop with
  | nil =>
      cases Option.some.inj run
      exact sound
  | cons next later inductionHypothesis =>
      obtain ⟨middle, taken, rest⟩ := follow_cons run
      exact inductionHypothesis (sound_step sound taken) rest

/-! ## After a request to stop -/

/-- No outcome of an accept is taken any more: the loop has left accepting, or it is about to look
and has been asked to. -/
def AcceptsNoMore (loop : AcceptLoop) : Prop :=
  loop.phase = .accepting → loop.looking = true ∧ loop.stopRequested = true

theorem acceptsNoMore_step {next : LoopStep} (noMore : loop.AcceptsNoMore)
    (taken : loop.step next = some after) :
    next.isAccept = false ∧ after.AcceptsNoMore := by
  cases next with
  | accept outcome =>
      obtain ⟨accepting, idle, -⟩ := step_accept taken
      rw [(noMore accepting).1] at idle
      cases idle
  | look =>
      obtain ⟨-, rfl⟩ := step_look taken
      obtain ⟨-, -, -, phase, -⟩ := look_same loop
      refine ⟨rfl, ?_⟩
      intro accepting
      rw [phase] at accepting
      split at accepting
      · cases accepting
      · rename_i free
        exact absurd (noMore accepting).2 free
  | requestStop =>
      rw [step_requestStop taken]
      exact ⟨rfl, fun accepting => ⟨(noMore accepting).1, rfl⟩⟩
  | shut handler exit =>
      rw [(step_shut taken).2]
      exact ⟨rfl, noMore⟩
  | leave handler =>
      obtain ⟨exit, -, rfl⟩ := step_leave taken
      exact ⟨rfl, noMore⟩
  | finish =>
      obtain ⟨-, -, rfl⟩ := step_finish taken
      exact ⟨rfl, fun accepting => by cases accepting⟩

theorem no_accept_follow {taken : List LoopStep} (noMore : loop.AcceptsNoMore)
    (run : loop.follow taken = some after) :
    taken.countP LoopStep.isAccept = 0 := by
  induction taken generalizing loop with
  | nil =>
      rfl
  | cons next later inductionHypothesis =>
      obtain ⟨middle, first, rest⟩ := follow_cons run
      obtain ⟨other, stays⟩ := acceptsNoMore_step noMore first
      rw [List.countP_cons_of_neg (by simp [other])]
      exact inductionHypothesis stays rest

theorem stopRequested_step {next : LoopStep} (asked : loop.stopRequested = true)
    (taken : loop.step next = some after) :
    after.stopRequested = true ∧ (next.isAccept = true → after.AcceptsNoMore) := by
  cases next with
  | accept outcome =>
      obtain ⟨-, -, rfl⟩ := step_accept taken
      have still : (loop.take outcome).stopRequested = true := by
        cases outcome with
        | ok =>
            exact asked
        | error error =>
            exact (take_error loop error).2.2.2.trans asked
      exact ⟨still, fun _ _ => ⟨rfl, still⟩⟩
  | look =>
      obtain ⟨-, rfl⟩ := step_look taken
      exact ⟨(look_same loop).2.2.1.trans asked, fun other => absurd other (by decide)⟩
  | requestStop =>
      rw [step_requestStop taken]
      exact ⟨rfl, fun other => absurd other (by decide)⟩
  | shut handler exit =>
      rw [(step_shut taken).2]
      exact ⟨asked, fun other => absurd other (by simp [LoopStep.isAccept])⟩
  | leave handler =>
      obtain ⟨exit, -, rfl⟩ := step_leave taken
      exact ⟨asked, fun other => absurd other (by simp [LoopStep.isAccept])⟩
  | finish =>
      obtain ⟨-, -, rfl⟩ := step_finish taken
      exact ⟨asked, fun other => absurd other (by decide)⟩

/-- Once it has been asked to stop, the loop takes at most the outcome of the accept under way. -/
theorem accept_once_after_request {taken : List LoopStep} (asked : loop.stopRequested = true)
    (run : loop.follow taken = some after) :
    taken.countP LoopStep.isAccept ≤ 1 := by
  induction taken generalizing loop with
  | nil =>
      exact Nat.zero_le 1
  | cons next later inductionHypothesis =>
      obtain ⟨middle, first, rest⟩ := follow_cons run
      obtain ⟨stays, leaves⟩ := stopRequested_step asked first
      by_cases accepts : next.isAccept = true
      · have none := no_accept_follow (leaves accepts) rest
        rw [List.countP_cons_of_pos accepts]
        omega
      · rw [List.countP_cons_of_neg accepts]
        exact inductionHypothesis stays rest

/-! ## What a run leaves behind -/

/-- There is an ending for each connection that has been brought, and it says whether its handler
has left, which none does twice. -/
structure Counted (taken : List LoopStep) (endings : List Bool) : Prop where
  brought : taken.countP LoopStep.brings = endings.length
  left : taken.countP LoopStep.isLeave = endings.count true
  once : ∀ handler, taken.countP (LoopStep.isLeaveOf handler) =
    if endings[handler]? = some true then 1 else 0

/-- Whoever has stopped running has shut its connection. -/
def ShutFirst (taken : List LoopStep) (handlers : List HandlerPhase) : Prop :=
  ∀ handler phase, handlers[handler]? = some phase → phase ≠ .running →
    ∃ exit, .shut handler exit ∈ taken

section

variable {taken : List LoopStep} {next : LoopStep} {endings : List Bool}

theorem Counted.quiet (counted : Counted taken endings) (noBring : next.brings = false)
    (noLeave : next.isLeave = false) :
    Counted (taken ++ [next]) endings := by
  constructor
  · simpa [noBring] using counted.brought
  · simpa [noLeave] using counted.left
  · intro handler
    have other : next.isLeaveOf handler = false := by
      cases next <;> simp_all [LoopStep.isLeave, LoopStep.isLeaveOf]
    simpa [other] using counted.once handler

theorem Counted.bring (counted : Counted taken endings) :
    Counted (taken ++ [.accept (.ok ())]) (endings ++ [false]) := by
  constructor
  · simpa [LoopStep.brings] using counted.brought
  · simpa [LoopStep.isLeave] using counted.left
  · intro handler
    have same : (endings ++ [false])[handler]? = some true ↔ endings[handler]? = some true := by
      rw [List.getElem?_append]
      split
      · rfl
      · rename_i beyond
        rw [List.getElem?_eq_none (Nat.le_of_not_lt beyond), List.getElem?_singleton]
        split <;> simp
    simp only [same, List.countP_append, List.countP_singleton, LoopStep.isLeaveOf, counted.once]
    simp

theorem Counted.leave {handler : Nat} (counted : Counted taken endings)
    (there : endings[handler]? = some false) :
    Counted (taken ++ [.leave handler]) (endings.set handler true) := by
  obtain ⟨inside, value⟩ := List.getElem?_eq_some_iff.mp there
  constructor
  · simpa [LoopStep.brings] using counted.brought
  · rw [List.countP_append, counted.left, List.count_set inside, value]
    simp [LoopStep.isLeave]
  · intro other
    rw [List.countP_append, counted.once other, List.getElem?_set]
    by_cases same : handler = other
    · subst same
      simp [inside, value, LoopStep.isLeaveOf]
    · simp [same, LoopStep.isLeaveOf]

end

variable {taken : List LoopStep} {next : LoopStep}

theorem counted_step (counted : Counted taken loop.endings)
    (possible : loop.step next = some after) :
    Counted (taken ++ [next]) after.endings := by
  cases next with
  | accept outcome =>
      cases outcome with
      | ok =>
          rw [(endings_accept_ok possible).1]
          exact counted.bring
      | error error =>
          rw [(endings_accept_error possible).1]
          exact counted.quiet rfl rfl
  | look =>
      rw [(endings_look possible).1]
      exact counted.quiet rfl rfl
  | requestStop =>
      rw [step_requestStop possible]
      exact counted.quiet rfl rfl
  | shut handler exit =>
      rw [(endings_shut possible).1]
      exact counted.quiet rfl rfl
  | leave handler =>
      obtain ⟨there, endings, -⟩ := endings_leave possible
      rw [endings]
      exact counted.leave there
  | finish =>
      obtain ⟨-, -, rfl⟩ := step_finish possible
      exact counted.quiet rfl rfl

theorem shutFirst_step (earlier : ShutFirst taken loop.handlers)
    (possible : loop.step next = some after) :
    ShutFirst (taken ++ [next]) after.handlers := by
  have kept : ShutFirst (taken ++ [next]) loop.handlers := by
    intro handler phase there gone
    obtain ⟨exit, member⟩ := earlier handler phase there gone
    exact ⟨exit, List.mem_append_left _ member⟩
  cases next with
  | accept outcome =>
      obtain ⟨-, -, rfl⟩ := step_accept possible
      cases outcome with
      | error error =>
          show ShutFirst _ (loop.take (.error error)).handlers
          rw [(take_error loop error).2.1]
          exact kept
      | ok =>
          intro handler phase there gone
          have still : loop.handlers[handler]? = some phase := by
            simp only [take] at there
            rw [List.getElem?_append] at there
            split at there
            · exact there
            · rw [List.getElem?_singleton] at there
              split at there
              · exact absurd (Option.some.inj there).symm gone
              · simp at there
          exact kept handler phase still gone
  | look =>
      obtain ⟨-, rfl⟩ := step_look possible
      rw [(look_same loop).2.1]
      exact kept
  | requestStop =>
      rw [step_requestStop possible]
      exact kept
  | shut handler exit =>
      rw [(step_shut possible).2]
      intro other phase there gone
      by_cases same : handler = other
      · subst same
        exact ⟨exit, by simp⟩
      · rw [List.getElem?_set_ne same] at there
        exact kept other phase there gone
  | leave handler =>
      obtain ⟨exit, shut, rfl⟩ := step_leave possible
      intro other phase there gone
      by_cases same : handler = other
      · subst same
        exact kept handler (.shut exit) shut (by simp)
      · rw [List.getElem?_set_ne same] at there
        exact kept other phase there gone
  | finish =>
      obtain ⟨-, -, rfl⟩ := step_finish possible
      exact kept

theorem asked_step (asked : loop.stopRequested = true ↔ .requestStop ∈ taken)
    (possible : loop.step next = some after) :
    after.stopRequested = true ↔ .requestStop ∈ taken ++ [next] := by
  rw [List.mem_append, List.mem_singleton, ← asked]
  cases next with
  | accept outcome =>
      obtain ⟨-, -, rfl⟩ := step_accept possible
      cases outcome with
      | ok =>
          simp [take]
      | error error =>
          simp [(take_error loop error).2.2.2]
  | look =>
      obtain ⟨-, rfl⟩ := step_look possible
      simp [(look_same loop).2.2.1]
  | requestStop =>
      simp [step_requestStop possible]
  | shut handler exit =>
      simp [(step_shut possible).2]
  | leave handler =>
      obtain ⟨exit, -, rfl⟩ := step_leave possible
      simp
  | finish =>
      obtain ⟨-, -, rfl⟩ := step_finish possible
      simp [note]

/-- What the steps taken since the start have made of the loop. -/
theorem follow_start {logPrefix : String} {listener : Listener}
    (run : (start logPrefix listener).follow taken = some loop) :
    Counted taken loop.endings ∧ ShutFirst taken loop.handlers ∧
      (loop.stopRequested = true ↔ .requestStop ∈ taken) := by
  induction taken using List.reverseRecOn generalizing loop with
  | nil =>
      cases Option.some.inj run
      refine ⟨⟨rfl, rfl, fun handler => rfl⟩, ?_, ?_⟩
      · intro handler phase there
        simp [start, note] at there
      · simp [start, note]
  | append_singleton before next inductionHypothesis =>
      obtain ⟨middle, first, last⟩ := follow_concat run
      obtain ⟨counted, earlier, asked⟩ := inductionHypothesis first
      exact ⟨counted_step counted last, shutFirst_step earlier last, asked_step asked last⟩

/-! ## Safe draining -/

theorem stopped_step (sound : loop.Sound) (stopped : loop.phase = .stopped)
    (possible : loop.step next = some after) :
    after.phase = .stopped := by
  have nobody (handler : Nat) : loop.endings[handler]? ≠ some false := by
    intro there
    have some := sound.active_pos there
    have none := sound.idle stopped
    omega
  cases next with
  | accept outcome =>
      have accepting := (step_accept possible).1
      simp [stopped] at accepting
  | look =>
      have accepting := sound.looks (step_look possible).1
      simp [stopped] at accepting
  | requestStop =>
      rw [step_requestStop possible]
      exact stopped
  | shut handler exit =>
      exact absurd (endings_getElem? (step_shut possible).1) (nobody handler)
  | leave handler =>
      exact absurd (endings_leave possible).1 (nobody handler)
  | finish =>
      have draining := (step_finish possible).1
      simp [stopped] at draining

theorem stopped_follow {later : List LoopStep} (sound : loop.Sound)
    (stopped : loop.phase = .stopped) (run : loop.follow later = some after) :
    after.phase = .stopped := by
  induction later generalizing loop with
  | nil =>
      cases Option.some.inj run
      exact stopped
  | cons next others inductionHypothesis =>
      obtain ⟨middle, first, rest⟩ := follow_cons run
      exact inductionHypothesis (sound_step sound first) (stopped_step sound stopped first) rest

theorem Sound.all_ended (sound : loop.Sound) (idle : loop.tracker.active = 0) :
    ∀ ended ∈ loop.endings, ended = true := by
  have all := sound.active
  rw [idle, Nat.zero_add, List.count_eq_length] at all
  exact fun ended member => (all ended member).symm

/-- Nothing but an accepted connection and a handler that leaves changes the count. -/
theorem active_step (sound : loop.Sound) (possible : loop.step next = some after) :
    after.tracker.active + (if next.isLeave then 1 else 0) =
      loop.tracker.active + (if next.brings then 1 else 0) := by
  cases next with
  | accept outcome =>
      cases outcome with
      | ok =>
          rw [(endings_accept_ok possible).2]
          rfl
      | error error =>
          rw [(endings_accept_error possible).2]
          rfl
  | look =>
      rw [(endings_look possible).2]
      rfl
  | requestStop =>
      rw [step_requestStop possible]
      rfl
  | shut handler exit =>
      rw [(endings_shut possible).2]
      rfl
  | leave handler =>
      obtain ⟨there, -, tracker⟩ := endings_leave possible
      obtain ⟨id, held⟩ := sound.held there
      have some := sound.active_pos there
      rw [tracker, (Tracker.release_of_held held).2]
      show loop.tracker.active - 1 + 1 = loop.tracker.active + 0
      omega
  | finish =>
      obtain ⟨-, -, rfl⟩ := step_finish possible
      rfl

/-- What holds of a loop after any run from its start. -/
structure DrainsSafely (taken : List LoopStep) (loop : AcceptLoop) : Prop where
  /-- The count is that of the connections accepted less that of the handlers gone. -/
  count : loop.tracker.active + taken.countP LoopStep.isLeave = taken.countP LoopStep.brings
  /-- An accepted connection adds one to the count, a handler that leaves takes one from a count
  that is not zero, and nothing else changes it. -/
  change : ∀ next after, loop.step next = some after →
    after.tracker.active + (if next.isLeave then 1 else 0) =
      loop.tracker.active + (if next.brings then 1 else 0)
  /-- Every accepted connection has a handler, and no other handler leaves. -/
  handlers : loop.handlers.length = taken.countP LoopStep.brings
  /-- A handler that is gone has left once, and no other has left. -/
  once : ∀ handler, taken.countP (LoopStep.isLeaveOf handler) =
    if loop.endings[handler]? = some true then 1 else 0
  /-- Before a handler leaves it has shut its connection. -/
  shutFirst : ∀ handler before later, taken = before ++ .leave handler :: later →
    ∃ exit, .shut handler exit ∈ before
  /-- After a request to stop at most one more accept is taken into account. -/
  lateAccept : ∀ before later, taken = before ++ .requestStop :: later →
    later.countP LoopStep.isAccept ≤ 1
  /-- Once the loop has seen the request, none is. -/
  noAccept : loop.phase ≠ .accepting → ∀ later final, loop.follow later = some final →
    later.countP LoopStep.isAccept = 0
  /-- A failure to accept changes neither the count nor the handlers, and without a request to
  stop the loop goes on. -/
  failure : ∀ error after, loop.step (.accept (.error error)) = some after →
    after.tracker = loop.tracker ∧ after.handlers = loop.handlers ∧
      (.requestStop ∉ taken → after.phase = .accepting)
  /-- When the loop looks, it goes on accepting unless it has been asked to stop. -/
  looked : ∀ after, loop.step .look = some after →
    (.requestStop ∈ taken → after.phase = .draining) ∧
      (.requestStop ∉ taken → after.phase = .accepting)
  /-- The loop leaves accepting only when it has been asked to stop. -/
  asked : loop.phase ≠ .accepting → .requestStop ∈ taken
  /-- The loop stops only when it has been asked to and the handler of every connection has left;
  then nobody is counted any more. -/
  stopped : loop.phase = .stopped → .requestStop ∈ taken ∧
    (∀ handler < loop.handlers.length, taken.countP (LoopStep.isLeaveOf handler) = 1) ∧
    ∀ later final, loop.follow later = some final →
      final.phase = .stopped ∧ final.tracker.active = 0
  /-- A further request to stop changes nothing. -/
  again : .requestStop ∈ taken → loop.step .requestStop = some loop

/-- Whatever order the loop, the handlers and those who ask for shutdown take their steps in, the
loop drains safely. -/
theorem drainsSafely_of_follow {logPrefix : String} {listener : Listener}
    (run : (start logPrefix listener).follow taken = some loop) :
    DrainsSafely taken loop := by
  have sound : loop.Sound := sound_follow (sound_start logPrefix listener) run
  obtain ⟨counted, -, asked⟩ := follow_start run
  have length : loop.endings.length = loop.handlers.length := List.length_map _
  constructor
  · rw [counted.left, sound.active, counted.brought]
  · intro next after possible
    exact active_step sound possible
  · rw [counted.brought, length]
  · exact counted.once
  · rintro handler before later rfl
    obtain ⟨middle, first, rest⟩ := follow_append run
    obtain ⟨next, possible, -⟩ := follow_cons rest
    obtain ⟨exit, shut, -⟩ := step_leave possible
    exact (follow_start first).2.1 handler (.shut exit) shut (by simp)
  · rintro before later rfl
    obtain ⟨middle, first, rest⟩ := follow_append run
    obtain ⟨next, possible, last⟩ := follow_cons rest
    have requested : next.stopRequested = true := by rw [step_requestStop possible]
    exact accept_once_after_request requested last
  · intro left later final more
    exact no_accept_follow (fun accepting => absurd accepting left) more
  · intro error after possible
    refine ⟨(endings_accept_error possible).2, ?_, ?_⟩
    · obtain ⟨-, -, rfl⟩ := step_accept possible
      exact (take_error loop error).2.1
    · intro free
      by_contra left
      have requested := (sound_step sound possible).asked left
      rw [asked_step asked possible] at requested
      simp [free] at requested
  · intro after possible
    obtain ⟨looking, rfl⟩ := step_look possible
    rw [(look_same loop).2.2.2.1, sound.looks looking]
    exact ⟨fun member => if_pos (asked.mpr member), fun free => if_neg (mt asked.mp free)⟩
  · intro left
    exact asked.mp (sound.asked left)
  · intro stopped
    have requested : loop.stopRequested = true := sound.asked (by simp [stopped])
    refine ⟨asked.mp requested, ?_, ?_⟩
    · intro handler inside
      rw [← length] at inside
      have ended := sound.all_ended (sound.idle stopped) _ (List.getElem_mem inside)
      rw [counted.once, if_pos (List.getElem?_eq_some_iff.mpr ⟨inside, ended⟩)]
    · intro later final more
      have stays := stopped_follow sound stopped more
      exact ⟨stays, (sound_follow sound more).idle stays⟩
  · intro member
    have requested := asked.mpr member
    show some { loop with stopRequested := true } = some loop
    rw [← requested]

/-- A connection that is accepted between the request to stop and the next look is waited for too,
and a request may come between an accept and its look. -/
theorem drainsSafely_of_late_connection :
    let listener : Listener :=
      { number := 3, address := .short ⟨127, 0, 0, 1⟩ 8080, acceptTimeout := 500 }
    let taken : List LoopStep :=
      [.accept (.ok ()), .look, .requestStop, .accept (.ok ()), .requestStop, .look, .shut 1 .fault,
        .shut 0 .finished, .leave 0, .leave 1, .finish]
    ∃ loop, (start "" listener).follow taken = some loop ∧ loop.phase = .stopped ∧
      DrainsSafely taken loop := by
  intro listener taken
  exact ⟨_, rfl, rfl, drainsSafely_of_follow rfl⟩

end AcceptLoop

end HttpServer
