import HttpServer.Crowd
import HttpServer.Proofs.Drain

/-!
# What a step of a crowd does

A crowd takes a step of its loop, of one of its handlers, or of a handler with the loop: whoever has
shut a connection is known to have done so from the same step on. So a run of a crowd is a run of
its loop, in which a connection is shut by the handler that serves it and by nothing else, and each
handler stands where the loop says it does.
-/

namespace HttpServer

def CrowdStep.arrival? : CrowdStep → Option Arrival
  | .accept arrival => some arrival
  | _ => none

theorem CrowdStep.arrivals_cons (next : CrowdStep) (later : List CrowdStep) :
    (next :: later).filterMap arrival? = next.arrival?.toList ++ later.filterMap arrival? := by
  rw [List.filterMap_cons]
  cases next.arrival? <;> rfl

/-- A connection is closed by closing it, and by nothing else. -/
theorem Connection.closing_of_closed {service : Service} {connection : Connection}
    (going : connection.phase.isOver = false)
    (closed : (connection.step service).phase = .closed) :
    connection.phase = .closing := by
  cases phase : connection.phase with
  | closing =>
      rfl
  | closed | collapsed =>
      rw [phase] at going
      cases going
  | reading =>
      simp only [step, phase, read] at closed
      split at closed <;> cases closed
  | dispatching context keepAlive =>
      simp only [step, phase, dispatch] at closed
      split at closed <;> cases closed
  | writing context response keepAlive =>
      simp only [step, phase, write, afterWrite] at closed
      split at closed
      · simp only at closed
        split at closed <;> cases closed
      · cases closed

theorem Connection.step_of_fault {service : Service} {connection : Connection} {context : Context}
    {keepAlive : Bool} {fault : Fault} (phase : connection.phase = .dispatching context keepAlive)
    (fails : service.pipeline.execute context = .error fault) :
    connection.step service =
      { connection.emit (.submitted context) with phase := .collapsed fault } := by
  rw [step, phase]
  simp only [dispatch, fails]

theorem Connection.isOver_atTime (connection : Connection) (time : Instant) :
    (connection.atTime time).phase.isOver = connection.phase.isOver := by
  unfold atTime
  cases connection.phase <;> rfl

namespace Handler

variable {service : Service} {handler next : Handler} {time : Instant}

theorem step_serving {connection : Connection} (going : connection.phase.isOver = false) :
    (serving connection).step service time =
      some (serving ((connection.atTime time).step service)) := by
  simp only [step, going, Bool.false_eq_true, if_false]

theorem serving_of_step (taken : handler.step service time = some next) :
    ∃ connection, handler = .serving connection ∧ connection.phase.isOver = false ∧
      next = .serving ((connection.atTime time).step service) := by
  cases handler with
  | refused event exit =>
      cases taken
  | serving connection =>
      simp only [step] at taken
      split at taken
      · cases taken
      · rename_i going
        exact ⟨connection, rfl, Bool.eq_false_iff.mpr going, (Option.some.inj taken).symm⟩

theorem isOver_of_step (taken : handler.step service time = some next) :
    handler.isOver = false := by
  obtain ⟨connection, rfl, going, -⟩ := serving_of_step taken
  exact going

theorem isOver_of_hasShut (shut : handler.hasShut = true) : handler.isOver = true :=
  (Bool.and_eq_true_iff.mp shut).1

theorem hasShut_of_going (going : handler.isOver = false) : handler.hasShut = false := by
  rw [hasShut, going]
  rfl

theorem hasShut_of_isOver (finished : handler.isOver = true) (lives : handler.endsProcess = false) :
    handler.hasShut = true := by
  rw [hasShut, finished, lives]
  rfl

theorem hasShut_of_collapsed {connection : Connection} {fault : Fault}
    (phase : connection.phase = .collapsed fault) (mild : fault.endsProcess = false) :
    (serving connection).hasShut = true := by
  simp only [hasShut, isOver, endsProcess, phase, Phase.isOver, Phase.endsProcess, mild]
  rfl

/-- What the loop is told when a handler has taken a step. -/
def shutting (handler : Handler) (index : Nat) : List LoopStep :=
  if handler.hasShut then [.shut index handler.exit] else []

theorem shut_of_mem_shutting {index place : Nat} {exit : HandlerExit}
    (member : .shut place exit ∈ handler.shutting index) :
    handler.hasShut = true ∧ place = index ∧ exit = handler.exit := by
  unfold shutting at member
  split at member
  · rename_i done
    exact ⟨done, LoopStep.shut.inj (List.mem_singleton.mp member)⟩
  · cases member

theorem brings_shutting (handler : Handler) (index : Nat) :
    (handler.shutting index).countP LoopStep.brings = 0 := by
  unfold shutting
  split <;> rfl

/-- With its last step a handler has closed its connection, or a fault has ended it. -/
theorem exit_of_shut {connection : Connection} (going : connection.phase.isOver = false)
    (done : (serving (connection.step service)).hasShut = true) :
    connection.phase = .closing ∧ (serving (connection.step service)).exit = .finished ∨
      ∃ fault, (connection.step service).phase = .collapsed fault ∧ fault.endsProcess = false ∧
        (serving (connection.step service)).exit = .fault := by
  cases phase : (connection.step service).phase with
  | closed =>
      refine Or.inl ⟨Connection.closing_of_closed going phase, ?_⟩
      simp only [exit, Rehearsal.exitOf, phase]
  | collapsed fault =>
      simp only [hasShut, isOver, endsProcess, phase, Phase.isOver, Phase.endsProcess,
        Bool.true_and, Bool.not_eq_true'] at done
      refine Or.inr ⟨fault, rfl, done, ?_⟩
      simp only [exit, Rehearsal.exitOf, phase]
  | reading | dispatching | writing | closing =>
      simp [hasShut, isOver, phase, Phase.isOver] at done

/-- The loop knows how far the handler has come. -/
inductive StandsAt (handler : Handler) : HandlerPhase → Prop
  | running (serves : handler.hasShut = false) : StandsAt handler .running
  | shut (done : handler.hasShut = true) : StandsAt handler (.shut handler.exit)
  | ended (done : handler.hasShut = true) : StandsAt handler (.ended handler.exit)

theorem StandsAt.running_of_going {phase : HandlerPhase} (stands : handler.StandsAt phase)
    (going : handler.hasShut = false) :
    phase = .running := by
  cases stands with
  | running =>
      rfl
  | shut done | ended done =>
      rw [going] at done
      cases done

theorem StandsAt.hasShut {phase : HandlerPhase} (stands : handler.StandsAt phase)
    (left : phase ≠ .running) :
    handler.hasShut = true := by
  cases stands with
  | running =>
      exact absurd rfl left
  | shut done | ended done =>
      exact done

end Handler

namespace AcceptLoop

variable {loop after : AcceptLoop} {next : LoopStep} {handler : Handler} {index : Nat}

theorem same_of_isOfLoop (own : next.isOfLoop = true) (taken : loop.step next = some after) :
    after.handlers = loop.handlers ∧ after.tracker = loop.tracker := by
  cases next with
  | accept outcome =>
      cases outcome with
      | ok =>
          cases own
      | error error =>
          obtain ⟨-, -, rfl⟩ := step_accept taken
          obtain ⟨tracker, handlers, -, -⟩ := take_error loop error
          exact ⟨handlers, tracker⟩
  | look =>
      obtain ⟨-, rfl⟩ := step_look taken
      obtain ⟨tracker, handlers, -⟩ := look_same loop
      exact ⟨handlers, tracker⟩
  | requestStop =>
      rw [step_requestStop taken]
      exact ⟨rfl, rfl⟩
  | shut | leave =>
      cases own
  | finish =>
      obtain ⟨-, -, rfl⟩ := step_finish taken
      exact ⟨rfl, rfl⟩

theorem handlers_accept_ok (taken : loop.step (.accept (.ok ())) = some after) :
    after.handlers = loop.handlers ++ [.running] := by
  obtain ⟨-, -, rfl⟩ := step_accept taken
  rfl

/-! ## Behind a step of a handler -/

theorem behind_cases (moved : loop.behind index handler = some after) :
    handler.hasShut = false ∧ after = loop ∨
      handler.hasShut = true ∧ loop.step (.shut index handler.exit) = some after := by
  unfold behind at moved
  split at moved
  · rename_i shut
    exact .inr ⟨shut, moved⟩
  · rename_i serves
    exact .inl ⟨Bool.eq_false_iff.mpr serves, (Option.some.inj moved).symm⟩

theorem follow_shutting (loop : AcceptLoop) (index : Nat) (handler : Handler) :
    loop.follow (handler.shutting index) = loop.behind index handler := by
  unfold behind Handler.shutting
  split
  · exact AcceptLoop.follow_singleton loop _
  · rfl

theorem sound_behind (sound : loop.Sound) (moved : loop.behind index handler = some after) :
    after.Sound := by
  rcases behind_cases moved with ⟨-, rfl⟩ | ⟨-, shut⟩
  · exact sound
  · exact sound_step sound shut

theorem endings_behind (moved : loop.behind index handler = some after) :
    after.endings = loop.endings ∧ after.tracker = loop.tracker := by
  rcases behind_cases moved with ⟨-, rfl⟩ | ⟨-, shut⟩
  · exact ⟨rfl, rfl⟩
  · exact endings_shut shut

/-- The loop knows afterwards how far the handler has come, and has learned nothing else. -/
theorem handlers_behind (running : loop.handlers[index]? = some .running)
    (moved : loop.behind index handler = some after) :
    (∃ phase, after.handlers[index]? = some phase ∧ handler.StandsAt phase) ∧
      after.handlers.length = loop.handlers.length ∧
      ∀ {place : Nat}, index ≠ place → after.handlers[place]? = loop.handlers[place]? := by
  rcases behind_cases moved with ⟨serves, rfl⟩ | ⟨done, shut⟩
  · exact ⟨⟨_, running, .running serves⟩, rfl, fun _ => rfl⟩
  · obtain ⟨-, rfl⟩ := step_shut shut
    obtain ⟨inside, -⟩ := List.getElem?_eq_some_iff.mp running
    exact ⟨⟨_, List.getElem?_set_self inside, .shut done⟩, List.length_set,
      fun other => List.getElem?_set_ne other⟩

theorem behind_of_running (handler : Handler) (running : loop.handlers[index]? = some .running) :
    ∃ after, loop.behind index handler = some after := by
  unfold behind
  split
  · exact ⟨_, if_pos running⟩
  · exact ⟨loop, rfl⟩

end AcceptLoop

/-- What stands in a list with one more item at its end stood there before or is that item. -/
theorem cases_of_concat {α : Type} {items : List α} {last item : α} {index : Nat}
    (there : (items ++ [last])[index]? = some item) :
    index < items.length ∧ items[index]? = some item ∨ index = items.length ∧ item = last := by
  by_cases earlier : index < items.length
  · rw [List.getElem?_append_left earlier] at there
    exact Or.inl ⟨earlier, there⟩
  · rw [List.getElem?_append_right (Nat.not_lt.mp earlier)] at there
    rw [List.getElem?_singleton] at there
    split at there
    · rename_i none
      exact Or.inr ⟨by omega, (Option.some.inj there).symm⟩
    · cases there

namespace Crowd

variable {service : Service} {crowd after : Crowd} {index : Nat} {time : Instant}
  {arrival : Arrival}

/-! ## What one step does -/

theorem advance_of_step {next : CrowdStep} (taken : crowd.step service next = some after) :
    crowd.hasAborted = false ∧ crowd.advance service next = some after := by
  unfold step at taken
  split at taken
  · cases taken
  · rename_i lives
    exact ⟨Bool.eq_false_iff.mpr lives, taken⟩

theorem step_of_lives (lives : crowd.hasAborted = false) (next : CrowdStep) :
    crowd.step service next = crowd.advance service next :=
  if_neg (by rw [lives]; exact Bool.false_ne_true)

/-- A process that has ended takes no step any more. -/
theorem step_of_hasAborted (aborted : crowd.hasAborted = true) (next : CrowdStep) :
    crowd.step service next = none :=
  if_pos aborted

theorem step_accept (taken : crowd.step service (.accept arrival) = some after) :
    let handler := Handler.ofArrival service ⟨crowd.handlers.length + 1⟩ arrival
    ∃ accepted loop, crowd.loop.step (.accept (.ok ())) = some accepted ∧
      accepted.behind crowd.handlers.length handler = some loop ∧
      after = { loop, handlers := crowd.handlers ++ [handler] } := by
  obtain ⟨accepted, isAccepted, rest⟩ := Option.bind_eq_some_iff.mp (advance_of_step taken).2
  obtain ⟨loop, moved, same⟩ := Option.bind_eq_some_iff.mp rest
  exact ⟨accepted, loop, isAccepted, moved, (Option.some.inj same).symm⟩

theorem step_serve (taken : crowd.step service (.serve index time) = some after) :
    ∃ handler next loop, crowd.handlers[index]? = some handler ∧
      handler.step service time = some next ∧ crowd.loop.behind index next = some loop ∧
      after = { loop, handlers := crowd.handlers.set index next } := by
  obtain ⟨handler, there, rest⟩ := Option.bind_eq_some_iff.mp (advance_of_step taken).2
  obtain ⟨next, served, behind⟩ := Option.bind_eq_some_iff.mp rest
  obtain ⟨loop, moved, same⟩ := Option.bind_eq_some_iff.mp behind
  exact ⟨handler, next, loop, there, served, moved, (Option.some.inj same).symm⟩

theorem step_leave (taken : crowd.step service (.leave index) = some after) :
    ∃ loop, crowd.loop.step (.leave index) = some loop ∧ after = { crowd with loop } := by
  obtain ⟨loop, left, same⟩ := Option.map_eq_some_iff.mp (advance_of_step taken).2
  exact ⟨loop, left, same.symm⟩

theorem step_loop {next : LoopStep} (taken : crowd.step service (.loop next) = some after) :
    next.isOfLoop = true ∧
      ∃ loop, crowd.loop.step next = some loop ∧ after = { crowd with loop } := by
  have moved := (advance_of_step taken).2
  simp only [advance] at moved
  split at moved
  · rename_i own
    obtain ⟨loop, moved, same⟩ := Option.map_eq_some_iff.mp moved
    exact ⟨own, loop, moved, same.symm⟩
  · cases moved

theorem follow_cons {next : CrowdStep} {later : List CrowdStep}
    (run : crowd.follow service (next :: later) = some after) :
    ∃ middle, crowd.step service next = some middle ∧ middle.follow service later = some after := by
  rw [follow, List.foldlM_cons] at run
  exact Option.bind_eq_some_iff.mp run

/-- What one step preserves, a run preserves. -/
theorem invariant_of_follow {property : Crowd → Prop}
    (step : ∀ {before after : Crowd} {next : CrowdStep}, property before →
      before.step service next = some after → property after)
    {taken : List CrowdStep} (holds : property crowd)
    (run : crowd.follow service taken = some after) :
    property after := by
  induction taken generalizing crowd with
  | nil =>
      cases Option.some.inj run
      exact holds
  | cons next later inductionHypothesis =>
      obtain ⟨middle, first, rest⟩ := follow_cons run
      exact inductionHypothesis (step holds first) rest

/-! ## The loop of a crowd -/

/-- What a step of the crowd is to its loop. -/
def loopSteps (service : Service) (crowd : Crowd) : CrowdStep → List LoopStep
  | .accept arrival =>
    .accept (.ok ()) :: (Handler.ofArrival service ⟨crowd.handlers.length + 1⟩ arrival).shutting
      crowd.handlers.length
  | .serve index time =>
    match crowd.handlers[index]?.bind (Handler.step service time) with
    | some next => next.shutting index
    | none => []
  | .leave index => [.leave index]
  | .loop next => [next]

theorem follow_loopSteps {next : CrowdStep} (taken : crowd.step service next = some after) :
    crowd.loop.follow (crowd.loopSteps service next) = some after.loop := by
  cases next with
  | accept arrival =>
      obtain ⟨accepted, loop, isAccepted, moved, rfl⟩ := step_accept taken
      rw [loopSteps, AcceptLoop.follow, List.foldlM_cons, isAccepted]
      exact (AcceptLoop.follow_shutting accepted _ _).trans moved
  | serve index time =>
      obtain ⟨handler, next, loop, there, served, moved, rfl⟩ := step_serve taken
      simp only [loopSteps, there, Option.bind_some, served]
      exact (AcceptLoop.follow_shutting crowd.loop _ _).trans moved
  | leave index =>
      obtain ⟨loop, left, rfl⟩ := step_leave taken
      exact (AcceptLoop.follow_singleton crowd.loop _).trans left
  | loop next =>
      obtain ⟨-, loop, moved, rfl⟩ := step_loop taken
      exact (AcceptLoop.follow_singleton crowd.loop _).trans moved

/-- The step shuts the connection of a handler. That is the last thing the handler does: it closes
the connection, or it drops it when a fault ends the handler alone; or the connection has not come
to be. -/
inductive Shuts (service : Service) (crowd : Crowd) (next : CrowdStep) (place : Nat) :
    HandlerExit → Prop
  | closed {connection : Connection} {time : Instant} (serves : next = .serve place time)
      (there : crowd.handlers[place]? = some (.serving connection))
      (closing : (connection.atTime time).phase = .closing) :
      Shuts service crowd next place .finished
  | dropped {connection : Connection} {time : Instant} {fault : Fault}
      (serves : next = .serve place time)
      (there : crowd.handlers[place]? = some (.serving connection))
      (collapses : ((connection.atTime time).step service).phase = .collapsed fault)
      (mild : fault.endsProcess = false) :
      Shuts service crowd next place .fault
  | refused {arrival : Arrival} {event : ConnectionEvent} (exit : HandlerExit)
      (accepts : next = .accept arrival) (last : place = crowd.handlers.length)
      (refuses : Handler.ofArrival service ⟨crowd.handlers.length + 1⟩ arrival =
        .refused event exit) :
      Shuts service crowd next place exit

theorem isOver_ofArrival {id : ConnectionId}
    (ended : (Handler.ofArrival service id arrival).isOver = true) :
    ∃ event exit, Handler.ofArrival service id arrival = .refused event exit := by
  unfold Handler.ofArrival Connection.start at ended ⊢
  cases handshake : arrival.handshake with
  | peerLeft | failed =>
      exact ⟨_, _, rfl⟩
  | plain | secured =>
      cases made : ReadBuffer.ofCapacity service.bufferCapacity service.memory with
      | error error =>
          exact ⟨_, _, rfl⟩
      | ok buffer =>
          simp only [handshake, made] at ended
          cases ended

/-- Nothing but its handler shuts a connection. -/
theorem shuts_of_loopSteps {next : CrowdStep} {place : Nat} {exit : HandlerExit}
    (taken : crowd.step service next = some after)
    (shuts : .shut place exit ∈ crowd.loopSteps service next) :
    crowd.Shuts service next place exit := by
  cases next with
  | accept arrival =>
      rcases List.mem_cons.mp shuts with same | member
      · cases same
      · obtain ⟨done, last, rfl⟩ := Handler.shut_of_mem_shutting member
        obtain ⟨event, exit, refuses⟩ := isOver_ofArrival (Handler.isOver_of_hasShut done)
        rw [refuses]
        exact .refused exit rfl last refuses
  | serve index time =>
      obtain ⟨handler, next, loop, there, served, -, -⟩ := step_serve taken
      simp only [loopSteps, there, Option.bind_some, served] at shuts
      obtain ⟨done, rfl, rfl⟩ := Handler.shut_of_mem_shutting shuts
      obtain ⟨connection, rfl, going, rfl⟩ := Handler.serving_of_step served
      rw [← Connection.isOver_atTime connection time] at going
      rcases Handler.exit_of_shut going done with ⟨closing, exit⟩ | ⟨fault, collapses, mild, exit⟩
      · rw [exit]
        exact .closed rfl there closing
      · rw [exit]
        exact .dropped rfl there collapses mild
  | leave index =>
      cases List.mem_singleton.mp shuts
  | loop next =>
      obtain rfl := List.mem_singleton.mp shuts
      cases (step_loop taken).1

theorem brings_loopSteps {next : CrowdStep} (taken : crowd.step service next = some after) :
    (crowd.loopSteps service next).countP LoopStep.brings = next.arrival?.toList.length := by
  cases next with
  | accept arrival =>
      rw [loopSteps, List.countP_cons_of_pos rfl, Handler.brings_shutting]
      rfl
  | serve index time =>
      obtain ⟨handler, next, loop, there, served, -, -⟩ := step_serve taken
      simp only [loopSteps, there, Option.bind_some, served, Handler.brings_shutting]
      rfl
  | leave index =>
      rfl
  | loop next =>
      have own := (step_loop taken).1
      cases next with
      | accept outcome =>
          cases outcome with
          | ok =>
              cases own
          | error error =>
              rfl
      | look | requestStop | shut | leave | finish =>
          rfl

/-- A run of a crowd is a run of its loop, in which as many connections come, and each is shut by
its handler. -/
theorem exists_loop_follow {taken : List CrowdStep}
    (run : crowd.follow service taken = some after) :
    ∃ steps, crowd.loop.follow steps = some after.loop ∧
      steps.countP LoopStep.brings = (taken.filterMap CrowdStep.arrival?).length ∧
      ∀ place exit, .shut place exit ∈ steps → ∃ before next later between,
        taken = before ++ next :: later ∧ crowd.follow service before = some between ∧
          between.Shuts service next place exit := by
  induction taken generalizing crowd with
  | nil =>
      cases Option.some.inj run
      exact ⟨[], rfl, rfl, by simp⟩
  | cons next later inductionHypothesis =>
      obtain ⟨middle, first, rest⟩ := follow_cons run
      obtain ⟨steps, follows, brings, shuts⟩ := inductionHypothesis rest
      refine ⟨crowd.loopSteps service next ++ steps, ?_, ?_, ?_⟩
      · rw [AcceptLoop.follow, List.foldlM_append]
        exact Option.bind_eq_some_iff.mpr ⟨middle.loop, follow_loopSteps first, follows⟩
      · rw [List.countP_append, brings, brings_loopSteps first, CrowdStep.arrivals_cons,
          List.length_append]
      · intro place exit member
        rcases List.mem_append.mp member with now | behind
        · exact ⟨[], next, later, crowd, rfl, rfl, shuts_of_loopSteps first now⟩
        · obtain ⟨before, given, others, between, rfl, reached, shut⟩ := shuts place exit behind
          refine ⟨next :: before, given, others, between, rfl, ?_, shut⟩
          rw [follow, List.foldlM_cons]
          exact Option.bind_eq_some_iff.mpr ⟨middle, first, reached⟩

/-! ## Handlers and what the loop knows of them -/

/-- The loop knows of each handler how far it has come. -/
structure Paired (crowd : Crowd) : Prop where
  length : crowd.handlers.length = crowd.loop.handlers.length
  stands : ∀ {index : Nat} {handler : Handler} {phase : HandlerPhase},
    crowd.handlers[index]? = some handler → crowd.loop.handlers[index]? = some phase →
      handler.StandsAt phase

theorem Paired.exists_phase (paired : crowd.Paired) {handler : Handler}
    (there : crowd.handlers[index]? = some handler) :
    ∃ phase, crowd.loop.handlers[index]? = some phase ∧ handler.StandsAt phase := by
  obtain ⟨inside, -⟩ := List.getElem?_eq_some_iff.mp there
  rw [paired.length] at inside
  have known := List.getElem?_eq_getElem inside
  exact ⟨_, known, paired.stands there known⟩

theorem Paired.running (paired : crowd.Paired) {handler : Handler}
    (there : crowd.handlers[index]? = some handler) (going : handler.hasShut = false) :
    crowd.loop.handlers[index]? = some .running := by
  obtain ⟨phase, known, stands⟩ := paired.exists_phase there
  rw [known, stands.running_of_going going]

theorem paired_start (logPrefix : String) (listener : Listener) :
    Paired { loop := AcceptLoop.start logPrefix listener } :=
  ⟨rfl, by simp⟩

theorem paired_accept (paired : crowd.Paired)
    (taken : crowd.step service (.accept arrival) = some after) :
    after.Paired := by
  obtain ⟨accepted, loop, isAccepted, moved, rfl⟩ := step_accept taken
  have more := AcceptLoop.handlers_accept_ok isAccepted
  have running : accepted.handlers[crowd.handlers.length]? = some .running := by
    rw [more, paired.length]
    exact List.getElem?_concat_length
  obtain ⟨⟨phase, known, stands⟩, length, others⟩ := AcceptLoop.handlers_behind running moved
  constructor
  · rw [length, more, List.length_append, List.length_append, paired.length]
    rfl
  · intro place handler other isThere isKnown
    rcases cases_of_concat isThere with ⟨earlier, before⟩ | ⟨rfl, rfl⟩
    · rw [others (Nat.ne_of_gt earlier), more,
        List.getElem?_append_left (paired.length ▸ earlier)] at isKnown
      exact paired.stands before isKnown
    · cases isKnown.symm.trans known
      exact stands

theorem paired_serve (paired : crowd.Paired)
    (taken : crowd.step service (.serve index time) = some after) :
    after.Paired := by
  obtain ⟨handler, next, loop, there, served, moved, rfl⟩ := step_serve taken
  have running := paired.running there (Handler.hasShut_of_going (Handler.isOver_of_step served))
  obtain ⟨⟨phase, known, stands⟩, length, others⟩ := AcceptLoop.handlers_behind running moved
  obtain ⟨inside, -⟩ := List.getElem?_eq_some_iff.mp there
  constructor
  · rw [List.length_set, length, paired.length]
  · intro place handler other isThere isKnown
    by_cases same : index = place
    · subst same
      cases isThere.symm.trans (List.getElem?_set_self inside)
      cases isKnown.symm.trans known
      exact stands
    · rw [List.getElem?_set_ne same] at isThere
      rw [others same] at isKnown
      exact paired.stands isThere isKnown

theorem paired_leave (paired : crowd.Paired)
    (taken : crowd.step service (.leave index) = some after) :
    after.Paired := by
  obtain ⟨loop, left, rfl⟩ := step_leave taken
  obtain ⟨exit, shut, rfl⟩ := AcceptLoop.step_leave left
  constructor
  · rw [List.length_set, paired.length]
  · intro place handler phase isThere isKnown
    by_cases same : index = place
    · subst same
      obtain ⟨inside, -⟩ := List.getElem?_eq_some_iff.mp shut
      cases isKnown.symm.trans (List.getElem?_set_self inside)
      cases paired.stands isThere shut with
      | shut done =>
          exact .ended done
    · rw [List.getElem?_set_ne same] at isKnown
      exact paired.stands isThere isKnown

theorem paired_loop {next : LoopStep} (paired : crowd.Paired)
    (taken : crowd.step service (.loop next) = some after) :
    after.Paired := by
  obtain ⟨own, loop, moved, rfl⟩ := step_loop taken
  obtain ⟨handlers, -⟩ := AcceptLoop.same_of_isOfLoop own moved
  constructor
  · rw [handlers, paired.length]
  · intro place handler phase isThere isKnown
    rw [handlers] at isKnown
    exact paired.stands isThere isKnown

end Crowd

end HttpServer
