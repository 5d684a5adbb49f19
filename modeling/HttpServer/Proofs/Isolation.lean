import HttpServer.Proofs.Alike
import HttpServer.Proofs.CrowdSteps

/-!
# Connections do not disturb each other

The handlers of a crowd share the pipeline, the count of those that run, and the process. The count
is nothing that a handler looks at, and a pure pipeline remembers nothing. So each connection goes
on as it does alone, however its steps fall between those of the others, and a fault of the pipeline
ends the connection that meets it and no other.

The process is what they do share. Memory for a length that a peer announces is taken for granted,
and where the allocator refuses it the process ends, with all connections. A peer can bring that
about alone, and nothing else in the crowd does.
-/

namespace HttpServer

namespace Handler

/-! ## Handlers that do the same -/

def wire : Handler → Bytes
  | .serving connection => connection.outlet.wire
  | .refused _ _ => []

/-- The handlers serve connections that are alike, or both have refused theirs. -/
inductive Alike : Handler → Handler → Prop
  | serving {first second : Connection} (alike : first.Alike second) :
      Alike (.serving first) (.serving second)
  | refused (event eventToo : ConnectionEvent) (exit : HandlerExit) :
      Alike (.refused event exit) (.refused eventToo exit)

variable {service other : Service} {handler next alone : Handler} {time : Instant} {most : Nat}

theorem Alike.isOver (alike : handler.Alike alone) : handler.isOver = alone.isOver := by
  cases alike with
  | serving alike =>
      exact alike.phase.isOver
  | refused =>
      rfl

theorem Alike.endsProcess (alike : handler.Alike alone) :
    handler.endsProcess = alone.endsProcess := by
  cases alike with
  | serving alike =>
      exact alike.phase.endsProcess
  | refused =>
      rfl

theorem isOver_of_endsProcess (ends : handler.endsProcess = true) : handler.isOver = true := by
  cases handler with
  | refused event exit =>
      rfl
  | serving connection =>
      show connection.phase.isOver = true
      replace ends : connection.phase.endsProcess = true := ends
      cases phase : connection.phase with
      | closed | collapsed =>
          rfl
      | reading | dispatching | writing | closing =>
          rw [phase] at ends
          cases ends

/-- The number that a connection gets does not matter. -/
theorem alike_ofArrival (services : service.Alike other) (id idToo : ConnectionId)
    (arrival : Arrival) :
    (ofArrival service id arrival).Alike (ofArrival other idToo arrival) := by
  unfold ofArrival Connection.start
  cases arrival.handshake with
  | peerLeft | failed =>
      exact .refused _ _ _
  | plain | secured =>
      simp only [services.capacity, services.memory]
      cases ReadBuffer.ofCapacity other.bufferCapacity other.memory with
      | error error =>
          exact .refused _ _ _
      | ok buffer =>
          exact .serving ⟨rfl, rfl, rfl, .refl _, rfl, rfl⟩

theorem runUpTo_zero (service : Service) (handler : Handler) :
    handler.runUpTo service 0 = handler := by
  cases handler <;> rfl

/-- A handler that has come as far as one alone takes its next step as that one does. -/
theorem alike_step (services : service.Alike other) (pure : service.pipeline.IsPure)
    (alike : handler.Alike (alone.runUpTo other most))
    (taken : handler.step service time = some next) :
    next.Alike (alone.runUpTo other (most + 1)) := by
  cases alone with
  | refused event exit =>
      rw [runUpTo] at alike
      cases alike
      simp [step] at taken
  | serving start =>
      rw [runUpTo] at alike ⊢
      rw [Connection.runUpTo_succ]
      cases alike with
      | @serving first _ alike =>
          obtain ⟨connection, same, -, rfl⟩ := serving_of_step taken
          cases same
          exact .serving (((first.alike_atTime time).trans alike).step services pure)

theorem alike_run (alike : handler.Alike (alone.runUpTo other most))
    (finished : handler.isOver = true) :
    handler.Alike (alone.run other) := by
  rw [alike.isOver] at finished
  cases alone with
  | refused event exit =>
      exact alike
  | serving start =>
      have same := Connection.runUpTo_eq_run finished
      rw [runUpTo, same] at alike
      exact alike

end Handler

namespace Crowd

variable {service other : Service} {crowd after : Crowd} {arrivals : List Arrival}
  {index : Nat} {time : Instant} {arrival : Arrival}

/-! ## What one step leaves alone -/

theorem handlers_of_isOver {next : CrowdStep} {handler : Handler}
    (there : crowd.handlers[index]? = some handler) (finished : handler.isOver = true)
    (taken : crowd.step service next = some after) :
    after.handlers[index]? = some handler := by
  cases next with
  | accept arrival =>
      obtain ⟨accepted, loop, -, -, rfl⟩ := step_accept taken
      exact (List.getElem?_append_left (List.getElem?_eq_some_iff.mp there).1).trans there
  | serve served time =>
      obtain ⟨going, next, loop, thereToo, step, -, rfl⟩ := step_serve taken
      have different : served ≠ index := by
        rintro rfl
        obtain rfl := Option.some.inj (thereToo.symm.trans there)
        rw [Handler.isOver_of_step step] at finished
        cases finished
      exact (List.getElem?_set_ne different).trans there
  | leave left =>
      obtain ⟨loop, -, rfl⟩ := step_leave taken
      exact there
  | loop next =>
      obtain ⟨-, loop, -, rfl⟩ := step_loop taken
      exact there

theorem handlers_of_isOver_follow {later : List CrowdStep} {handler : Handler}
    (there : crowd.handlers[index]? = some handler) (finished : handler.isOver = true)
    (run : crowd.follow service later = some after) :
    after.handlers[index]? = some handler :=
  invariant_of_follow (fun there taken => handlers_of_isOver there finished taken) there run

theorem endsProcess_of_lives {handler : Handler} (lives : crowd.hasAborted = false)
    (there : crowd.handlers[index]? = some handler) :
    handler.endsProcess = false := by
  rw [hasAborted, List.any_eq_false] at lives
  exact Bool.eq_false_iff.mpr (lives handler (List.mem_of_getElem? there))

/-- A fault of the pipeline that does not end the process ends the connection whose request met it,
and touches nothing else. -/
theorem collapses_of_fault {connection : Connection} {context : Context} {keepAlive : Bool}
    {fault : Fault} (paired : crowd.Paired) (lives : crowd.hasAborted = false)
    (there : crowd.handlers[index]? = some (.serving connection))
    (phase : (connection.atTime time).phase = .dispatching context keepAlive)
    (fails : service.pipeline.execute context = .error fault)
    (mild : fault.endsProcess = false) :
    ∃ next ended, crowd.step service (.serve index time) = some next ∧
      crowd.loop.step (.shut index .fault) = some next.loop ∧
      next.handlers = crowd.handlers.set index (.serving ended) ∧
      ended.phase = .collapsed fault ∧ ended.outlet = connection.outlet ∧
      ended.submitted = connection.submitted ++ [context] ∧
      ended.completed = connection.completed := by
  have going : connection.phase.isOver = false := by
    rw [← Connection.isOver_atTime connection time, phase]
    rfl
  have steps := Connection.step_of_fault phase fails
  let ended := (connection.atTime time).step service
  have isPhase : ended.phase = .collapsed fault := by simp only [ended, steps]
  have shut := Handler.hasShut_of_collapsed isPhase mild
  have exit : (Handler.serving ended).exit = .fault := by
    simp only [Handler.exit, Rehearsal.exitOf, isPhase]
  obtain ⟨loop, moved⟩ := AcceptLoop.behind_of_running (.serving ended)
    (paired.running there (Handler.hasShut_of_going going))
  refine ⟨{ loop, handlers := crowd.handlers.set index (.serving ended) }, ended, ?_, ?_, rfl,
    isPhase, ?_⟩
  · rw [step_of_lives lives]
    simp only [advance, there, Handler.step_serving going, Option.bind_eq_bind, Option.bind_some]
    exact Option.bind_eq_some_iff.mpr ⟨loop, moved, rfl⟩
  · rw [AcceptLoop.behind, if_pos shut, exit] at moved
    exact moved
  · simp only [ended, steps]
    refine ⟨rfl, Connection.submitted_emit _ _, ?_⟩
    simp [Connection.completed, Connection.emit, Connection.atTime]

/-! ## What every step preserves -/

/-- Each handler has come as far as it comes alone in some number of steps. It has a share in the
count until it has shut its connection and leaves. -/
structure Apart (other : Service) (arrivals : List Arrival) (crowd : Crowd) : Prop where
  sound : crowd.loop.Sound
  paired : crowd.Paired
  handlers : crowd.handlers.length = arrivals.length
  alone : ∀ {index : Nat} {arrival : Arrival} {handler : Handler},
    arrivals[index]? = some arrival → crowd.handlers[index]? = some handler →
      ∃ most, handler.Alike ((Handler.ofArrival other ⟨1⟩ arrival).runUpTo other most)

theorem apart_start (other : Service) (logPrefix : String) (listener : Listener) :
    Apart other [] { loop := AcceptLoop.start logPrefix listener } :=
  ⟨AcceptLoop.sound_start logPrefix listener, paired_start logPrefix listener, rfl, by simp⟩

theorem apart_accept (services : service.Alike other) (apart : crowd.Apart other arrivals)
    (taken : crowd.step service (.accept arrival) = some after) :
    after.Apart other (arrivals ++ [arrival]) := by
  have paired := paired_accept apart.paired taken
  obtain ⟨accepted, loop, isAccepted, moved, rfl⟩ := step_accept taken
  refine ⟨AcceptLoop.sound_behind (AcceptLoop.sound_step apart.sound isAccepted) moved, paired,
    ?_, ?_⟩
  · rw [List.length_append, List.length_append, apart.handlers]
    rfl
  · intro place given handler isArrival isThere
    rcases cases_of_concat isArrival with ⟨earlier, before⟩ | ⟨isLast, rfl⟩
    · rcases cases_of_concat isThere with ⟨-, thereBefore⟩ | ⟨isLast, -⟩
      · exact apart.alone before thereBefore
      · exact absurd isLast (Nat.ne_of_lt (apart.handlers ▸ earlier))
    · rcases cases_of_concat isThere with ⟨earlier, -⟩ | ⟨-, rfl⟩
      · exact absurd isLast (Nat.ne_of_lt (apart.handlers ▸ earlier))
      · refine ⟨0, ?_⟩
        rw [Handler.runUpTo_zero]
        exact Handler.alike_ofArrival services _ _ given

theorem apart_serve (services : service.Alike other) (pure : service.pipeline.IsPure)
    (apart : crowd.Apart other arrivals)
    (taken : crowd.step service (.serve index time) = some after) :
    after.Apart other arrivals := by
  have paired := paired_serve apart.paired taken
  obtain ⟨handler, next, loop, isThere, served, moved, rfl⟩ := step_serve taken
  obtain ⟨inside, -⟩ := List.getElem?_eq_some_iff.mp isThere
  have here : (crowd.handlers.set index next)[index]? = some next := List.getElem?_set_self inside
  -- only the handler whose turn it is has moved, and it moved as the one alone does
  refine ⟨AcceptLoop.sound_behind apart.sound moved, paired, ?_, ?_⟩
  · rw [List.length_set, apart.handlers]
  · intro place arrival other isArrival isThereNow
    by_cases same : index = place
    · subst same
      obtain rfl := Option.some.inj (here.symm.trans isThereNow)
      obtain ⟨most, alike⟩ := apart.alone isArrival isThere
      exact ⟨most + 1, Handler.alike_step services pure alike served⟩
    · rw [List.getElem?_set_ne same] at isThereNow
      exact apart.alone isArrival isThereNow

theorem apart_step (services : service.Alike other) (pure : service.pipeline.IsPure)
    {next : CrowdStep} (apart : crowd.Apart other arrivals)
    (taken : crowd.step service next = some after) :
    after.Apart other (arrivals ++ next.arrival?.toList) := by
  have nothing : after.Apart other arrivals → after.Apart other (arrivals ++ []) := by
    rw [List.append_nil]
    exact id
  cases next with
  | accept arrival =>
      exact apart_accept services apart taken
  | serve index time =>
      exact nothing (apart_serve services pure apart taken)
  | leave index =>
      have paired := paired_leave apart.paired taken
      obtain ⟨loop, left, rfl⟩ := step_leave taken
      exact nothing ⟨AcceptLoop.sound_step apart.sound left, paired, apart.handlers, apart.alone⟩
  | loop next =>
      have paired := paired_loop apart.paired taken
      obtain ⟨-, loop, moved, rfl⟩ := step_loop taken
      exact nothing ⟨AcceptLoop.sound_step apart.sound moved, paired, apart.handlers, apart.alone⟩

theorem apart_follow (services : service.Alike other) (pure : service.pipeline.IsPure)
    {taken : List CrowdStep} (apart : crowd.Apart other arrivals)
    (run : crowd.follow service taken = some after) :
    after.Apart other (arrivals ++ taken.filterMap CrowdStep.arrival?) := by
  induction taken generalizing crowd arrivals with
  | nil =>
      cases Option.some.inj run
      rw [List.filterMap_nil, List.append_nil]
      exact apart
  | cons next later inductionHypothesis =>
      obtain ⟨middle, first, rest⟩ := follow_cons run
      have all := inductionHypothesis (apart_step services pure apart first) rest
      rw [List.append_assoc, ← CrowdStep.arrivals_cons] at all
      exact all

/-! ## Isolation -/

def released (crowd : Crowd) : List Bool := crowd.loop.tracker.guards.map Guard.released

/-- No connection notices the others, or what the observer does, as long as the process lives:
whatever `other` observes, each connection does what it does alone in the service `other`. -/
structure Isolated (service other : Service) (arrivals : List Arrival) (crowd : Crowd) : Prop where
  /-- Every connection has come as far as it comes alone in some number of steps. -/
  alone : ∀ (index : Nat) (arrival : Arrival), arrivals[index]? = some arrival →
    ∃ (handler : Handler) (most : Nat), crowd.handlers[index]? = some handler ∧
      handler.Alike ((Handler.ofArrival other ⟨1⟩ arrival).runUpTo other most)
  /-- A connection that is over has come to the end that it comes to alone. -/
  ends : ∀ (index : Nat) (arrival : Arrival) (handler : Handler),
    arrivals[index]? = some arrival → crowd.handlers[index]? = some handler →
      handler.isOver = true →
        handler.Alike ((Handler.ofArrival other ⟨1⟩ arrival).run other)
  /-- A fault of the pipeline that does not end the process ends the connection whose request met
  it: that request is the last it has submitted, and nothing is written for it. No other connection
  is touched. -/
  faults : ∀ (index : Nat) time (connection : Connection) context keepAlive fault,
    crowd.hasAborted = false → crowd.handlers[index]? = some (.serving connection) →
    (connection.atTime time).phase = .dispatching context keepAlive →
    service.pipeline.execute context = .error fault → fault.endsProcess = false →
      ∃ next ended, crowd.step service (.serve index time) = some next ∧
        crowd.loop.step (.shut index .fault) = some next.loop ∧
        next.handlers = crowd.handlers.set index (.serving ended) ∧
        ended.phase = .collapsed fault ∧ ended.outlet = connection.outlet ∧
        ended.submitted = connection.submitted ++ [context] ∧
        ended.completed = connection.completed
  /-- A connection that is over does nothing more, whatever others do. -/
  stays : ∀ (index : Nat) (handler : Handler) later final, crowd.handlers[index]? = some handler →
    handler.isOver = true → crowd.follow service later = some final →
      final.handlers[index]? = some handler
  /-- However a connection has ended, its guard can be released, once. -/
  leaves : ∀ (index : Nat) (handler : Handler), crowd.hasAborted = false →
    crowd.handlers[index]? = some handler → handler.isOver = true →
    crowd.released[index]? = some false →
      ∃ next, crowd.step service (.leave index) = some next ∧ next.handlers = crowd.handlers ∧
        next.released = crowd.released.set index true ∧
        next.loop.tracker.active + 1 = crowd.loop.tracker.active
  /-- No guard is released before its connection is over. -/
  held : ∀ (index : Nat) (handler : Handler), crowd.handlers[index]? = some handler →
    handler.isOver = false → crowd.released[index]? = some false
  /-- The count is the number of guards that are held. -/
  counts : crowd.loop.tracker.active + crowd.released.count true = arrivals.length
  /-- When every handler has ended the count is zero. -/
  drains : (∀ gone ∈ crowd.released, gone = true) → crowd.loop.tracker.active = 0
  /-- The process ends with a connection that ends it alone too, and takes all others with it. -/
  aborts : crowd.hasAborted = true →
    (∃ arrival ∈ arrivals, ((Handler.ofArrival other ⟨1⟩ arrival).run other).endsProcess = true) ∧
      ∀ next, crowd.step service next = none

theorem Apart.released_eq (apart : crowd.Apart other arrivals) :
    crowd.released = crowd.loop.endings :=
  apart.sound.guards

theorem Apart.length_released (apart : crowd.Apart other arrivals) :
    crowd.released.length = arrivals.length := by
  rw [apart.released_eq, AcceptLoop.endings, List.length_map, ← apart.paired.length,
    apart.handlers]

theorem Apart.held (apart : crowd.Apart other arrivals) {handler : Handler}
    (isThere : crowd.handlers[index]? = some handler) (going : handler.isOver = false) :
    crowd.released[index]? = some false := by
  rw [apart.released_eq]
  exact AcceptLoop.endings_getElem?
    (apart.paired.running isThere (Handler.hasShut_of_going going))

theorem Apart.leaves (apart : crowd.Apart other arrivals) {handler : Handler}
    (lives : crowd.hasAborted = false) (isThere : crowd.handlers[index]? = some handler)
    (finished : handler.isOver = true) (isHeld : crowd.released[index]? = some false) :
    ∃ next, crowd.step service (.leave index) = some next ∧ next.handlers = crowd.handlers ∧
      next.released = crowd.released.set index true ∧
      next.loop.tracker.active + 1 = crowd.loop.tracker.active := by
  have done := Handler.hasShut_of_isOver finished (endsProcess_of_lives lives isThere)
  obtain ⟨phase, known, stands⟩ := apart.paired.exists_phase isThere
  rw [apart.released_eq] at isHeld
  have notGone : phase.hasEnded = false :=
    Option.some.inj ((AcceptLoop.endings_getElem? known).symm.trans isHeld)
  cases stands with
  | running serves =>
      rw [done] at serves
      cases serves
  | ended =>
      cases notGone
  | shut =>
      obtain ⟨loop, left⟩ : ∃ loop, crowd.loop.step (.leave index) = some loop := by
        simp only [AcceptLoop.step, known]
        exact ⟨_, rfl⟩
      obtain ⟨-, -, tracker⟩ := AcceptLoop.endings_leave left
      obtain ⟨id, guard⟩ := apart.sound.held isHeld
      obtain ⟨guards, active⟩ := Tracker.release_of_held guard
      have some := apart.sound.active_pos isHeld
      refine ⟨{ crowd with loop }, ?_, rfl, ?_, ?_⟩
      · rw [step_of_lives lives, advance, left]
        rfl
      · rw [released, tracker, guards, List.map_set]
        rfl
      · rw [tracker, active]
        omega

/-- Who ends the process does so alone as well. -/
theorem Apart.exists_ends_process (apart : crowd.Apart other arrivals)
    (aborted : crowd.hasAborted = true) :
    ∃ arrival ∈ arrivals, ((Handler.ofArrival other ⟨1⟩ arrival).run other).endsProcess = true := by
  obtain ⟨handler, member, ends⟩ := List.any_eq_true.mp aborted
  obtain ⟨index, isThere⟩ := List.mem_iff_getElem?.mp member
  obtain ⟨inside, -⟩ := List.getElem?_eq_some_iff.mp isThere
  rw [apart.handlers] at inside
  obtain ⟨most, alike⟩ := apart.alone (List.getElem?_eq_getElem inside) isThere
  refine ⟨arrivals[index], List.getElem_mem inside, ?_⟩
  rw [← (Handler.alike_run alike (Handler.isOver_of_endsProcess ends)).endsProcess]
  exact ends

theorem Apart.isolated (apart : crowd.Apart other arrivals) :
    crowd.Isolated service other arrivals := by
  have counts : crowd.loop.tracker.active + crowd.released.count true = arrivals.length := by
    rw [apart.released_eq, apart.sound.active, ← apart.released_eq, apart.length_released]
  constructor
  · intro index arrival isArrival
    have inside : index < crowd.handlers.length := by
      rw [apart.handlers]
      exact (List.getElem?_eq_some_iff.mp isArrival).1
    have isThere := List.getElem?_eq_getElem inside
    obtain ⟨most, alike⟩ := apart.alone isArrival isThere
    exact ⟨_, most, isThere, alike⟩
  · intro index arrival handler isArrival isThere finished
    obtain ⟨most, alike⟩ := apart.alone isArrival isThere
    exact Handler.alike_run alike finished
  · intro index time connection context keepAlive fault lives isThere phase fails mild
    exact collapses_of_fault apart.paired lives isThere phase fails mild
  · intro index handler later final isThere finished run
    exact handlers_of_isOver_follow isThere finished run
  · intro index handler lives isThere finished isHeld
    exact apart.leaves lives isThere finished isHeld
  · intro index handler isThere going
    exact apart.held isThere going
  · exact counts
  · intro gone
    have all : crowd.released.count true = crowd.released.length :=
      List.count_eq_length.mpr fun _ member => (gone _ member).symm
    have length := apart.length_released
    omega
  · intro aborted
    exact ⟨apart.exists_ends_process aborted, step_of_hasAborted aborted⟩

/-- In every run of a server whose pipeline is a pure function of a request and its place, however
the steps of its handlers fall, the connections are isolated from each other and from whoever
observes them, as long as the process lives. The pipeline may fail on some requests, and the
observer on any. -/
theorem isolated_of_follow {taken : List CrowdStep} (services : service.Alike other)
    (pure : service.pipeline.IsPure) (logPrefix : String) (listener : Listener)
    (run : follow service { loop := AcceptLoop.start logPrefix listener } taken = some crowd) :
    crowd.Isolated service other (taken.filterMap CrowdStep.arrival?) :=
  (apart_follow services pure (apart_start other logPrefix listener) run).isolated

/-- A request that makes the only filter fail, between two others on one connection, while another
connection is served and the observer fails every time. -/
theorem isolated_of_follow_of_failing_filter :
    let filter : RequestFilter :=
      { name := "fails on one path"
        run := fun context =>
          if context.request.target.path = Bytes.ascii "/b" then .error .stage
          else .ok (none, context) }
    let stages : StagePipeline := { requestFilters := [filter] }
    let failing : Observer := { observe := fun _ => .error .stage }
    let service : Service := { pipeline := { stages.toPipeline with observer := some failing } }
    let calm : Service :=
      { pipeline := { stages.toPipeline with observer := some Observer.stageMetrics } }
    let address : SocketAddress := .short ⟨127, 0, 0, 1⟩ 8080
    let listener : Listener := { number := 3, address, acceptTimeout := 500 }
    let first : Arrival :=
      { peer := .short ⟨127, 0, 0, 1⟩ 40000, listener := address
        stream := [
          .octets (Bytes.ascii "GET /a HTTP/1.1\r\nConnection: keep-alive\r\n\r\nGET /b HT"),
          .octets (Bytes.ascii "TP/1.1\r\nConnection: keep-alive\r\n\r\nGET /c HTTP/1.1\r\n\r\n")] }
    let second : Arrival :=
      { peer := .short ⟨127, 0, 0, 1⟩ 40001, listener := address
        stream := [.octets (Bytes.ascii "GET /d HTTP/1.1\r\n\r\n")] }
    let taken : List CrowdStep :=
      [.accept first, .loop .look, .serve 0 1, .accept second, .serve 0 2, .loop .look, .serve 1 2,
        .serve 0 3, .serve 1 3, .serve 0 4, .loop .requestStop, .serve 0 5, .serve 1 6, .leave 0,
        .serve 1 7, .leave 1]
    ∃ crowd, follow service { loop := AcceptLoop.start "" listener } taken = some crowd ∧
      crowd.Isolated service calm [first, second] ∧ crowd.loop.tracker.active = 0 := by
  intro filter stages failing service calm address listener first second taken
  have pureFilter : filter.IsPure := by
    intro context other alike
    simp only [filter, alike.request]
    split
    · exact .error .stage
    · exact .ok ⟨rfl, alike⟩
  have pure : service.pipeline.IsPure := by
    have pureStages : stages.toPipeline.IsPure :=
      StagePipeline.isPure_toPipeline
        (fun other member => by rw [List.mem_singleton.mp member]; exact pureFilter)
        (fun other member => by cases member)
    exact pureStages
  have services : service.Alike calm := ⟨rfl, rfl, rfl, rfl, rfl⟩
  have gone : (follow service { loop := AcceptLoop.start "" listener } taken).map released =
      some [true, true] := by decide +kernel
  obtain ⟨crowd, run, releases⟩ := Option.map_eq_some_iff.mp gone
  have isolated := isolated_of_follow services pure "" listener run
  exact ⟨crowd, run, isolated, isolated.drains (by rw [releases]; decide)⟩

/-- A connection that announces more than any memory holds, under a bound that allows it, ends the
process. Another connection, whose request has been read already, is never answered, though alone it
is. -/
theorem process_ends_of_vast_length :
    let service : Service :=
      { pipeline := { execute := fun context => .ok (none, context) }
        limits := { body := 4611686018427387904 } }
    let address : SocketAddress := .short ⟨127, 0, 0, 1⟩ 8080
    let listener : Listener := { number := 3, address, acceptTimeout := 500 }
    let vast : Arrival :=
      { peer := .short ⟨127, 0, 0, 1⟩ 40000, listener := address
        stream := [.octets (Bytes.ascii
          "POST / HTTP/1.1\r\nContent-Length: 4611686018427387904\r\n\r\n")] }
    let modest : Arrival :=
      { peer := .short ⟨127, 0, 0, 1⟩ 40001, listener := address
        stream := [.octets (Bytes.ascii "GET / HTTP/1.1\r\n\r\n")] }
    let taken : List CrowdStep :=
      [.accept vast, .loop .look, .accept modest, .loop .look, .serve 1 1, .serve 0 2]
    service.pipeline.IsPure ∧
      ∃ crowd, follow service { loop := AcceptLoop.start "" listener } taken = some crowd ∧
        (∀ next, crowd.step service next = none) ∧ crowd.handlers.map Handler.wire = [[], []] ∧
        ((Handler.ofArrival service ⟨1⟩ modest).run service).wire =
          Bytes.ascii ("HTTP/1.1 404 Not Found\r\ncontent-type: text/plain; charset=utf-8\r\n" ++
            "connection: close\r\ncontent-length: 9\r\n\r\nNot Found") := by
  intro service address listener vast modest taken
  have pure : service.pipeline.IsPure := fun context other alike => .ok ⟨rfl, alike⟩
  have aborts : (follow service { loop := AcceptLoop.start "" listener } taken).map
      (fun crowd => (crowd.hasAborted, crowd.handlers.map Handler.wire)) = some (true, [[], []]) := by
    decide +kernel
  obtain ⟨crowd, run, same⟩ := Option.map_eq_some_iff.mp aborts
  obtain ⟨aborted, wires⟩ := Prod.mk.inj same
  exact ⟨pure, crowd, run, step_of_hasAborted aborted, wires, by decide +kernel⟩

end Crowd

end HttpServer
