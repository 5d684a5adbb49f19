import HttpServer.Proofs.Isolation
import HttpServer.Proofs.Ledger
import HttpServer.Proofs.Series
import Mathlib.Tactic.Ring

/-!
# What the metrics of a server tell

However the steps of a server and of its handlers fall, the series of the server tell what happened:
how many connections were accepted, how many accepts failed for good, and how many requests were
answered, for each status. When every handler has ended none is counted as running. A response that
could not be written whole is counted all the same, though the observer is told of whole ones only.
-/

namespace HttpServer

/-- Whether an accept fails on grounds that do not pass by themselves. -/
def CrowdStep.failsForGood : CrowdStep → Bool
  | .loop (.accept (.error error)) => !error.isTransient
  | _ => false

/-- What a step of an accept loop counts. -/
def LoopStep.counts : LoopStep → List Metric
  | .accept (.ok _) => [.opened, .accepted]
  | .accept (.error error) => if error.isTransient then [] else [.acceptFailed]
  | .leave _ => [.closed]
  | .look | .requestStop | .shut _ _ | .finish => []

/-- What the loop does by itself counts nothing but a failure to accept. -/
theorem LoopStep.total_counts_of_isOfLoop {next : LoopStep} (own : next.isOfLoop = true)
    (series : String) :
    (Registry.ofMetrics next.counts).total series =
      (if CrowdStep.failsForGood (.loop next) then 1 else 0) *
        Metric.acceptFailed.amount series := by
  cases next with
  | accept outcome =>
      cases outcome with
      | ok =>
          cases own
      | error error =>
          cases lasting : error.isTransient with
          | true =>
              simp [counts, CrowdStep.failsForGood, lasting, Registry.total_ofMetrics]
          | false =>
              simp [counts, CrowdStep.failsForGood, lasting, Registry.total_singleton]
  | shut | leave =>
      cases own
  | look | requestStop | finish =>
      exact (zero_mul _).symm

namespace AcceptLoop

variable {loop after : AcceptLoop} {next : LoopStep}

theorem metrics_look (loop : AcceptLoop) : loop.look.metrics = loop.metrics := by
  unfold look
  split
  · rfl
  · rfl

theorem metrics_take (loop : AcceptLoop) (outcome : Except AcceptError Unit) :
    (loop.take outcome).metrics = loop.metrics ++ (LoopStep.accept outcome).counts := by
  cases outcome with
  | ok =>
      rfl
  | error error =>
      simp only [take, LoopStep.counts]
      split
      · exact (List.append_nil _).symm
      · rfl

theorem metrics_step (taken : loop.step next = some after) :
    after.metrics = loop.metrics ++ next.counts := by
  cases next with
  | accept outcome =>
      obtain ⟨-, -, rfl⟩ := step_accept taken
      exact metrics_take loop outcome
  | look =>
      rw [(step_look taken).2, metrics_look]
      exact (List.append_nil _).symm
  | requestStop =>
      rw [step_requestStop taken]
      exact (List.append_nil _).symm
  | shut handler exit =>
      rw [(step_shut taken).2]
      exact (List.append_nil _).symm
  | leave handler =>
      obtain ⟨exit, -, rfl⟩ := step_leave taken
      rfl
  | finish =>
      obtain ⟨-, -, rfl⟩ := step_finish taken
      exact (List.append_nil _).symm

theorem total_step (taken : loop.step next = some after) (series : String) :
    (Registry.ofMetrics after.metrics).total series =
      (Registry.ofMetrics loop.metrics).total series +
        (Registry.ofMetrics next.counts).total series := by
  rw [metrics_step taken, Registry.total_append]

theorem metrics_behind {index : Nat} {handler : Handler}
    (moved : loop.behind index handler = some after) :
    after.metrics = loop.metrics := by
  rcases behind_cases moved with ⟨-, rfl⟩ | ⟨-, shut⟩
  · rfl
  · rw [metrics_step shut]
    exact List.append_nil _

end AcceptLoop

def Handler.connection? : Handler → Option Connection
  | .serving connection => some connection
  | .refused _ _ => none

namespace Handler

variable {service : Service} {handler next : Handler}

theorem ledger_ofArrival (service : Service) (id : ConnectionId) (arrival : Arrival) :
    ∀ connection ∈ (ofArrival service id arrival).connection?, connection.Ledger service := by
  unfold ofArrival Connection.start
  cases arrival.handshake with
  | peerLeft | failed =>
      exact fun _ none => absurd none (Option.not_mem_none _)
  | plain | secured =>
      cases ReadBuffer.ofCapacity service.bufferCapacity service.memory with
      | error error =>
          exact fun _ none => absurd none (Option.not_mem_none _)
      | ok buffer =>
          rintro _ ⟨⟩
          exact Connection.ledger_start service _ _ _

theorem ledger_step {time : Instant}
    (ledger : ∀ connection ∈ handler.connection?, connection.Ledger service)
    (taken : handler.step service time = some next) :
    ∀ connection ∈ next.connection?, connection.Ledger service := by
  obtain ⟨connection, rfl, -, rfl⟩ := serving_of_step taken
  rintro _ ⟨⟩
  exact Connection.ledger_step (Connection.ledger_atTime (ledger connection rfl) time)

end Handler

namespace Crowd

variable {service : Service} {crowd after : Crowd}

/-! ## What a crowd has done -/

def connections (crowd : Crowd) : List Connection := crowd.handlers.filterMap Handler.connection?

def metrics (crowd : Crowd) : List Metric :=
  crowd.loop.metrics ++ crowd.connections.flatMap Connection.metrics

/-- The requests that have been answered. -/
def answered (service : Service) (crowd : Crowd) : List Context :=
  crowd.connections.flatMap (Connection.answered service)

/-- The requests whose responses have been written whole. -/
def whole (service : Service) (crowd : Crowd) : List Context :=
  crowd.connections.flatMap (Connection.whole service)

/-- The requests whose responses have been broken off. -/
def broken (service : Service) (crowd : Crowd) : List Context :=
  crowd.connections.flatMap (Connection.broken service)

/-- The requests that the observer has been told of. -/
def completed (crowd : Crowd) : List Context := crowd.connections.flatMap Connection.completed

/-- What a series shows when the changes have been recorded in some order, besides what the observer
has counted in it. -/
def shows (service : Service) (crowd : Crowd) (recorded : List Metric) (metric : Metric) : Int :=
  (Registry.ofMetrics recorded).total metric.series -
    (Registry.ofMetrics (crowd.completed.flatMap service.observes)).total metric.series

/-! ## What every step preserves -/

/-- So many connections have been accepted and so many accepts have failed for good. The loop has
counted these and the handlers that are gone, it knows how far each handler has come, and every
connection has counted what it has written. -/
structure Tally (service : Service) (accepted failed : Nat) (crowd : Crowd) : Prop where
  sound : crowd.loop.Sound
  paired : crowd.Paired
  arrived : crowd.loop.endings.length = accepted
  ledgers : ∀ handler ∈ crowd.handlers, ∀ connection ∈ handler.connection?,
    connection.Ledger service
  loop : ∀ series, (Registry.ofMetrics crowd.loop.metrics).total series =
    accepted * (Metric.opened.amount series + Metric.accepted.amount series) +
      failed * Metric.acceptFailed.amount series +
      crowd.loop.endings.count true * Metric.closed.amount series

theorem tally_start (service : Service) (logPrefix : String) (listener : Listener) :
    Tally service 0 0 { loop := AcceptLoop.start logPrefix listener } := by
  constructor
  · exact AcceptLoop.sound_start logPrefix listener
  · exact paired_start logPrefix listener
  · rfl
  · simp
  · intro series
    have nothing : (Registry.ofMetrics (AcceptLoop.start logPrefix listener).metrics).total series =
        0 := rfl
    have nobody : (AcceptLoop.start logPrefix listener).endings.count true = 0 := rfl
    rw [nothing, nobody]
    simp

variable {accepted failed : Nat}

theorem tally_accept {arrival : Arrival} (tally : crowd.Tally service accepted failed)
    (taken : crowd.step service (.accept arrival) = some after) :
    after.Tally service (accepted + 1) failed := by
  have paired := paired_accept tally.paired taken
  obtain ⟨between, loop, isAccepted, moved, rfl⟩ := step_accept taken
  have endings : loop.endings = crowd.loop.endings ++ [false] :=
    (AcceptLoop.endings_behind moved).1.trans (AcceptLoop.endings_accept_ok isAccepted).1
  constructor
  · exact AcceptLoop.sound_behind (AcceptLoop.sound_step tally.sound isAccepted) moved
  · exact paired
  · rw [endings, List.length_append, tally.arrived]
    rfl
  · intro handler member
    rcases List.mem_append.mp member with earlier | new
    · exact tally.ledgers handler earlier
    · rw [List.mem_singleton.mp new]
      exact Handler.ledger_ofArrival service _ arrival
  · intro series
    have counted : (Registry.ofMetrics (LoopStep.accept (.ok ())).counts).total series =
        Metric.opened.amount series + Metric.accepted.amount series := by
      simp [Registry.total_ofMetrics, LoopStep.counts]
    have same : (loop.endings.count true : Int) = crowd.loop.endings.count true := by
      rw [endings, List.count_append]
      rfl
    rw [AcceptLoop.metrics_behind moved, AcceptLoop.total_step isAccepted, tally.loop, counted,
      same]
    push_cast
    ring

theorem tally_serve {index : Nat} {time : Instant} (tally : crowd.Tally service accepted failed)
    (taken : crowd.step service (.serve index time) = some after) :
    after.Tally service accepted failed := by
  have paired := paired_serve tally.paired taken
  obtain ⟨handler, next, loop, here, served, moved, rfl⟩ := step_serve taken
  have endings := (AcceptLoop.endings_behind moved).1
  refine ⟨AcceptLoop.sound_behind tally.sound moved, paired, ?_, ?_, ?_⟩
  · rw [endings, tally.arrived]
  · intro other member
    rcases List.mem_or_eq_of_mem_set member with earlier | rfl
    · exact tally.ledgers other earlier
    · exact Handler.ledger_step (tally.ledgers handler (List.mem_of_getElem? here)) served
  · rw [AcceptLoop.metrics_behind moved, endings]
    exact tally.loop

theorem tally_leave {index : Nat} (tally : crowd.Tally service accepted failed)
    (taken : crowd.step service (.leave index) = some after) :
    after.Tally service accepted failed := by
  have paired := paired_leave tally.paired taken
  obtain ⟨loop, left, rfl⟩ := step_leave taken
  obtain ⟨going, endings, -⟩ := AcceptLoop.endings_leave left
  obtain ⟨inside, value⟩ := List.getElem?_eq_some_iff.mp going
  refine ⟨AcceptLoop.sound_step tally.sound left, paired, ?_, tally.ledgers, ?_⟩
  · rw [endings, List.length_set]
    exact tally.arrived
  · intro series
    have counted : (Registry.ofMetrics (LoopStep.leave index).counts).total series =
        Metric.closed.amount series :=
      Registry.total_singleton _ _
    have more : loop.endings.count true = crowd.loop.endings.count true + 1 := by
      rw [endings, List.count_set inside, value]
      rfl
    rw [AcceptLoop.total_step left, tally.loop, counted, more]
    push_cast
    ring

theorem tally_loop {next : LoopStep} (tally : crowd.Tally service accepted failed)
    (taken : crowd.step service (.loop next) = some after) :
    after.Tally service accepted
      (failed + if CrowdStep.failsForGood (.loop next) then 1 else 0) := by
  have paired := paired_loop tally.paired taken
  obtain ⟨own, loop, moved, rfl⟩ := step_loop taken
  have endings : loop.endings = crowd.loop.endings := by
    rw [AcceptLoop.endings, (AcceptLoop.same_of_isOfLoop own moved).1, AcceptLoop.endings]
  refine ⟨AcceptLoop.sound_step tally.sound moved, paired, ?_, tally.ledgers, ?_⟩
  · rw [endings]
    exact tally.arrived
  · intro series
    rw [AcceptLoop.total_step moved, tally.loop, endings, LoopStep.total_counts_of_isOfLoop own]
    push_cast
    ring

theorem tally_step {next : CrowdStep} (tally : crowd.Tally service accepted failed)
    (taken : crowd.step service next = some after) :
    after.Tally service (accepted + if next.arrival?.isSome then 1 else 0)
      (failed + if next.failsForGood then 1 else 0) := by
  cases next with
  | accept arrival =>
      exact tally_accept tally taken
  | serve index time =>
      exact tally_serve tally taken
  | leave index =>
      exact tally_leave tally taken
  | loop next =>
      exact tally_loop tally taken

theorem tally_follow {taken : List CrowdStep} (tally : crowd.Tally service accepted failed)
    (run : crowd.follow service taken = some after) :
    after.Tally service (accepted + (taken.filterMap CrowdStep.arrival?).length)
      (failed + taken.countP CrowdStep.failsForGood) := by
  rw [List.length_filterMap_eq_countP]
  induction taken generalizing crowd accepted failed with
  | nil =>
      cases Option.some.inj run
      exact tally
  | cons next later inductionHypothesis =>
      obtain ⟨middle, first, rest⟩ := follow_cons run
      rw [List.countP_cons, List.countP_cons, ← Nat.add_assoc, ← Nat.add_assoc,
        Nat.add_right_comm accepted, Nat.add_right_comm failed]
      exact inductionHypothesis (tally_step tally first) rest

/-! ## What has been counted when all handlers are gone -/

theorem Tally.settled (tally : crowd.Tally service accepted failed)
    (gone : ∀ ended ∈ crowd.loop.endings, ended = true) :
    ∀ connection ∈ crowd.connections, connection.Settled service := by
  intro connection member
  obtain ⟨handler, isThere, serves⟩ := List.mem_filterMap.mp member
  obtain ⟨index, place⟩ := List.mem_iff_getElem?.mp isThere
  obtain ⟨phase, known, stands⟩ := tally.paired.exists_phase place
  have ended : phase.hasEnded = true :=
    gone _ (List.mem_of_getElem? (AcceptLoop.endings_getElem? known))
  have finished : handler.isOver = true := by
    refine Handler.isOver_of_hasShut (stands.hasShut ?_)
    rintro rfl
    cases ended
  cases handler with
  | refused event exit =>
      cases serves
  | serving served =>
      cases serves
      exact (tally.ledgers _ isThere _ rfl).settled finished

theorem metrics_perm (settled : ∀ connection ∈ crowd.connections, connection.Settled service) :
    crowd.metrics.Perm (crowd.loop.metrics ++
      (((crowd.answered service).filterMap service.status?).map Metric.responded ++
        crowd.completed.flatMap service.observes)) := by
  refine List.Perm.append_left _ ?_
  refine (List.Perm.flatMap_left _ fun connection member =>
    (settled connection member).counted).trans ?_
  refine (List.flatMap_append_perm _ _ _).symm.trans (.of_eq ?_)
  rw [answered, completed, List.flatMap_assoc, List.filterMap_flatMap, List.map_flatMap]

theorem answered_perm (settled : ∀ connection ∈ crowd.connections, connection.Settled service) :
    (crowd.answered service).Perm (crowd.whole service ++ crowd.broken service) := by
  refine (List.Perm.flatMap_left _ fun connection member => .of_eq ?_).trans
    (List.flatMap_append_perm _ _ _).symm
  exact (settled connection member).answered

theorem length_completed (settled : ∀ connection ∈ crowd.connections, connection.Settled service)
    (observed : service.pipeline.observer.isSome = true) :
    crowd.completed.length = (crowd.whole service).length := by
  rw [completed, whole, List.length_flatMap, List.length_flatMap]
  refine congrArg List.sum (List.map_congr_left fun connection member => ?_)
  rw [(settled connection member).told, if_pos observed]

theorem shows_eq {recorded : List Metric} (order : recorded.Perm crowd.metrics)
    (settled : ∀ connection ∈ crowd.connections, connection.Settled service) (metric : Metric) :
    crowd.shows service recorded metric =
      (Registry.ofMetrics crowd.loop.metrics).total metric.series +
        (Registry.ofMetrics (((crowd.answered service).filterMap service.status?).map
          Metric.responded)).total metric.series := by
  rw [shows, Registry.total_of_perm (order.trans (metrics_perm settled)), Registry.total_append,
    Registry.total_append]
  ring

/-! ## What the series tell -/

/-- What the series of a server show when some steps have been taken and every handler is gone. -/
structure Tells (service : Service) (taken : List CrowdStep) (recorded : List Metric)
    (crowd : Crowd) : Prop where
  /-- The series of a status counts the responses that have been written whole and those that have
  been broken off. -/
  responses : ∀ status, crowd.shows service recorded (.responded status) =
    (crowd.whole service).countP (fun given => service.status? given == some status) +
      (crowd.broken service).countP (fun given => service.status? given == some status)
  /-- A connection breaks off one response at most, and that only if its peer does not take all that
  the pipeline has answered. -/
  broken : ∀ connection ∈ crowd.connections, (connection.broken service).length ≤ 1 ∧
    (connection.broken service = [] ↔ Outlet.Fits connection.outlet.bound
      ((connection.answered service).flatMap service.octets))
  /-- The observer has been told of each response that has been written whole, and of no other. -/
  completions : service.pipeline.observer.isSome = true →
    crowd.completed.length = (crowd.whole service).length
  accepted : crowd.shows service recorded .accepted = (taken.filterMap CrowdStep.arrival?).length
  failures : crowd.shows service recorded .acceptFailed = taken.countP CrowdStep.failsForGood
  /-- No handler is counted as running. -/
  running : crowd.shows service recorded .opened = 0

/-- Whatever the pipeline does, however the steps of a server and of its handlers fall and wherever
peers stop taking octets, the series tell what has happened when every handler is gone. They may
have been changed in any order. -/
theorem tells_of_follow {taken : List CrowdStep} {recorded : List Metric} (logPrefix : String)
    (listener : Listener)
    (run : follow service { loop := AcceptLoop.start logPrefix listener } taken = some crowd)
    (gone : ∀ released ∈ crowd.released, released = true) (order : recorded.Perm crowd.metrics) :
    crowd.Tells service taken recorded := by
  have tally := tally_follow (tally_start service logPrefix listener) run
  rw [Nat.zero_add, Nat.zero_add] at tally
  have guards : crowd.released = crowd.loop.endings := tally.sound.guards
  rw [guards] at gone
  have settled := tally.settled gone
  have closed : crowd.loop.endings.count true = (taken.filterMap CrowdStep.arrival?).length := by
    rw [← tally.arrived]
    exact List.count_eq_length.mpr fun _ member => (gone _ member).symm
  -- the responses have no share in the series of the loop
  have ofLoop (metric : Metric)
      (begins : ¬ "conveyor_requests_total".toList <+: metric.series.toList) :
      crowd.shows service recorded metric =
        (Registry.ofMetrics crowd.loop.metrics).total metric.series := by
    rw [shows_eq order settled, Registry.total_responded_of_ne _ begins, add_zero]
  constructor
  · intro status
    have noShare {metric : Metric}
        (begins : ¬ "conveyor_requests_total".toList <+: metric.series.toList) :
        metric.amount (Metric.responded status).series = 0 :=
      Metric.amount_of_ne (Metric.series_responded_ne begins status).symm
    rw [shows_eq order settled, tally.loop, noShare (by decide), noShare (by decide),
      noShare (by decide), noShare (by decide), Registry.total_responded, List.count_filterMap,
      (answered_perm settled).countP_eq, List.countP_append]
    push_cast
    ring
  · intro connection member
    exact ⟨(settled connection member).single, (settled connection member).broken⟩
  · exact length_completed settled
  · rw [ofLoop _ (by decide), tally.loop]
    simp [Metric.amount, Metric.series, Metric.change]
  · rw [ofLoop _ (by decide), tally.loop]
    simp [Metric.amount, Metric.series, Metric.change]
  · rw [ofLoop _ (by decide), tally.loop, closed]
    simp [Metric.amount, Metric.series, Metric.change]

/-- Two connections, one of which loses its peer within the response, and an accept that fails. -/
theorem tells_of_follow_of_lost_peer :
    let greeting : RequestFilter :=
      { name := "greeting"
        run := fun context => .ok (some (.text .ok (Bytes.ascii "hello")), context) }
    let stages : StagePipeline := { requestFilters := [greeting] }
    let service : Service :=
      { pipeline := { stages.toPipeline with observer := some Observer.stageMetrics } }
    let address : SocketAddress := .short ⟨127, 0, 0, 1⟩ 8080
    let listener : Listener := { number := 3, address, acceptTimeout := 500 }
    let lost : Arrival :=
      { peer := .short ⟨127, 0, 0, 1⟩ 40000, listener := address
        stream := [.octets (Bytes.ascii "GET /a HTTP/1.1\r\n\r\n")], bound := some { room := 10 } }
    let served : Arrival :=
      { peer := .short ⟨127, 0, 0, 1⟩ 40001, listener := address
        stream := [.octets (Bytes.ascii "GET /b HTTP/1.1\r\n\r\n")] }
    let taken : List CrowdStep :=
      [.accept lost, .loop .look, .serve 0 1, .accept served, .loop .look, .serve 1 2, .serve 0 2,
        .serve 1 3, .serve 0 3, .loop (.accept (.error (.failed .other))), .serve 1 4, .serve 0 4,
        .serve 1 5, .leave 1, .leave 0]
    ∃ crowd, follow service { loop := AcceptLoop.start "" listener } taken = some crowd ∧
      crowd.Tells service taken crowd.metrics := by
  intro greeting stages service address listener lost served taken
  have gone : (follow service { loop := AcceptLoop.start "" listener } taken).map released =
      some [true, true] := by decide +kernel
  obtain ⟨crowd, run, releases⟩ := Option.map_eq_some_iff.mp gone
  exact ⟨crowd, run, tells_of_follow "" listener run (by rw [releases]; decide) (.refl _)⟩

/-- A response that no peer has taken whole is counted as written. -/
theorem shows_broken_response :
    let greeting : RequestFilter :=
      { name := "greeting"
        run := fun context => .ok (some (.text .ok (Bytes.ascii "hello")), context) }
    let stages : StagePipeline := { requestFilters := [greeting] }
    let service : Service :=
      { pipeline := { stages.toPipeline with observer := some Observer.stageMetrics } }
    let address : SocketAddress := .short ⟨127, 0, 0, 1⟩ 8080
    let listener : Listener := { number := 3, address, acceptTimeout := 500 }
    let lost : Arrival :=
      { peer := .short ⟨127, 0, 0, 1⟩ 40000, listener := address
        stream := [.octets (Bytes.ascii "GET /a HTTP/1.1\r\n\r\n")], bound := some { room := 10 } }
    let taken : List CrowdStep :=
      [.accept lost, .serve 0 1, .serve 0 2, .serve 0 3, .serve 0 4, .leave 0]
    ∃ crowd, follow service { loop := AcceptLoop.start "" listener } taken = some crowd ∧
      crowd.released = [true] ∧ crowd.shows service crowd.metrics (.responded 200) = 1 ∧
      (crowd.whole service).length = 0 ∧ crowd.completed.length = 0 := by
  intro greeting stages service address listener lost taken
  have counted : (follow service { loop := AcceptLoop.start "" listener } taken).map (fun crowd =>
      (crowd.released, crowd.shows service crowd.metrics (.responded 200),
        (crowd.whole service).length, crowd.completed.length)) = some ([true], 1, 0, 0) := by
    decide +kernel
  obtain ⟨crowd, run, same⟩ := Option.map_eq_some_iff.mp counted
  simp only [Prod.mk.injEq] at same
  exact ⟨crowd, run, same⟩

end Crowd

end HttpServer
