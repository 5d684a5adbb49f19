import HttpServer.Proofs.Exchanges
import Mathlib.Data.List.Chain

/-!
# The stages of served requests

A pipeline may do with the timeline of a request what a timeline offers, as often and in whatever
order it likes. Nothing of that takes a record away, changes one, or moves the instant at which the
request was complete. So the records that the observer of a served request sees begin with the
stage in which it was read and end with the one in which its response was written. If the pipeline
records nothing that it has measured itself, they follow one after the other; and on one
connection a request begins when the one before it has been answered.
-/

namespace HttpServer

/-- What can be done with the timeline of a request. -/
inductive TimelineStep where
  | append (name : String) (start finish : Instant)
  | start (name : String)
  | finishStage
  | finish
  /-- Nothing is done for a while. -/
  | wait (duration : Nat)
deriving DecidableEq, Repr

/-- Whether a step records nothing but what the clock of the timeline has shown. -/
def TimelineStep.isLive : TimelineStep → Bool
  | .append _ _ _ => false
  | .start _ | .finishStage | .finish | .wait _ => true

namespace Timeline

def take (timeline : Timeline) : TimelineStep → Timeline
  | .append name start finish => timeline.append name start finish
  | .start name => timeline.start name
  | .finishStage => timeline.finishStage
  | .finish => timeline.finish
  | .wait duration =>
    { timeline with clock := { timeline.clock with time := timeline.clock.time + duration } }

def follow (timeline : Timeline) (taken : List TimelineStep) : Timeline :=
  taken.foldl take timeline

theorem follow_append (timeline : Timeline) (taken later : List TimelineStep) :
    timeline.follow (taken ++ later) = (timeline.follow taken).follow later :=
  List.foldl_append

variable {timeline before after later : Timeline}

/-! ## Nothing is taken back -/

/-- The records stay and others come behind them, a request that is complete stays complete since
the same instant, and the clock does not go back. -/
structure Grows (before after : Timeline) : Prop where
  records : before.records <+: after.records
  finishedAt : ∀ time, before.finishedAt = some time → after.finishedAt = some time
  clock : before.clock.time ≤ after.clock.time

theorem Grows.refl (timeline : Timeline) : timeline.Grows timeline :=
  ⟨List.prefix_rfl, fun _ same => same, Nat.le_refl _⟩

theorem Grows.trans (first : before.Grows after) (second : after.Grows later) :
    before.Grows later :=
  ⟨first.records.trans second.records,
    fun time finished => second.finishedAt time (first.finishedAt time finished),
    Nat.le_trans first.clock second.clock⟩

theorem finishStage_of_none (idle : timeline.current = none) :
    timeline.finishStage = timeline := by
  simp only [finishStage, idle]

theorem finishStage_of_some {stage : OpenStage} (running : timeline.current = some stage) :
    timeline.finishStage =
      { timeline with
        clock := timeline.clock.tick
        current := none
        records := timeline.records ++
          [⟨stage.name, stage.start, max timeline.clock.tick.time stage.start⟩] } := by
  simp only [finishStage, running]

theorem grows_finishStage (timeline : Timeline) : timeline.Grows timeline.finishStage := by
  cases running : timeline.current with
  | none =>
      rw [finishStage_of_none running]
      exact .refl timeline
  | some stage =>
      rw [finishStage_of_some running]
      exact ⟨List.prefix_append _ _, fun _ same => same, timeline.clock.time_le_tick⟩

theorem grows_append (timeline : Timeline) (name : String) (start finish : Instant) :
    timeline.Grows (timeline.append name start finish) := by
  apply (grows_finishStage timeline).trans
  exact ⟨List.prefix_append _ _, fun _ same => same, Nat.le_refl _⟩

theorem grows_start (timeline : Timeline) (name : String) :
    timeline.Grows (timeline.start name) := by
  apply (grows_finishStage timeline).trans
  exact ⟨List.prefix_rfl, fun _ same => same, timeline.finishStage.clock.time_le_tick⟩

/-- Apart from the current stage, completion changes nothing but when the request was complete. -/
theorem finish_eq (timeline : Timeline) :
    ∃ clock finishedAt, timeline.finish = { timeline.finishStage with clock, finishedAt } ∧
      timeline.finishStage.clock.time ≤ clock.time ∧
      ∀ time, timeline.finishStage.finishedAt = some time → finishedAt = some time := by
  cases finished : timeline.finishStage.finishedAt with
  | some time =>
      refine ⟨timeline.finishStage.clock, some time, ?_, Nat.le_refl _, fun _ same => same⟩
      simp only [finish, finished]
      rw [← finished]
  | none =>
      refine ⟨timeline.finishStage.clock.tick, some timeline.finishStage.clock.tick.time, ?_,
        timeline.finishStage.clock.time_le_tick, fun _ other => nomatch other⟩
      simp only [finish, finished]

theorem grows_finish (timeline : Timeline) : timeline.Grows timeline.finish := by
  obtain ⟨clock, finishedAt, same, later, kept⟩ := finish_eq timeline
  rw [same]
  exact (grows_finishStage timeline).trans ⟨List.prefix_rfl, kept, later⟩

theorem grows_take (timeline : Timeline) (step : TimelineStep) :
    timeline.Grows (timeline.take step) := by
  cases step with
  | append name start finish =>
      exact grows_append timeline name start finish
  | start name =>
      exact grows_start timeline name
  | finishStage =>
      exact grows_finishStage timeline
  | finish =>
      exact grows_finish timeline
  | wait duration =>
      exact ⟨List.prefix_rfl, fun _ same => same, Nat.le_add_right _ _⟩

theorem grows_follow (timeline : Timeline) (taken : List TimelineStep) :
    timeline.Grows (timeline.follow taken) := by
  induction taken generalizing timeline with
  | nil =>
      exact .refl timeline
  | cons step later inductionHypothesis =>
      exact (grows_take timeline step).trans (inductionHypothesis _)

/-! ## No stage ends before it starts -/

def Measured (timeline : Timeline) : Prop :=
  ∀ stage ∈ timeline.records, stage.start ≤ stage.finish

theorem Measured.concat {records : List StageRecord} {last : StageRecord}
    (measured : ∀ stage ∈ records, stage.start ≤ stage.finish) (ends : last.start ≤ last.finish) :
    ∀ stage ∈ records ++ [last], stage.start ≤ stage.finish := by
  intro stage member
  rcases List.mem_append.mp member with earlier | new
  · exact measured stage earlier
  · rw [List.mem_singleton.mp new]
    exact ends

theorem Measured.finishStage (measured : timeline.Measured) : timeline.finishStage.Measured := by
  cases running : timeline.current with
  | none =>
      rw [finishStage_of_none running]
      exact measured
  | some stage =>
      rw [finishStage_of_some running]
      exact Measured.concat measured (Nat.le_max_right _ _)

theorem Measured.finish (measured : timeline.Measured) : timeline.finish.Measured := by
  obtain ⟨clock, finishedAt, same, -, -⟩ := finish_eq timeline
  rw [same]
  exact measured.finishStage

theorem Measured.take (measured : timeline.Measured) (step : TimelineStep) :
    (timeline.take step).Measured := by
  cases step with
  | append name start finish =>
      exact Measured.concat measured.finishStage (Nat.le_max_right _ _)
  | start name | finishStage =>
      exact measured.finishStage
  | finish =>
      exact measured.finish
  | wait duration =>
      exact measured

theorem Measured.follow (measured : timeline.Measured) (taken : List TimelineStep) :
    (timeline.follow taken).Measured := by
  induction taken generalizing timeline with
  | nil =>
      exact measured
  | cons step later inductionHypothesis =>
      exact inductionHypothesis (measured.take step)

/-! ## Stages that follow each other -/

/-- Each record ends before the later ones start, all of them before now. The current stage has
started behind them, and not later than now. -/
structure Ordered (timeline : Timeline) : Prop where
  records : timeline.records.Pairwise fun earlier next => earlier.finish ≤ next.start
  past : ∀ stage ∈ timeline.records, stage.finish ≤ timeline.clock.time
  current : ∀ running ∈ timeline.current, running.start ≤ timeline.clock.time ∧
    ∀ stage ∈ timeline.records, stage.finish ≤ running.start

theorem Ordered.pass (ordered : timeline.Ordered) {clock : Clock}
    (later : timeline.clock.time ≤ clock.time) (finishedAt : Option Instant) :
    Ordered { timeline with clock, finishedAt } := by
  refine ⟨ordered.records, ?_, ?_⟩
  · intro stage member
    exact Nat.le_trans (ordered.past stage member) later
  · intro running isRunning
    obtain ⟨past, behind⟩ := ordered.current running isRunning
    exact ⟨Nat.le_trans past later, behind⟩

theorem Ordered.finishStage (ordered : timeline.Ordered) : timeline.finishStage.Ordered := by
  cases running : timeline.current with
  | none =>
      rw [finishStage_of_none running]
      exact ordered
  | some stage =>
      obtain ⟨started, behind⟩ := ordered.current stage running
      have passes := timeline.clock.time_le_tick
      rw [finishStage_of_some running]
      refine ⟨?_, ?_, ?_⟩
      · rw [List.pairwise_append]
        refine ⟨ordered.records, List.pairwise_singleton _ _, ?_⟩
        intro earlier isEarlier last isLast
        rw [List.mem_singleton.mp isLast]
        exact behind earlier isEarlier
      · intro other member
        rcases List.mem_append.mp member with earlier | last
        · exact Nat.le_trans (ordered.past other earlier) passes
        · rw [List.mem_singleton.mp last]
          exact Nat.max_le.mpr ⟨Nat.le_refl _, Nat.le_trans started passes⟩
      · intro other isRunning
        cases isRunning

theorem Ordered.start (ordered : timeline.Ordered) (name : String) :
    (timeline.start name).Ordered := by
  have before := ordered.finishStage
  have passes := timeline.finishStage.clock.time_le_tick
  refine ⟨before.records, ?_, ?_⟩
  · intro stage member
    exact Nat.le_trans (before.past stage member) passes
  · intro running isRunning
    obtain rfl := Option.some.inj isRunning
    refine ⟨Nat.le_refl _, ?_⟩
    intro stage member
    exact Nat.le_trans (before.past stage member) passes

theorem Ordered.finish (ordered : timeline.Ordered) : timeline.finish.Ordered := by
  obtain ⟨clock, finishedAt, same, later, -⟩ := finish_eq timeline
  rw [same]
  exact ordered.finishStage.pass later finishedAt

theorem Ordered.take (ordered : timeline.Ordered) {step : TimelineStep}
    (live : step.isLive = true) :
    (timeline.take step).Ordered := by
  cases step with
  | append name start finish =>
      cases live
  | start name =>
      exact ordered.start name
  | finishStage =>
      exact ordered.finishStage
  | finish =>
      exact ordered.finish
  | wait duration =>
      exact ordered.pass (Nat.le_add_right _ _) _

theorem Ordered.follow (ordered : timeline.Ordered) {taken : List TimelineStep}
    (live : ∀ step ∈ taken, step.isLive = true) :
    (timeline.follow taken).Ordered := by
  induction taken generalizing timeline with
  | nil =>
      exact ordered
  | cons step later inductionHypothesis =>
      apply inductionHypothesis (ordered.take (live step List.mem_cons_self))
      intro other member
      exact live other (List.mem_cons_of_mem _ member)

/-! ## The first and the last stage -/

/-- The request has been read, in the one stage that is on record, and nothing has happened to it
since. -/
structure Fresh (timeline : Timeline) (init : StageRecord) : Prop where
  records : timeline.records = [init]
  name : init.name = initStage
  ends : init.start ≤ init.finish
  past : init.finish ≤ timeline.clock.time
  current : timeline.current = none
  unfinished : timeline.finishedAt = none

theorem Fresh.measured {init : StageRecord} (fresh : timeline.Fresh init) :
    timeline.Measured := by
  intro stage member
  rw [fresh.records] at member
  rw [List.mem_singleton.mp member]
  exact fresh.ends

theorem Fresh.ordered {init : StageRecord} (fresh : timeline.Fresh init) : timeline.Ordered := by
  refine ⟨?_, ?_, ?_⟩
  · rw [fresh.records]
    exact List.pairwise_singleton _ _
  · intro stage member
    rw [fresh.records] at member
    rw [List.mem_singleton.mp member]
    exact fresh.past
  · intro running isRunning
    rw [fresh.current] at isRunning
    cases isRunning

/-- The timeline of a request once its response has been written. -/
def written (timeline : Timeline) : Timeline := (timeline.start writeStage).finish

theorem grows_written (timeline : Timeline) : timeline.Grows timeline.written :=
  (grows_start timeline writeStage).trans (grows_finish _)

theorem Measured.written (measured : timeline.Measured) : timeline.written.Measured :=
  (measured.take (.start writeStage)).finish

theorem Ordered.written (ordered : timeline.Ordered) : timeline.written.Ordered :=
  (ordered.start writeStage).finish

/-- The last record is that of the writing, which has ended by now. -/
theorem written_eq (timeline : Timeline) :
    timeline.written.current = none ∧
      ∃ last, last.name = writeStage ∧ last.finish ≤ timeline.written.clock.time ∧
        timeline.written.records = timeline.finishStage.records ++ [last] := by
  let running := timeline.start writeStage
  let stage : OpenStage := ⟨writeStage, running.clock.time⟩
  let last : StageRecord := ⟨writeStage, stage.start, max running.clock.tick.time stage.start⟩
  have passes := running.clock.time_le_tick
  have isRunning : running.current = some stage := rfl
  have ended : running.finishStage = { running with
      clock := running.clock.tick
      current := none
      records := running.records ++ [last] } :=
    finishStage_of_some isRunning
  obtain ⟨clock, finishedAt, same, later, -⟩ := finish_eq running
  rw [written, same, ended]
  rw [ended] at later
  exact ⟨rfl, last, rfl, Nat.max_le.mpr ⟨later, Nat.le_trans passes later⟩, rfl⟩

end Timeline

/-! ## Pipelines -/

/-- Whatever has happened to the timeline between the two contexts is something that timelines
offer. -/
def Context.KeepsTimeline (before after : Context) : Prop :=
  ∃ taken, after.timeline = before.timeline.follow taken

theorem Context.KeepsTimeline.trans {before after later : Context}
    (first : before.KeepsTimeline after) (second : after.KeepsTimeline later) :
    before.KeepsTimeline later := by
  obtain ⟨taken, same⟩ := first
  obtain ⟨behind, sameToo⟩ := second
  refine ⟨taken ++ behind, ?_⟩
  rw [sameToo, same, Timeline.follow_append]

theorem Context.keepsTimeline_startStage (context : Context) (name : String) :
    context.KeepsTimeline (context.startStage name) :=
  ⟨[.start name], rfl⟩

theorem Context.keepsTimeline_finishStage (context : Context) :
    context.KeepsTimeline context.finishStage :=
  ⟨[.finishStage], rfl⟩

/-- The pipeline does with the timelines of requests only what timelines offer. -/
def Pipeline.KeepsTimelines (pipeline : Pipeline) : Prop :=
  ∀ given answer after, pipeline.execute given = .ok (answer, after) → given.KeepsTimeline after

def RequestFilter.KeepsTimelines (filter : RequestFilter) : Prop :=
  ∀ given answer after, filter.run given = .ok (answer, after) → given.KeepsTimeline after

def ResponseFilter.KeepsTimelines (filter : ResponseFilter) : Prop :=
  ∀ given response answer after, filter.run given response = .ok (answer, after) →
    given.KeepsTimeline after

namespace StagePipeline

theorem keepsTimeline_runRequestFilters {filters : List RequestFilter}
    (keeps : ∀ filter ∈ filters, filter.KeepsTimelines) {given after : Context}
    {answer : Option Response} (ran : runRequestFilters filters given = .ok (answer, after)) :
    given.KeepsTimeline after := by
  induction filters generalizing given with
  | nil =>
      cases ran
      exact ⟨[], rfl⟩
  | cons filter rest inductionHypothesis =>
      rw [runRequestFilters] at ran
      cases outcome : filter.run (given.startStage filter.name) with
      | error fault =>
          rw [outcome] at ran
          cases ran
      | ok result =>
          obtain ⟨reply, left⟩ := result
          rw [outcome] at ran
          have one : given.KeepsTimeline left.finishStage :=
            ((given.keepsTimeline_startStage filter.name).trans
              (keeps filter List.mem_cons_self _ _ _ outcome)).trans left.keepsTimeline_finishStage
          cases reply with
          | some response =>
              cases ran
              exact one
          | none =>
              apply one.trans
              apply inductionHypothesis _ ran
              intro other member
              exact keeps other (List.mem_cons_of_mem _ member)

theorem keepsTimeline_runResponseFilters {filters : List ResponseFilter}
    (keeps : ∀ filter ∈ filters, filter.KeepsTimelines) {given after : Context}
    {response answer : Response}
    (ran : runResponseFilters filters response given = .ok (answer, after)) :
    given.KeepsTimeline after := by
  induction filters generalizing given response with
  | nil =>
      cases ran
      exact ⟨[], rfl⟩
  | cons filter rest inductionHypothesis =>
      rw [runResponseFilters] at ran
      cases outcome : filter.run (given.startStage filter.name) response with
      | error fault =>
          rw [outcome] at ran
          cases ran
      | ok result =>
          obtain ⟨changed, left⟩ := result
          rw [outcome] at ran
          have one : given.KeepsTimeline left.finishStage :=
            ((given.keepsTimeline_startStage filter.name).trans
              (keeps filter List.mem_cons_self _ _ _ _ outcome)).trans
                left.keepsTimeline_finishStage
          apply one.trans
          apply inductionHypothesis _ ran
          intro other member
          exact keeps other (List.mem_cons_of_mem _ member)

/-- A pipeline of stages keeps timelines if its stages do. -/
theorem keepsTimelines_toPipeline {pipeline : StagePipeline}
    (keepsRequests : ∀ filter ∈ pipeline.requestFilters, filter.KeepsTimelines)
    (keepsResponses : ∀ filter ∈ pipeline.responseFilters, filter.KeepsTimelines) :
    pipeline.toPipeline.KeepsTimelines := by
  intro given answer after executed
  simp only [toPipeline, execute] at executed
  cases outcome : runRequestFilters pipeline.requestFilters given with
  | error fault =>
      rw [outcome] at executed
      cases executed
  | ok result =>
      obtain ⟨reply, left⟩ := result
      have one := keepsTimeline_runRequestFilters keepsRequests outcome
      rw [outcome] at executed
      cases reply with
      | none =>
          cases executed
          exact one
      | some response =>
          cases outcomeToo : runResponseFilters pipeline.responseFilters response left with
          | error fault =>
              simp only [bind, Except.bind, outcomeToo] at executed
              cases executed
          | ok resultToo =>
              obtain ⟨final, last⟩ := resultToo
              simp only [bind, Except.bind, outcomeToo] at executed
              cases executed
              exact one.trans (keepsTimeline_runResponseFilters keepsResponses outcomeToo)

end StagePipeline

namespace Connection

variable {service : Service} {connection : Connection} {bound : Option WriteBound}
  {reader : Reader}

/-! ## The requests of one connection -/

theorem fresh_contextOf (connection : Connection) (request : Request) {began : Instant}
    (past : began ≤ connection.clock.time) :
    ∃ init, init.start = began ∧
      (connection.contextOf request began).timeline.Fresh init := by
  have passes := connection.clock.time_le_tick
  refine ⟨⟨Timeline.initStage, began, max connection.clock.tick.time began⟩, rfl, rfl, rfl,
    Nat.le_max_right _ _, ?_, rfl, rfl⟩
  exact Nat.max_le.mpr ⟨Nat.le_refl _, Nat.le_trans past passes⟩

/-- The requests have been served by a time. -/
def DoneBy (service : Service) (time : Instant) (given : Context) : Prop :=
  ∀ told, service.report? given = some told → told.timeline.clock.time ≤ time

/-- The pipeline has been given requests that have just been read, each when the one before it had
been served. -/
structure Chronicle (service : Service) (submitted : List Context) : Prop where
  fresh : ∀ given ∈ submitted, ∃ init, given.timeline.Fresh init
  order : submitted.IsChain fun earlier next =>
    ∀ init, next.timeline.Fresh init → DoneBy service init.start earlier

theorem Chronicle.concat {submitted : List Context} {given : Context} {init : StageRecord}
    (chronicle : Chronicle service submitted) (fresh : given.timeline.Fresh init)
    (done : ∀ last ∈ submitted.getLast?, DoneBy service init.start last) :
    Chronicle service (submitted ++ [given]) := by
  constructor
  · intro other member
    rcases List.mem_append.mp member with earlier | new
    · exact chronicle.fresh other earlier
    · rw [List.mem_singleton.mp new]
      exact ⟨init, fresh⟩
  · apply chronicle.order.append (List.isChain_singleton given)
    intro last isLast next isNext initToo freshToo
    obtain rfl := Option.some.inj isNext
    have same := fresh.records.symm.trans freshToo.records
    rw [List.singleton_inj.mp same.symm]
    exact done last isLast

/-- Where the requests of a connection stand between two steps. -/
inductive OnTime (service : Service) : Connection → Prop
  | reading {connection : Connection} (phase : connection.phase = .reading)
      (chronicle : Chronicle service connection.submitted)
      (done : ∀ last ∈ connection.submitted.getLast?, DoneBy service connection.clock.time last)
      (first : connection.requests = 0 →
        connection.submitted = [] ∧ connection.startedAt ≤ connection.clock.time) :
      OnTime service connection
  | dispatching {connection : Connection} {given : Context} {keepAlive : Bool} {init : StageRecord}
      (phase : connection.phase = .dispatching given keepAlive)
      (chronicle : Chronicle service connection.submitted)
      (fresh : given.timeline.Fresh init)
      (done : ∀ last ∈ connection.submitted.getLast?, DoneBy service init.start last)
      (notFirst : connection.requests ≠ 0) :
      OnTime service connection
  | writing {connection : Connection} {given context : Context} {answer : Option Response}
      {response : Response} {keepAlive : Bool}
      (phase : connection.phase = .writing context response keepAlive)
      (chronicle : Chronicle service connection.submitted)
      (last : connection.submitted.getLast? = some given)
      (executed : service.pipeline.execute given = .ok (answer, context))
      (notFirst : connection.requests ≠ 0) :
      OnTime service connection
  | stopping {connection : Connection}
      (phase : connection.phase = .closing ∨ connection.phase.isOver = true)
      (chronicle : Chronicle service connection.submitted) :
      OnTime service connection

theorem onTime_read (chronicle : Chronicle service connection.submitted)
    (done : ∀ last ∈ connection.submitted.getLast?, DoneBy service connection.clock.time last)
    (first : connection.requests = 0 →
      connection.submitted = [] ∧ connection.startedAt ≤ connection.clock.time) :
    (connection.read service).OnTime service := by
  have submitted := (read_keeps service connection).2.1
  rcases reading : connection.reader.readRequest service.limits with ⟨failure | request, after⟩
  · have stops := (read_of_error reading).1
    refine .stopping stops ?_
    rw [submitted]
    exact chronicle
  · let clock := if connection.requests = 0 then connection.clock else connection.clock.tick
    let began := if connection.requests = 0 then connection.startedAt else clock.time
    have goesOn : connection.read service =
        { connection with clock, reader := after }.accept request began := by
      simp only [Connection.read, reading, clock, began]
    -- The first request has begun when the connection was accepted, every other one begins now.
    have begins : began ≤ clock.time ∧
        ∀ last ∈ connection.submitted.getLast?, DoneBy service began last := by
      by_cases isFirst : connection.requests = 0
      · obtain ⟨none, past⟩ := first isFirst
        simp only [began, clock, if_pos isFirst, none]
        refine ⟨past, ?_⟩
        intro last isLast
        cases isLast
      · simp only [began, clock, if_neg isFirst]
        refine ⟨Nat.le_refl _, ?_⟩
        intro last isLast told isTold
        exact Nat.le_trans (done last isLast told isTold) connection.clock.time_le_tick
    obtain ⟨init, isInit, fresh⟩ :=
      fresh_contextOf { connection with clock, reader := after } request begins.1
    rw [goesOn]
    refine .dispatching rfl chronicle fresh ?_ (Nat.succ_ne_zero _)
    rw [isInit]
    exact begins.2

theorem onTime_dispatch {given : Context} {keepAlive : Bool} {init : StageRecord}
    (chronicle : Chronicle service connection.submitted) (fresh : given.timeline.Fresh init)
    (done : ∀ last ∈ connection.submitted.getLast?, DoneBy service init.start last)
    (notFirst : connection.requests ≠ 0) :
    (connection.dispatch service given keepAlive).OnTime service := by
  obtain ⟨-, requests, -, submitted, -⟩ := dispatch_keeps service connection given keepAlive
  have longer : Chronicle service (connection.dispatch service given keepAlive).submitted := by
    rw [submitted]
    exact chronicle.concat fresh done
  rcases executed : service.pipeline.execute given with fault | ⟨answer, context⟩
  · refine .stopping (.inr ?_) longer
    rw [dispatch, executed]
    rfl
  · have writes : (connection.dispatch service given keepAlive).phase =
        .writing context (answer.getD .notFound) keepAlive := by
      rw [dispatch, executed]
    refine .writing writes longer ?_ executed ?_
    · rw [submitted]
      exact List.getLast?_concat
    · rw [requests]
      exact notFirst

theorem afterWrite_eq (service : Service) (connection : Connection) (context : Context)
    (response : Response) (keepAlive : Bool) (outcome : Except WriteFailure Unit) :
    ∃ noted phase, Notes connection noted ∧ (phase = .reading ∨ phase = .closing) ∧
      connection.afterWrite service context response keepAlive outcome = { noted with phase } := by
  cases outcome with
  | error failure =>
      exact ⟨_, .closing, notes_log _ _ _ _ _, .inr rfl, rfl⟩
  | ok =>
      refine ⟨_, if keepAlive then .reading else .closing,
        (notes_log _ _ _ _ _).trans (notes_complete _ service context), ?_, rfl⟩
      cases keepAlive with
      | true =>
          exact .inl rfl
      | false =>
          exact .inr rfl

/-- The clock has gone on as long as the writing took. -/
theorem write_keeps (service : Service) (connection : Connection) (context : Context)
    (response : Response) (keepAlive : Bool) :
    let after := connection.write service context response keepAlive
    (after.phase = .reading ∨ after.phase = .closing) ∧ after.requests = connection.requests ∧
      after.submitted = connection.submitted ∧ after.clock = context.timeline.written.clock := by
  let stamped := response.withKeepAlive keepAlive
  let result := stamped.write context.request.asksHeadOnly connection.outlet
  let metric : Metric := .responded stamped.status.code
  let answered : Connection :=
    { connection with outlet := result.2, clock := context.timeline.written.clock }
  obtain ⟨noted, phase, notes, goesOn, same⟩ := afterWrite_eq service
    (answered.emit (.counted metric)) (context.startStage Timeline.writeStage).discardBody.finish
    stamped keepAlive result.1
  have written : connection.write service context response keepAlive = { noted with phase } := same
  have submitted := notes.submitted.trans (notes_counted answered metric).submitted
  obtain ⟨events, rfl⟩ := notes.same
  rw [written]
  exact ⟨goesOn, rfl, submitted, rfl⟩

theorem onTime_write {given context : Context} {answer : Option Response} {response : Response}
    {keepAlive : Bool} (chronicle : Chronicle service connection.submitted)
    (last : connection.submitted.getLast? = some given)
    (executed : service.pipeline.execute given = .ok (answer, context))
    (notFirst : connection.requests ≠ 0) :
    (connection.write service context response keepAlive).OnTime service := by
  obtain ⟨phase, requests, submitted, clock⟩ :=
    write_keeps service connection context response keepAlive
  rw [← submitted] at chronicle last
  rcases phase with reads | closes
  · refine .reading reads chronicle ?_ ?_
    · intro other isOther told isTold
      obtain rfl := Option.some.inj (last.symm.trans isOther)
      have reported : service.report? given =
          some (context.startStage Timeline.writeStage).discardBody.finish := by
        simp only [Service.report?, Service.answer?, executed, Option.map_some]
      obtain rfl := Option.some.inj (reported.symm.trans isTold)
      rw [clock]
      exact Nat.le_refl _
    · intro none
      rw [requests] at none
      exact absurd none notFirst
  · exact .stopping (.inl closes) chronicle

theorem onTime_step (onTime : connection.OnTime service) :
    (connection.step service).OnTime service := by
  cases onTime with
  | reading phase chronicle done first =>
      rw [step, phase]
      exact onTime_read chronicle done first
  | dispatching phase chronicle fresh done notFirst =>
      rw [step, phase]
      exact onTime_dispatch chronicle fresh done notFirst
  | writing phase chronicle last executed notFirst =>
      rw [step, phase]
      exact onTime_write chronicle last executed notFirst
  | stopping phase chronicle =>
      rcases phase with closing | ended
      · rw [step, closing]
        refine .stopping (.inr rfl) ?_
        have submitted : (connection.close service).submitted = connection.submitted :=
          (notes_log _ _ _ _ _).submitted
        simp only
        rw [submitted]
        exact chronicle
      · rw [step_of_isOver ended]
        exact .stopping (.inr ended) chronicle

theorem onTime_runUpTo (most : Nat) (onTime : connection.OnTime service) :
    (runUpTo service most connection).OnTime service := by
  induction most with
  | zero =>
      exact onTime
  | succ most inductionHypothesis =>
      rw [runUpTo_succ]
      exact onTime_step inductionHypothesis

theorem OnTime.chronicle (onTime : connection.OnTime service) :
    Chronicle service connection.submitted := by
  cases onTime with
  | reading _ chronicle | dispatching _ chronicle | writing _ chronicle | stopping _ chronicle =>
      exact chronicle

/-- The observer has been told of a front of what the pipeline has been given. -/
theorem Progress.told (progress : connection.Progress service bound reader) :
    ∃ served later, connection.submitted = served ++ later ∧
      connection.completed.map some =
        if service.pipeline.observer.isSome then served.map service.report? else [] := by
  cases progress with
  | reading phase records read | dispatching phase records read =>
      exact ⟨_, [], records.submitted.trans (List.append_nil _).symm, records.told⟩
  | writing phase records read =>
      exact ⟨_, _, records.submitted, records.told⟩
  | stopping phase ending =>
      cases ending with
      | complete records =>
          exact ⟨_, [], records.submitted.trans (List.append_nil _).symm, records.told⟩
      | cut phase records | failed fails records =>
          exact ⟨_, _, records.submitted, records.told⟩

theorem onTime_start (service : Service) (info : ConnectionInfo) (reader : Reader)
    {clock : Clock} {startedAt : Instant} (bound : Option WriteBound)
    (past : startedAt ≤ clock.time) :
    OnTime service { info, reader, clock, startedAt, outlet := { bound } } := by
  refine .reading rfl ⟨?_, List.isChain_nil⟩ ?_ fun _ => ⟨rfl, past⟩
  · intro given member
    cases member
  · intro last isLast
    cases isLast

/-- The timeline that the observer of a request is shown: the request had been given to the
pipeline just after it was read, the pipeline left it as `after`, and then it was answered. -/
structure Shown (given after told : Context) (init last : StageRecord) : Prop where
  fresh : given.timeline.Fresh init
  records : ∃ between, told.timeline.records = init :: (between ++ [last])
  name : last.name = Timeline.writeStage
  past : last.finish ≤ told.timeline.clock.time
  current : told.timeline.current = none
  finished : told.timeline.isFinished = true
  measured : told.timeline.Measured
  /-- What the pipeline had done up to any moment is still there. -/
  grows : ∀ taken, after.timeline = given.timeline.follow taken → ∀ front, front <+: taken →
    (given.timeline.follow front).Grows told.timeline
  ordered : ∀ taken, after.timeline = given.timeline.follow taken →
    (∀ step ∈ taken, step.isLive = true) →
      told.timeline.records.Pairwise fun earlier next => earlier.finish ≤ next.start

theorem shown_of_fresh {given after told : Context} {init : StageRecord}
    (keeps : given.KeepsTimeline after) (fresh : given.timeline.Fresh init)
    (written : told.timeline = after.timeline.written) :
    ∃ last, Shown given after told init last := by
  obtain ⟨taken, same⟩ := keeps
  obtain ⟨idle, last, isLast, past, records⟩ := after.timeline.written_eq
  have grown : given.timeline.Grows after.timeline.finishStage := by
    rw [same]
    exact (Timeline.grows_follow _ taken).trans (Timeline.grows_finishStage _)
  obtain ⟨between, behind⟩ := grown.records
  rw [fresh.records, List.singleton_append] at behind
  refine ⟨last, fresh, ⟨between, ?_⟩, isLast, ?_, ?_, ?_, ?_, ?_, ?_⟩
  · rw [written, records, ← behind, List.cons_append]
  · rw [written]
    exact past
  · rw [written]
    exact idle
  · rw [written]
    exact Timeline.isFinished_finish _
  · rw [written, same]
    exact (fresh.measured.follow taken).written
  · intro takenToo sameToo front ⟨rest, split⟩
    rw [written, sameToo, ← split, Timeline.follow_append]
    exact (Timeline.grows_follow _ rest).trans (Timeline.grows_written _)
  · intro takenToo sameToo live
    rw [written, sameToo]
    exact (fresh.ordered.follow live).written.records

/-- Whatever a peer sends, and whatever the pipeline does with timelines: at every moment, each
request that the observer has been told of has a record of how it was read, then what the pipeline
has left, then a record of how it was answered. No stage is open, none ends before it starts, and
nothing that was there before has changed. Without records of the pipeline's own measuring the
stages follow each other. The request after it began when it had been answered. -/
theorem runUpTo_shows_stages {service : Service} (keeps : service.pipeline.KeepsTimelines)
    (info : ConnectionInfo) (reader : Reader) {clock : Clock} {startedAt : Instant}
    (bound : Option WriteBound) (past : startedAt ≤ clock.time) (steps : Nat) :
    let start : Connection := { info, reader, clock, startedAt, outlet := { bound } }
    let current := runUpTo service steps start
    (∀ (timeline : Timeline) (step : TimelineStep), timeline.Grows (timeline.take step)) ∧
      ∀ (index : Nat) (told : Context), current.completed[index]? = some told →
        ∃ given answer after init last, current.submitted[index]? = some given ∧
          service.pipeline.execute given = .ok (answer, after) ∧
          Shown given after told init last ∧
          ∀ next, current.submitted[index + 1]? = some next →
            ∃ initNext, next.timeline.Fresh initNext ∧ last.finish ≤ initNext.start := by
  intro start current
  refine ⟨Timeline.grows_take, ?_⟩
  intro index told isTold
  obtain ⟨served, later, submitted, reports⟩ :=
    (progress_runUpTo steps (progress_start service info reader clock startedAt bound)).told
  have chronicle : Chronicle service current.submitted :=
    (onTime_runUpTo steps (onTime_start service info reader bound past)).chronicle
  have reported : (current.completed.map some)[index]? = some (some told) := by
    rw [List.getElem?_map, isTold]
    rfl
  rw [show current.completed.map some = _ from reports] at reported
  split at reported
  · rw [List.getElem?_map] at reported
    obtain ⟨given, isServed, report⟩ := Option.map_eq_some_iff.mp reported
    have isGiven : current.submitted[index]? = some given := by
      rw [show current.submitted = _ from submitted]
      exact (List.getElem?_append_left (List.getElem?_eq_some_iff.mp isServed).1).trans isServed
    obtain ⟨init, fresh⟩ := chronicle.fresh given (List.mem_of_getElem? isGiven)
    have reportToo := report
    obtain ⟨⟨response, after⟩, answered, rfl⟩ := Option.map_eq_some_iff.mp reportToo
    obtain ⟨answer, executed⟩ : ∃ answer, service.pipeline.execute given = .ok (answer, after) := by
      rw [Service.answer?] at answered
      cases outcome : service.pipeline.execute given with
      | error fault =>
          simp [outcome] at answered
      | ok result =>
          obtain ⟨answer, left⟩ := result
          simp only [outcome, Option.some.injEq, Prod.mk.injEq] at answered
          exact ⟨answer, by rw [answered.2]⟩
    have written : (after.startStage Timeline.writeStage).discardBody.finish.timeline =
        after.timeline.written := rfl
    obtain ⟨last, shown⟩ := shown_of_fresh (keeps given answer after executed) fresh written
    refine ⟨given, answer, after, init, last, isGiven, executed, shown, ?_⟩
    intro next isNext
    obtain ⟨initNext, freshNext⟩ := chronicle.fresh next (List.mem_of_getElem? isNext)
    obtain ⟨insideNext, rfl⟩ := List.getElem?_eq_some_iff.mp isNext
    obtain ⟨inside, rfl⟩ := List.getElem?_eq_some_iff.mp isGiven
    have done := chronicle.order.getElem index insideNext initNext freshNext _ report
    exact ⟨initNext, freshNext, Nat.le_trans shown.past done⟩
  · cases reported

/-- Two requests on one connection. A first filter leaves a stage open, a second one records a stage
of its own measuring that ends before it starts and marks the request as complete. -/
theorem runUpTo_shows_stages_of_early_finish :
    let opens : RequestFilter :=
      { name := "auth", run := fun context => .ok (none, context.startStage "lookup") }
    let measures : RequestFilter :=
      { name := "router"
        run := fun context =>
          .ok (some { },
            (context.onTimeline fun timeline => timeline.append "skewed" 900 20).finish) }
    let stages : StagePipeline :=
      { requestFilters := [opens, measures], observer := some Observer.stageMetrics }
    let service : Service := { pipeline := stages.toPipeline }
    let request := Bytes.ascii "GET / HTTP/1.1\r\nConnection: keep-alive\r\n\r\n"
    let reader : Reader :=
      { buffer := { data := [], capacity := 64 }, stream := [.octets (request ++ request)] }
    let address : SocketAddress := .short ⟨127, 0, 0, 1⟩ 8080
    let info : ConnectionInfo := { id := ⟨1⟩, peer := address, listener := address }
    let clock : Clock := { time := 5, passing := fun reading => reading % 3 }
    let start : Connection := { info, reader, clock, startedAt := 2 }
    let current := runUpTo service 6 start
    current.completed.map (fun told => told.timeline.stageNames) =
        List.replicate 2
          [Timeline.initStage, "auth", "lookup", "router", "skewed", Timeline.writeStage] ∧
      ∃ told given next init last initNext, current.completed[0]? = some told ∧
        Shown given next told init last ∧ last.finish ≤ initNext.start ∧
        (current.submitted.map fun given => given.timeline.records)[1]? = some [initNext] := by
  intro opens measures stages service request reader address info clock start current
  have keeps : service.pipeline.KeepsTimelines := by
    apply StagePipeline.keepsTimelines_toPipeline
    · intro filter member given answer after ran
      rcases List.mem_cons.mp member with rfl | member
      · cases ran
        exact given.keepsTimeline_startStage "lookup"
      · rw [List.mem_singleton.mp member] at ran
        cases ran
        exact ⟨[.append "skewed" 900 20, .finish], rfl⟩
    · intro filter member
      cases member
  have past : 2 ≤ clock.time := by decide
  have names : current.completed.map (fun told => told.timeline.stageNames) =
      List.replicate 2
        [Timeline.initStage, "auth", "lookup", "router", "skewed", Timeline.writeStage] := by
    decide +kernel
  have two : current.completed.length = 2 ∧ current.submitted.length = 2 := by decide +kernel
  have isTold : current.completed[0]? = some current.completed[0] :=
    List.getElem?_eq_getElem (by omega)
  have isNext : current.submitted[1]? = some current.submitted[1] :=
    List.getElem?_eq_getElem (by omega)
  obtain ⟨-, shows⟩ := runUpTo_shows_stages keeps info reader none past 6
  obtain ⟨given, answer, after, init, last, -, -, shown, follows⟩ := shows 0 _ isTold
  obtain ⟨initNext, fresh, behind⟩ := follows _ isNext
  refine ⟨names, _, given, after, init, last, initNext, isTold, shown, behind, ?_⟩
  rw [List.getElem?_map, isNext, Option.map_some, fresh.records]

end Connection

end HttpServer
