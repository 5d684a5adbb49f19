import HttpServer.Proofs.Spelling
import HttpServer.Proofs.StageRecords

/-!
# What a pipeline of stages runs

A pipeline of stages asks its request filters one after the other, each on the context that the one
before has left, up to the first that answers. Then, and only then, every response filter changes
the answer in turn. `Executes` says so without reference to how a pipeline runs, with the contexts
that each filter was given and has left.

Filters may change anything in a context, and may start and end stages of their own. Since each is
run as a stage that is ended behind it, none finds the stage of another open. So the records that a
pipeline leaves come in groups, one for each filter that was run: first its own, then those of the
stages that it has started or measured itself.
-/

namespace HttpServer

/-! ## What is recorded -/

/-- Whether a step leaves a record of its own, at once or when a later step ends what it started. -/
def TimelineStep.isRecorded : TimelineStep → Bool
  | .append _ _ _ | .start _ => true
  | .finishStage | .finish | .wait _ => false

/-- The record that a step leaves. A stage measured by the filter is recorded as it was measured;
one that was started has been timed by the clock. -/
inductive TimelineStep.Leaves : TimelineStep → StageRecord → Prop
  | append {name : String} {start finish : Instant} :
      Leaves (.append name start finish) ⟨name, start, max finish start⟩
  | start {name : String} {start finish : Instant} (ends : start ≤ finish) :
      Leaves (.start name) ⟨name, start, finish⟩

namespace Timeline

variable {timeline : Timeline} {earlier : List StageRecord} {steps : List TimelineStep}

/-- Behind earlier records, the timeline has exactly those that the steps leave. -/
def Adds (timeline : Timeline) (earlier : List StageRecord) (steps : List TimelineStep) : Prop :=
  ∃ new, timeline.records = earlier ++ new ∧ List.Forall₂ TimelineStep.Leaves steps new

/-- The timeline after steps that leave records. The record of the last one may still be missing,
when the stage that it started is still open. -/
inductive Holds (earlier : List StageRecord) : List TimelineStep → Timeline → Prop
  | idle {timeline : Timeline} {steps : List TimelineStep} (quiet : timeline.current = none)
      (adds : timeline.Adds earlier steps) : Holds earlier steps timeline
  | running {timeline : Timeline} {steps : List TimelineStep} {stage : OpenStage}
      (isRunning : timeline.current = some stage) (adds : timeline.Adds earlier steps) :
      Holds earlier (steps ++ [.start stage.name]) timeline

theorem current_finishStage (timeline : Timeline) : timeline.finishStage.current = none := by
  cases running : timeline.current with
  | none =>
      rw [finishStage_of_none running]
      exact running
  | some stage =>
      rw [finishStage_of_some running]

theorem Adds.concat {record : StageRecord} {step : TimelineStep} (adds : timeline.Adds earlier steps)
    (leaves : step.Leaves record) :
    Adds { timeline with records := timeline.records ++ [record] } earlier (steps ++ [step]) := by
  obtain ⟨new, records, left⟩ := adds
  refine ⟨new ++ [record], ?_, List.rel_append left (.cons leaves .nil)⟩
  rw [records, List.append_assoc]

theorem Holds.adds_finishStage (holds : Holds earlier steps timeline) :
    timeline.finishStage.Adds earlier steps := by
  cases holds with
  | idle quiet adds =>
      rw [finishStage_of_none quiet]
      exact adds
  | running isRunning adds =>
      rw [finishStage_of_some isRunning]
      exact adds.concat (.start (Nat.le_max_right _ _))

theorem Holds.take (holds : Holds earlier steps timeline) (step : TimelineStep) :
    Holds earlier (steps ++ [step].filter TimelineStep.isRecorded) (timeline.take step) := by
  have ended := holds.adds_finishStage
  have quiet := timeline.current_finishStage
  cases step with
  | append name start finish =>
      exact .idle quiet (ended.concat .append)
  | start name =>
      have isRunning : (timeline.start name).current =
          some ⟨name, timeline.finishStage.clock.tick.time⟩ := rfl
      exact .running isRunning ended
  | finishStage =>
      change Holds earlier (steps ++ []) timeline.finishStage
      rw [List.append_nil]
      exact .idle quiet ended
  | finish =>
      obtain ⟨clock, finishedAt, same, -, -⟩ := finish_eq timeline
      change Holds earlier (steps ++ []) timeline.finish
      rw [List.append_nil, same]
      exact .idle quiet ended
  | wait duration =>
      -- only the clock changes, whether a stage is open or not
      change Holds earlier (steps ++ []) _
      rw [List.append_nil]
      cases holds with
      | idle quiet adds =>
          exact .idle quiet adds
      | running isRunning adds =>
          exact .running isRunning adds

theorem Holds.follow (holds : Holds earlier steps timeline) (taken : List TimelineStep) :
    Holds earlier (steps ++ taken.filter TimelineStep.isRecorded) (timeline.follow taken) := by
  induction taken generalizing timeline steps with
  | nil =>
      rw [List.filter_nil, List.append_nil]
      exact holds
  | cons step later inductionHypothesis =>
      have next := inductionHypothesis (holds.take step)
      rwa [List.append_assoc, ← List.filter_append] at next

/-- What is done to a timeline without an open stage, and leaves none open, is on record behind what
was there before. -/
theorem adds_follow (idle : timeline.current = none) {taken : List TimelineStep}
    (ended : (timeline.follow taken).current = none) :
    (timeline.follow taken).Adds timeline.records (taken.filter TimelineStep.isRecorded) := by
  have start : Holds timeline.records [] timeline :=
    .idle idle ⟨[], (List.append_nil _).symm, .nil⟩
  have adds := (start.follow taken).adds_finishStage
  rwa [finishStage_of_none ended] at adds

end Timeline

namespace StagePipeline

/-! ## Visits -/

/-- A filter that was run: its name, the context that it was given and how it has left it. -/
structure Visit where
  name : String
  entered : Context
  left : Context

/-- The stage of a filter has just been started in the context that the filter is given. -/
def Visit.of (name : String) (given left : Context) : Visit :=
  ⟨name, given.startStage name, left⟩

/-- What the filter did with the timeline. -/
def Visit.Takes (visit : Visit) (taken : List TimelineStep) : Prop :=
  visit.left.timeline = visit.entered.timeline.follow taken

/-- The steps that leave records when a filter is run, that of its own stage in front. -/
def Visit.recorded (visit : Visit) (taken : List TimelineStep) : List TimelineStep :=
  .start visit.name :: taken.filter TimelineStep.isRecorded

theorem filter_isRecorded_visit (name : String) (taken : List TimelineStep) :
    (TimelineStep.start name :: taken ++ [TimelineStep.finishStage]).filter TimelineStep.isRecorded =
      .start name :: taken.filter TimelineStep.isRecorded := by
  rw [List.filter_append, List.filter_cons_of_pos rfl]
  exact List.append_nil _

/-- Each filter finds the context as the one before has left it, with its stage ended. -/
inductive Chained : Context → List Visit → Context → Prop
  | done {context : Context} : Chained context [] context
  | visit {name : String} {given left after : Context} {visits : List Visit}
      (rest : Chained left.finishStage visits after) :
      Chained given (.of name given left :: visits) after

variable {pipeline : StagePipeline} {given reached left after : Context}
  {visits later : List Visit}

theorem Chained.append (first : Chained given visits reached)
    (second : Chained reached later after) : Chained given (visits ++ later) after := by
  induction first with
  | done =>
      exact second
  | visit rest inductionHypothesis =>
      exact .visit (inductionHypothesis second)

theorem Chained.idle (chained : Chained given visits after)
    (idle : given.timeline.current = none) : after.timeline.current = none := by
  induction chained with
  | done =>
      exact idle
  | visit rest inductionHypothesis =>
      exact inductionHypothesis (Timeline.current_finishStage _)

theorem Chained.exists_follow (chained : Chained given visits after)
    {bodies : List (List TimelineStep)} (takes : List.Forall₂ Visit.Takes visits bodies) :
    ∃ taken, after.timeline = given.timeline.follow taken ∧
      taken.filter TimelineStep.isRecorded =
        (List.zipWith Visit.recorded visits bodies).flatten := by
  induction chained generalizing bodies with
  | done =>
      cases takes
      exact ⟨[], rfl, rfl⟩
  | @visit name given left after visits rest inductionHypothesis =>
      cases takes with
      | @cons _ body _ bodies took takes =>
          obtain ⟨taken, follows, recorded⟩ := inductionHypothesis takes
          have ended : left.finishStage.timeline =
              given.timeline.follow (.start name :: body ++ [.finishStage]) := by
            rw [Timeline.follow_append]
            exact congrArg Timeline.finishStage took
          refine ⟨(.start name :: body ++ [.finishStage]) ++ taken, ?_, ?_⟩
          · rw [follows, ended]
            exact (Timeline.follow_append _ _ _).symm
          · rw [List.zipWith_cons_cons, List.flatten_cons, ← recorded, List.filter_append]
            exact congrArg (· ++ _) (filter_isRecorded_visit name body)

theorem Chained.adds (chained : Chained given visits after)
    (idle : given.timeline.current = none) {bodies : List (List TimelineStep)}
    (takes : List.Forall₂ Visit.Takes visits bodies) :
    after.timeline.Adds given.timeline.records
      (List.zipWith Visit.recorded visits bodies).flatten := by
  obtain ⟨taken, follows, recorded⟩ := chained.exists_follow takes
  have ended := chained.idle idle
  rw [follows] at ended
  rw [follows, ← recorded]
  exact Timeline.adds_follow idle ended

/-! ## Request filters -/

/-- Request filters that are run one after the other, none of which answers. -/
inductive Passes : List RequestFilter → Context → List Visit → Context → Prop
  | done {context : Context} : Passes [] context [] context
  | pass {filter : RequestFilter} {filters : List RequestFilter} {given left after : Context}
      {visits : List Visit}
      (ran : filter.run (given.startStage filter.name) = .ok (none, left))
      (rest : Passes filters left.finishStage visits after) :
      Passes (filter :: filters) given (.of filter.name given left :: visits) after

/-- What becomes of a request that is submitted to request filters, with the filters that were run
and have left a context. -/
inductive Asks (filters : List RequestFilter) (given : Context) : List Visit → Answered → Prop
  /-- None answers. -/
  | unanswered {visits : List Visit} {after : Context}
      (passes : Passes filters given visits after) : Asks filters given visits (.ok (none, after))
  /-- One answers, and none is run behind it. -/
  | answered {front rest : List RequestFilter} {filter : RequestFilter} {visits : List Visit}
      {reached left : Context} {response : Response} (split : filters = front ++ filter :: rest)
      (passes : Passes front given visits reached)
      (ran : filter.run (reached.startStage filter.name) = .ok (some response, left)) :
      Asks filters given (visits ++ [.of filter.name reached left])
        (.ok (some response, left.finishStage))
  /-- One fails, and none is run behind it. -/
  | failed {front rest : List RequestFilter} {filter : RequestFilter} {visits : List Visit}
      {reached : Context} {fault : Fault} (split : filters = front ++ filter :: rest)
      (passes : Passes front given visits reached)
      (ran : filter.run (reached.startStage filter.name) = .error fault) :
      Asks filters given visits (.error fault)

theorem Passes.runRequestFilters {front rest : List RequestFilter}
    (passes : Passes front given visits reached) :
    runRequestFilters (front ++ rest) given = runRequestFilters rest reached := by
  induction passes with
  | done =>
      rfl
  | pass ran passes inductionHypothesis =>
      rw [← inductionHypothesis, List.cons_append, StagePipeline.runRequestFilters, ran]
      rfl

theorem Passes.chained {filters : List RequestFilter} (passes : Passes filters given visits after) :
    Chained given visits after := by
  induction passes with
  | done =>
      exact .done
  | pass ran passes inductionHypothesis =>
      exact .visit inductionHypothesis

theorem Asks.runRequestFilters {filters : List RequestFilter} {outcome : Answered}
    (asks : Asks filters given visits outcome) : runRequestFilters filters given = outcome := by
  cases asks with
  | unanswered passes =>
      rw [← List.append_nil filters, passes.runRequestFilters]
      rfl
  | answered split passes ran =>
      rw [split, passes.runRequestFilters, StagePipeline.runRequestFilters, ran]
      rfl
  | failed split passes ran =>
      rw [split, passes.runRequestFilters, StagePipeline.runRequestFilters, ran]
      rfl

theorem Asks.chained {filters : List RequestFilter} {answer : Option Response}
    (asks : Asks filters given visits (.ok (answer, after))) : Chained given visits after := by
  cases asks with
  | unanswered passes =>
      exact passes.chained
  | answered split passes ran =>
      exact passes.chained.append (.visit .done)

/-- Filters that keep timelines have done something with the timeline that timelines offer. -/
theorem Passes.exists_takes {filters : List RequestFilter}
    (passes : Passes filters given visits after)
    (keeps : ∀ filter ∈ filters, filter.KeepsTimelines) :
    ∃ bodies, List.Forall₂ Visit.Takes visits bodies := by
  induction passes with
  | done =>
      exact ⟨[], .nil⟩
  | pass ran passes inductionHypothesis =>
      obtain ⟨body, took⟩ := keeps _ List.mem_cons_self _ _ _ ran
      obtain ⟨bodies, takes⟩ :=
        inductionHypothesis fun filter member => keeps filter (List.mem_cons_of_mem _ member)
      exact ⟨body :: bodies, .cons took takes⟩

theorem Asks.exists_takes {filters : List RequestFilter} {answer : Option Response}
    (asks : Asks filters given visits (.ok (answer, after)))
    (keeps : ∀ filter ∈ filters, filter.KeepsTimelines) :
    ∃ bodies, List.Forall₂ Visit.Takes visits bodies := by
  cases asks with
  | unanswered passes =>
      exact passes.exists_takes keeps
  | answered split passes ran =>
      rw [split] at keeps
      obtain ⟨bodies, takes⟩ :=
        passes.exists_takes fun filter member => keeps filter (List.mem_append_left _ member)
      obtain ⟨body, took⟩ :=
        keeps _ (List.mem_append_right _ List.mem_cons_self) _ _ _ ran
      exact ⟨bodies ++ [body], List.rel_append takes (.cons took .nil)⟩

theorem Asks.cons {filter : RequestFilter} {filters : List RequestFilter} {outcome : Answered}
    (ran : filter.run (given.startStage filter.name) = .ok (none, left))
    (asks : Asks filters left.finishStage visits outcome) :
    Asks (filter :: filters) given (.of filter.name given left :: visits) outcome := by
  cases asks with
  | unanswered passes =>
      exact .unanswered (.pass ran passes)
  | answered split passes ranToo =>
      exact .answered (congrArg (filter :: ·) split) (.pass ran passes) ranToo
  | failed split passes ranToo =>
      exact .failed (congrArg (filter :: ·) split) (.pass ran passes) ranToo

theorem exists_asks (filters : List RequestFilter) (given : Context) :
    ∃ visits, Asks filters given visits (runRequestFilters filters given) := by
  induction filters generalizing given with
  | nil =>
      exact ⟨[], .unanswered .done⟩
  | cons filter rest inductionHypothesis =>
      have first : filter :: rest = [] ++ filter :: rest := rfl
      rw [runRequestFilters]
      cases ran : filter.run (given.startStage filter.name) with
      | error fault =>
          exact ⟨[], .failed first .done ran⟩
      | ok result =>
          obtain ⟨_ | response, left⟩ := result
          · obtain ⟨visits, asks⟩ := inductionHypothesis left.finishStage
            exact ⟨_, asks.cons ran⟩
          · exact ⟨_, .answered first .done ran⟩

/-! ## Response filters -/

/-- Response filters that are run one after the other, each on the response that the one before has
left. -/
inductive Rewrites : List ResponseFilter → Response → Context → List Visit → Response → Context →
    Prop
  | done {response : Response} {context : Context} :
      Rewrites [] response context [] response context
  | rewrite {filter : ResponseFilter} {filters : List ResponseFilter}
      {response changed final : Response} {given left after : Context} {visits : List Visit}
      (ran : filter.run (given.startStage filter.name) response = .ok (changed, left))
      (rest : Rewrites filters changed left.finishStage visits final after) :
      Rewrites (filter :: filters) response given (.of filter.name given left :: visits) final after

/-- What becomes of a response that is given to response filters. -/
inductive Changes (filters : List ResponseFilter) (response : Response) (given : Context) :
    List Visit → Except Fault (Response × Context) → Prop
  /-- All are run. -/
  | changed {visits : List Visit} {final : Response} {after : Context}
      (rewrites : Rewrites filters response given visits final after) :
      Changes filters response given visits (.ok (final, after))
  /-- One fails, and none is run behind it. -/
  | failed {front rest : List ResponseFilter} {filter : ResponseFilter} {visits : List Visit}
      {reached : Context} {changed : Response} {fault : Fault}
      (split : filters = front ++ filter :: rest)
      (rewrites : Rewrites front response given visits changed reached)
      (ran : filter.run (reached.startStage filter.name) changed = .error fault) :
      Changes filters response given visits (.error fault)

theorem Rewrites.runResponseFilters {front rest : List ResponseFilter}
    {response changed : Response}
    (rewrites : Rewrites front response given visits changed reached) :
    runResponseFilters (front ++ rest) response given =
      runResponseFilters rest changed reached := by
  induction rewrites with
  | done =>
      rfl
  | rewrite ran rewrites inductionHypothesis =>
      rw [← inductionHypothesis, List.cons_append, StagePipeline.runResponseFilters, ran]
      rfl

theorem Rewrites.chained {filters : List ResponseFilter} {response final : Response}
    (rewrites : Rewrites filters response given visits final after) :
    Chained given visits after := by
  induction rewrites with
  | done =>
      exact .done
  | rewrite ran rewrites inductionHypothesis =>
      exact .visit inductionHypothesis

theorem Changes.runResponseFilters {filters : List ResponseFilter} {response : Response}
    {outcome : Except Fault (Response × Context)}
    (changes : Changes filters response given visits outcome) :
    runResponseFilters filters response given = outcome := by
  cases changes with
  | changed rewrites =>
      rw [← List.append_nil filters, rewrites.runResponseFilters]
      rfl
  | failed split rewrites ran =>
      rw [split, rewrites.runResponseFilters, StagePipeline.runResponseFilters, ran]
      rfl

theorem Rewrites.exists_takes {filters : List ResponseFilter} {response final : Response}
    (rewrites : Rewrites filters response given visits final after)
    (keeps : ∀ filter ∈ filters, filter.KeepsTimelines) :
    ∃ bodies, List.Forall₂ Visit.Takes visits bodies := by
  induction rewrites with
  | done =>
      exact ⟨[], .nil⟩
  | rewrite ran rewrites inductionHypothesis =>
      obtain ⟨body, took⟩ := keeps _ List.mem_cons_self _ _ _ _ ran
      obtain ⟨bodies, takes⟩ :=
        inductionHypothesis fun filter member => keeps filter (List.mem_cons_of_mem _ member)
      exact ⟨body :: bodies, .cons took takes⟩

theorem Changes.cons {filter : ResponseFilter} {filters : List ResponseFilter}
    {response changed : Response} {outcome : Except Fault (Response × Context)}
    (ran : filter.run (given.startStage filter.name) response = .ok (changed, left))
    (changes : Changes filters changed left.finishStage visits outcome) :
    Changes (filter :: filters) response given (.of filter.name given left :: visits) outcome := by
  cases changes with
  | changed rewrites =>
      exact .changed (.rewrite ran rewrites)
  | failed split rewrites ranToo =>
      exact .failed (congrArg (filter :: ·) split) (.rewrite ran rewrites) ranToo

theorem Changes.chained {filters : List ResponseFilter} {response final : Response}
    (changes : Changes filters response given visits (.ok (final, after))) :
    Chained given visits after := by
  cases changes with
  | changed rewrites =>
      exact rewrites.chained

theorem exists_changes (filters : List ResponseFilter) (response : Response) (given : Context) :
    ∃ visits, Changes filters response given visits
      (runResponseFilters filters response given) := by
  induction filters generalizing response given with
  | nil =>
      exact ⟨[], .changed .done⟩
  | cons filter rest inductionHypothesis =>
      have first : filter :: rest = [] ++ filter :: rest := rfl
      rw [runResponseFilters]
      cases ran : filter.run (given.startStage filter.name) response with
      | error fault =>
          exact ⟨[], .failed first .done ran⟩
      | ok result =>
          obtain ⟨changed, left⟩ := result
          obtain ⟨visits, changes⟩ := inductionHypothesis changed left.finishStage
          exact ⟨_, changes.cons ran⟩

/-! ## Pipelines -/

/-- What becomes of a request that is submitted to a pipeline of stages, with the filters that were
run and have left a context. -/
inductive Executes (pipeline : StagePipeline) (given : Context) : List Visit → Answered → Prop
  | unanswered {visits : List Visit} {after : Context}
      (asks : Asks pipeline.requestFilters given visits (.ok (none, after))) :
      Executes pipeline given visits (.ok (none, after))
  | answered {visits later : List Visit} {reached after : Context} {response final : Response}
      (asks : Asks pipeline.requestFilters given visits (.ok (some response, reached)))
      (changes : Changes pipeline.responseFilters response reached later (.ok (final, after))) :
      Executes pipeline given (visits ++ later) (.ok (some final, after))
  | requestFailed {visits : List Visit} {fault : Fault}
      (asks : Asks pipeline.requestFilters given visits (.error fault)) :
      Executes pipeline given visits (.error fault)
  | responseFailed {visits later : List Visit} {reached : Context} {response : Response}
      {fault : Fault}
      (asks : Asks pipeline.requestFilters given visits (.ok (some response, reached)))
      (changes : Changes pipeline.responseFilters response reached later (.error fault)) :
      Executes pipeline given (visits ++ later) (.error fault)

theorem Executes.execute {outcome : Answered} (executes : pipeline.Executes given visits outcome) :
    pipeline.execute given = outcome := by
  cases executes with
  | unanswered asks | requestFailed asks =>
      rw [StagePipeline.execute, asks.runRequestFilters]
      rfl
  | answered asks changes | responseFailed asks changes =>
      rw [StagePipeline.execute, asks.runRequestFilters]
      simp only [bind, Except.bind, changes.runResponseFilters]

theorem exists_executes (pipeline : StagePipeline) (given : Context) :
    ∃ visits, pipeline.Executes given visits (pipeline.execute given) := by
  obtain ⟨visits, asks⟩ := exists_asks pipeline.requestFilters given
  rw [execute]
  cases asked : runRequestFilters pipeline.requestFilters given with
  | error fault =>
      rw [asked] at asks
      exact ⟨visits, .requestFailed asks⟩
  | ok result =>
      rw [asked] at asks
      obtain ⟨_ | response, reached⟩ := result
      · exact ⟨visits, .unanswered asks⟩
      · obtain ⟨later, changes⟩ := exists_changes pipeline.responseFilters response reached
        simp only [bind, Except.bind]
        cases changed : runResponseFilters pipeline.responseFilters response reached with
        | error fault =>
            rw [changed] at changes
            exact ⟨visits ++ later, .responseFailed asks changes⟩
        | ok result =>
            rw [changed] at changes
            exact ⟨visits ++ later, .answered asks changes⟩

theorem execute_eq_iff_executes {outcome : Answered} :
    pipeline.execute given = outcome ↔ ∃ visits, pipeline.Executes given visits outcome := by
  constructor
  · rintro rfl
    exact exists_executes pipeline given
  · rintro ⟨visits, executes⟩
    exact executes.execute

theorem Executes.chained {answer : Option Response}
    (executes : pipeline.Executes given visits (.ok (answer, after))) :
    Chained given visits after := by
  cases executes with
  | unanswered asks =>
      exact asks.chained
  | answered asks changes =>
      exact asks.chained.append changes.chained

theorem Executes.exists_takes {answer : Option Response}
    (executes : pipeline.Executes given visits (.ok (answer, after)))
    (keepsRequests : ∀ filter ∈ pipeline.requestFilters, filter.KeepsTimelines)
    (keepsResponses : ∀ filter ∈ pipeline.responseFilters, filter.KeepsTimelines) :
    ∃ bodies, List.Forall₂ Visit.Takes visits bodies := by
  cases executes with
  | unanswered asks =>
      exact asks.exists_takes keepsRequests
  | answered asks changes =>
      obtain ⟨bodies, takes⟩ := asks.exists_takes keepsRequests
      cases changes with
      | changed rewrites =>
          obtain ⟨behind, takesToo⟩ := rewrites.exists_takes keepsResponses
          exact ⟨bodies ++ behind, List.rel_append takes takesToo⟩

/-! ## Filters that return -/

/-- Every filter of the pipeline gives a result, whatever it is given. -/
structure FiltersReturn (pipeline : StagePipeline) : Prop where
  requests : ∀ filter ∈ pipeline.requestFilters, ∀ given fault, filter.run given ≠ .error fault
  responses : ∀ filter ∈ pipeline.responseFilters, ∀ given response fault,
    filter.run given response ≠ .error fault

/-- A pipeline fails only if one of its filters does. -/
theorem FiltersReturn.exists_execute (returns : pipeline.FiltersReturn) (given : Context) :
    ∃ answer after, pipeline.execute given = .ok (answer, after) := by
  cases executed : pipeline.execute given with
  | ok result =>
      exact ⟨result.1, result.2, rfl⟩
  | error fault =>
      exfalso
      obtain ⟨visits, executes⟩ := execute_eq_iff_executes.mp executed
      cases executes with
      | requestFailed asks =>
          cases asks with
          | failed split passes ran =>
              refine returns.requests _ ?_ _ _ ran
              rw [split]
              exact List.mem_append_right _ List.mem_cons_self
      | responseFailed asks changes =>
          cases changes with
          | failed split rewrites ran =>
              refine returns.responses _ ?_ _ _ _ ran
              rw [split]
              exact List.mem_append_right _ List.mem_cons_self

/-! ## Filters in two parts -/

theorem runRequestFilters_append (front rest : List RequestFilter) (given : Context) :
    runRequestFilters (front ++ rest) given =
      (runRequestFilters front given >>= fun
        | (some response, after) => .ok (some response, after)
        | (none, after) => runRequestFilters rest after) := by
  obtain ⟨visits, asks⟩ := exists_asks front given
  cases asked : runRequestFilters front given with
  | error fault =>
      rw [asked] at asks
      cases asks with
      | failed split passes ran =>
          rw [split, List.append_assoc, passes.runRequestFilters, List.cons_append,
            runRequestFilters, ran]
          rfl
  | ok result =>
      rw [asked] at asks
      cases asks with
      | unanswered passes =>
          exact passes.runRequestFilters
      | answered split passes ran =>
          rw [split, List.append_assoc, passes.runRequestFilters, List.cons_append,
            runRequestFilters, ran]
          rfl

theorem runResponseFilters_append (front rest : List ResponseFilter) (response : Response)
    (given : Context) :
    runResponseFilters (front ++ rest) response given =
      (runResponseFilters front response given >>= fun (changed, after) =>
        runResponseFilters rest changed after) := by
  obtain ⟨visits, changes⟩ := exists_changes front response given
  cases changed : runResponseFilters front response given with
  | error fault =>
      rw [changed] at changes
      cases changes with
      | failed split rewrites ran =>
          rw [split, List.append_assoc, rewrites.runResponseFilters, List.cons_append,
            runResponseFilters, ran]
          rfl
  | ok result =>
      rw [changed] at changes
      cases changes with
      | changed rewrites =>
          exact rewrites.runResponseFilters

/-- Request filters in two parts: the second part is a pipeline for what the first has not
answered. -/
theorem execute_of_requestFilters {front rest : List RequestFilter}
    (split : pipeline.requestFilters = front ++ rest) (given : Context) :
    pipeline.execute given =
      ({ pipeline with requestFilters := front }.execute given >>= fun
        | (some response, after) => .ok (some response, after)
        | (none, after) => { pipeline with requestFilters := rest }.execute after) := by
  simp only [execute, split, runRequestFilters_append, bind_assoc]
  congr 1
  funext result
  obtain ⟨_ | response, after⟩ := result
  · rfl
  · simp only [bind, Except.bind]
    cases runResponseFilters pipeline.responseFilters response after <;> rfl

/-- Response filters in two parts: the second part changes what the first has made of an answer. -/
theorem execute_of_responseFilters {front rest : List ResponseFilter}
    (split : pipeline.responseFilters = front ++ rest) (given : Context) :
    pipeline.execute given =
      ({ pipeline with responseFilters := front }.execute given >>= fun
        | (none, after) => .ok (none, after)
        | (some response, after) => do
          let (final, last) ← runResponseFilters rest response after
          .ok (some final, last)) := by
  simp only [execute, split, runResponseFilters_append, bind_assoc]
  congr 1
  funext result
  obtain ⟨_ | response, after⟩ := result
  · rfl
  · simp only [bind_assoc]
    congr 1

/-- A pipeline of stages, given a context without an open stage, executes as `Executes` says and
gives a result if its filters do. It leaves no stage open. The records it adds are those of the
filters that were run, in order: for each, one of its name, then those of the steps that the filter
took itself. Request filters in two parts are the first part and then, only if that has no answer,
the second; response filters in two parts are one part after the other. -/
theorem execute_runs_stages (pipeline : StagePipeline) {given : Context}
    (idle : given.timeline.current = none) :
    (∀ outcome, pipeline.execute given = outcome ↔
        ∃ visits, pipeline.Executes given visits outcome) ∧
      (pipeline.FiltersReturn → ∃ answer after, pipeline.execute given = .ok (answer, after)) ∧
      (∀ visits answer after, pipeline.Executes given visits (.ok (answer, after)) →
        after.timeline.current = none ∧
          ((∀ filter ∈ pipeline.requestFilters, filter.KeepsTimelines) →
            (∀ filter ∈ pipeline.responseFilters, filter.KeepsTimelines) →
              ∃ bodies, List.Forall₂ Visit.Takes visits bodies) ∧
          ∀ bodies, List.Forall₂ Visit.Takes visits bodies →
            after.timeline.Adds given.timeline.records
              (List.zipWith Visit.recorded visits bodies).flatten) ∧
      (∀ front rest, pipeline.requestFilters = front ++ rest →
        pipeline.execute given =
          ({ pipeline with requestFilters := front }.execute given >>= fun
            | (some response, after) => .ok (some response, after)
            | (none, after) => { pipeline with requestFilters := rest }.execute after)) ∧
      ∀ front rest, pipeline.responseFilters = front ++ rest →
        pipeline.execute given =
          ({ pipeline with responseFilters := front }.execute given >>= fun
            | (none, after) => .ok (none, after)
            | (some response, after) => do
              let (final, last) ← runResponseFilters rest response after
              .ok (some final, last)) := by
  refine ⟨fun outcome => execute_eq_iff_executes, fun returns => returns.exists_execute given, ?_,
    fun front rest split => execute_of_requestFilters split given,
    fun front rest split => execute_of_responseFilters split given⟩
  intro visits answer after executes
  exact ⟨executes.chained.idle idle, executes.exists_takes,
    fun bodies takes => executes.chained.adds idle takes⟩

/-- The first filter leaves a stage open. The second ends its own stage early, records one that it
has measured and answers. The third would fail and is not run. The filter of the response starts a
stage and ends it. -/
theorem execute_runs_stages_of_open_stage :
    let opens : RequestFilter :=
      { name := "auth", run := fun context => .ok (none, context.startStage "lookup") }
    let answers : RequestFilter :=
      { name := "cache"
        run := fun context =>
          .ok (some { },
            context.finishStage.onTimeline fun timeline => timeline.append "disk" 900 20) }
    let fails : RequestFilter := { name := "router", run := fun _ => .error .stage }
    let signs : ResponseFilter :=
      { name := "sign"
        run := fun context response =>
          .ok ({ response with status := .noContent },
            (context.startStage "digest").finishStage) }
    let pipeline : StagePipeline :=
      { requestFilters := [opens, answers, fails], responseFilters := [signs] }
    let address : SocketAddress := .short ⟨127, 0, 0, 1⟩ 8080
    let given : Context :=
      { request :=
          { method := Bytes.ascii "GET", target := .asterisk, version := .http11, fields := .empty
            body := [] }
        connection := { id := ⟨1⟩, peer := address, listener := address }
        sequence := 0
        timeline := { startedAt := 0, clock := { time := 5 } } }
    given.timeline.current = none ∧
      ∃ answer after visits, pipeline.execute given = .ok (some answer, after) ∧
        pipeline.Executes given visits (.ok (some answer, after)) ∧
        after.timeline.current = none ∧
        after.timeline.stageNames = ["auth", "lookup", "cache", "disk", "sign", "digest"] ∧
        after.timeline.Adds []
          [.start "auth", .start "lookup", .start "cache", .append "disk" 900 20, .start "sign",
            .start "digest"] := by
  intro opens answers fails signs pipeline address given
  have idle : given.timeline.current = none := rfl
  have asks : Asks [opens, answers, fails] given _ (.ok (some { }, _)) :=
    .answered (show _ = [opens] ++ answers :: [fails] from rfl) (.pass rfl .done) rfl
  have changes (reached : Context) : Changes [signs] { } reached _ (.ok (_, _)) :=
    .changed (.rewrite rfl .done)
  have executes : pipeline.Executes given _ (.ok (some _, _)) := .answered asks (changes _)
  obtain ⟨executed, -, leaves, -, -⟩ := execute_runs_stages pipeline idle
  obtain ⟨quiet, -, adds⟩ := leaves _ _ _ executes
  have added := adds
    [[.start "lookup"], [.finishStage, .append "disk" 900 20], [.start "digest", .finishStage]]
    (.cons rfl (.cons rfl (.cons rfl .nil)))
  exact ⟨idle, _, _, _, (executed _).mpr ⟨_, executes⟩, executes, quiet, by decide +kernel, added⟩

end StagePipeline

end HttpServer
