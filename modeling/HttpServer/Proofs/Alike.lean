import HttpServer.Crowd
import HttpServer.Proofs.Serving

/-!
# Connections that do the same

What a connection does depends on the octets of its peer and on what the pipeline makes of its
requests. A pipeline that looks at a request and its place on the connection alone makes the same
of both on every connection, at any time. So two connections that stand alike go on alike, whatever
their numbers are and whoever observes them.
-/

namespace HttpServer

/-! ## Contexts and pipelines -/

/-- The request and its place on its connection. -/
def Context.seen (context : Context) : Request × Nat := (context.request, context.sequence)

/-- The same request at the same place, on whatever connection and at whatever time. -/
def Context.Alike (context other : Context) : Prop := context.seen = other.seen

theorem Context.Alike.request {context other : Context} (alike : context.Alike other) :
    context.request = other.request :=
  congrArg Prod.fst alike

theorem Context.Alike.sequence {context other : Context} (alike : context.Alike other) :
    context.sequence = other.sequence :=
  congrArg Prod.snd alike

/-- Both outcomes are the same fault, or both are results that are alike. -/
inductive AlikeOutcomes {α : Type} (alike : α → α → Prop) : Except Fault α → Except Fault α → Prop
  | ok {first second : α} (same : alike first second) : AlikeOutcomes alike (.ok first) (.ok second)
  | error (fault : Fault) : AlikeOutcomes alike (.error fault) (.error fault)

theorem AlikeOutcomes.bind {α β : Type} {alike : α → α → Prop} {alikeThen : β → β → Prop}
    {first second : Except Fault α} {goOn goOnToo : α → Except Fault β}
    (outcomes : AlikeOutcomes alike first second)
    (behind : ∀ {item other : α}, alike item other →
      AlikeOutcomes alikeThen (goOn item) (goOnToo other)) :
    AlikeOutcomes alikeThen (first >>= goOn) (second >>= goOnToo) := by
  cases outcomes with
  | ok same =>
      exact behind same
  | error fault =>
      exact .error fault

/-- The same answer, and contexts that are alike. -/
def AlikeAnswers {α : Type} (first second : α × Context) : Prop :=
  first.1 = second.1 ∧ first.2.Alike second.2

/-- What the pipeline answers, and whether it fails, is a function of the request and its place on
the connection. -/
def Pipeline.IsPure (pipeline : Pipeline) : Prop :=
  ∀ ⦃context other : Context⦄, context.Alike other →
    AlikeOutcomes AlikeAnswers (pipeline.execute context) (pipeline.execute other)

/-- What the filter answers, and whether it fails, is a function of the request and its place on
the connection. -/
def RequestFilter.IsPure (filter : RequestFilter) : Prop :=
  ∀ ⦃context other : Context⦄, context.Alike other →
    AlikeOutcomes AlikeAnswers (filter.run context) (filter.run other)

/-- What the filter makes of a response, and whether it fails, is a function of the response, the
request and its place on the connection. -/
def ResponseFilter.IsPure (filter : ResponseFilter) : Prop :=
  ∀ ⦃context other : Context⦄, context.Alike other → ∀ response,
    AlikeOutcomes AlikeAnswers (filter.run context response) (filter.run other response)

namespace StagePipeline

variable {context other : Context}

theorem alike_runRequestFilters {filters : List RequestFilter}
    (pure : ∀ filter ∈ filters, filter.IsPure) (alike : context.Alike other) :
    AlikeOutcomes AlikeAnswers (runRequestFilters filters context)
      (runRequestFilters filters other) := by
  induction filters generalizing context other with
  | nil =>
      exact .ok ⟨rfl, alike⟩
  | cons filter rest inductionHypothesis =>
      -- the timeline is no part of what is seen
      have started : (context.startStage filter.name).Alike (other.startStage filter.name) := alike
      apply (pure filter List.mem_cons_self started).bind
      rintro ⟨answer, after⟩ ⟨answerToo, afterToo⟩ ⟨same, alikeAfter⟩
      cases same
      have finished : after.finishStage.Alike afterToo.finishStage := alikeAfter
      cases answer with
      | some response =>
          exact .ok ⟨rfl, finished⟩
      | none =>
          exact inductionHypothesis
            (fun filter member => pure filter (List.mem_cons_of_mem _ member)) finished

theorem alike_runResponseFilters {filters : List ResponseFilter} {response : Response}
    (pure : ∀ filter ∈ filters, filter.IsPure) (alike : context.Alike other) :
    AlikeOutcomes AlikeAnswers (runResponseFilters filters response context)
      (runResponseFilters filters response other) := by
  induction filters generalizing context other response with
  | nil =>
      exact .ok ⟨rfl, alike⟩
  | cons filter rest inductionHypothesis =>
      have started : (context.startStage filter.name).Alike (other.startStage filter.name) := alike
      apply (pure filter List.mem_cons_self started response).bind
      rintro ⟨answer, after⟩ ⟨answerToo, afterToo⟩ ⟨same, alikeAfter⟩
      cases same
      exact inductionHypothesis (fun filter member => pure filter (List.mem_cons_of_mem _ member))
        alikeAfter

/-- A pipeline of pure filters is pure. -/
theorem isPure_toPipeline {pipeline : StagePipeline}
    (pureRequests : ∀ filter ∈ pipeline.requestFilters, filter.IsPure)
    (pureResponses : ∀ filter ∈ pipeline.responseFilters, filter.IsPure) :
    pipeline.toPipeline.IsPure := by
  intro context other alike
  apply (alike_runRequestFilters pureRequests alike).bind
  rintro ⟨answer, after⟩ ⟨answerToo, afterToo⟩ ⟨same, alikeAfter⟩
  cases same
  cases answer with
  | none =>
      exact .ok ⟨rfl, alikeAfter⟩
  | some response =>
      apply (alike_runResponseFilters pureResponses alikeAfter).bind
      rintro ⟨final, last⟩ ⟨finalToo, lastToo⟩ ⟨sameFinal, alikeLast⟩
      cases sameFinal
      exact .ok ⟨rfl, alikeLast⟩

end StagePipeline

/-! ## Services -/

/-- Two services that differ at most in how requests are observed and logged: what the observers do
does not matter, only that both have one or neither has. -/
structure Service.Alike (service other : Service) : Prop where
  limits : service.limits = other.limits
  capacity : service.bufferCapacity = other.bufferCapacity
  memory : service.memory = other.memory
  execute : service.pipeline.execute = other.pipeline.execute
  observed : service.pipeline.observer.isSome = other.pipeline.observer.isSome

theorem Service.Alike.refl (service : Service) : service.Alike service :=
  ⟨rfl, rfl, rfl, rfl, rfl⟩

/-! ## Connections -/

/-- The same phase, with contexts that are alike. -/
inductive Phase.Alike : Phase → Phase → Prop
  | reading : Alike .reading .reading
  | dispatching {context other : Context} (keepAlive : Bool) (alike : context.Alike other) :
      Alike (.dispatching context keepAlive) (.dispatching other keepAlive)
  | writing {context other : Context} (response : Response) (keepAlive : Bool)
      (alike : context.Alike other) :
      Alike (.writing context response keepAlive) (.writing other response keepAlive)
  | closing : Alike .closing .closing
  | closed : Alike .closed .closed
  | collapsed (fault : Fault) : Alike (.collapsed fault) (.collapsed fault)

namespace Phase.Alike

variable {phase other third : Phase}

theorem isOver (alike : phase.Alike other) : phase.isOver = other.isOver := by
  cases alike <;> rfl

theorem endsProcess (alike : phase.Alike other) : phase.endsProcess = other.endsProcess := by
  cases alike <;> rfl

theorem refl (phase : Phase) : phase.Alike phase := by
  cases phase with
  | reading =>
      exact .reading
  | dispatching context keepAlive =>
      exact .dispatching keepAlive rfl
  | writing context response keepAlive =>
      exact .writing response keepAlive rfl
  | closing =>
      exact .closing
  | closed =>
      exact .closed
  | collapsed fault =>
      exact .collapsed fault

theorem symm (alike : phase.Alike other) : other.Alike phase := by
  cases alike with
  | dispatching keepAlive same =>
      exact .dispatching keepAlive (Eq.symm same)
  | writing response keepAlive same =>
      exact .writing response keepAlive (Eq.symm same)
  | reading | closing | closed | collapsed =>
      exact refl _

theorem trans (alike : phase.Alike other) (alikeToo : other.Alike third) : phase.Alike third := by
  cases alike with
  | dispatching keepAlive same =>
      cases alikeToo with
      | dispatching _ sameToo =>
          exact .dispatching keepAlive (Eq.trans same sameToo)
  | writing response keepAlive same =>
      cases alikeToo with
      | writing _ _ sameToo =>
          exact .writing response keepAlive (Eq.trans same sameToo)
  | reading | closing | closed | collapsed =>
      exact alikeToo

end Phase.Alike

namespace Connection

/-- The connections have read the same octets, written the same octets, given the same requests to
the pipeline and told the observer of the same ones, and go on alike. -/
structure Alike (first second : Connection) : Prop where
  reader : first.reader = second.reader
  outlet : first.outlet = second.outlet
  requests : first.requests = second.requests
  phase : first.phase.Alike second.phase
  submitted : first.submitted.map Context.seen = second.submitted.map Context.seen
  completed : first.completed.map Context.seen = second.completed.map Context.seen

variable {service other : Service} {first second third : Connection} {context contextToo : Context}

theorem Alike.refl (connection : Connection) : connection.Alike connection :=
  ⟨rfl, rfl, rfl, .refl _, rfl, rfl⟩

theorem Alike.symm (alike : first.Alike second) : second.Alike first :=
  ⟨alike.reader.symm, alike.outlet.symm, alike.requests.symm, alike.phase.symm,
    alike.submitted.symm, alike.completed.symm⟩

theorem Alike.trans (alike : first.Alike second) (alikeToo : second.Alike third) :
    first.Alike third :=
  ⟨alike.reader.trans alikeToo.reader, alike.outlet.trans alikeToo.outlet,
    alike.requests.trans alikeToo.requests, alike.phase.trans alikeToo.phase,
    alike.submitted.trans alikeToo.submitted, alike.completed.trans alikeToo.completed⟩

/-! ## Events -/

theorem completed_emit (connection : Connection) (context : Context) :
    (connection.emit (.completed context)).completed = connection.completed ++ [context] := by
  simp [completed, emit]

theorem Alike.log (alike : first.Alike second) (level levelToo : LogLevel)
    (message messageToo : String) (fields fieldsToo : List LogField) :
    (first.log service level message fields).Alike
      (second.log other levelToo messageToo fieldsToo) := by
  obtain ⟨reader, outlet, requests, phase, submitted, completed⟩ := alike
  refine ⟨reader, outlet, requests, phase, ?_, ?_⟩
  · rw [(notes_log first _ _ _ _).submitted, (notes_log second _ _ _ _).submitted]
    exact submitted
  · simpa [Connection.completed, Connection.log, emit] using completed

theorem Alike.counted_left (alike : first.Alike second) (metric : Metric) :
    (first.emit (.counted metric)).Alike second := by
  obtain ⟨reader, outlet, requests, phase, submitted, completed⟩ := alike
  refine ⟨reader, outlet, requests, phase, ?_, ?_⟩
  · rw [(notes_counted first metric).submitted]
    exact submitted
  · simpa [Connection.completed, emit] using completed

theorem Alike.counted (alike : first.Alike second) (metric metricToo : Metric) :
    (first.emit (.counted metric)).Alike (second.emit (.counted metricToo)) :=
  ((alike.counted_left metric).symm.counted_left metricToo).symm

theorem Alike.foldl_counted_left (alike : first.Alike second) (metrics : List Metric) :
    (metrics.foldl (fun connection metric => connection.emit (.counted metric)) first).Alike
      second := by
  induction metrics generalizing first with
  | nil =>
      exact alike
  | cons metric others inductionHypothesis =>
      exact inductionHypothesis (alike.counted_left metric)

theorem Alike.emit_submitted (alike : first.Alike second) (same : context.Alike contextToo) :
    (first.emit (.submitted context)).Alike (second.emit (.submitted contextToo)) := by
  obtain ⟨reader, outlet, requests, phase, submitted, completed⟩ := alike
  refine ⟨reader, outlet, requests, phase, ?_, ?_⟩
  · rw [submitted_emit, submitted_emit, List.map_append, List.map_append, submitted,
      List.map_singleton, List.map_singleton, same]
  · simpa [Connection.completed, emit] using completed

theorem Alike.emit_completed (alike : first.Alike second) (same : context.Alike contextToo) :
    (first.emit (.completed context)).Alike (second.emit (.completed contextToo)) := by
  obtain ⟨reader, outlet, requests, phase, submitted, completed⟩ := alike
  refine ⟨reader, outlet, requests, phase, ?_, ?_⟩
  · rw [(notes_completed first context).submitted, (notes_completed second contextToo).submitted]
    exact submitted
  · rw [completed_emit, completed_emit, List.map_append, List.map_append, completed,
      List.map_singleton, List.map_singleton, same]

/-- Whatever the observers do with a completed request, the connections stay alike. -/
theorem Alike.complete (services : service.Alike other) (alike : first.Alike second)
    (same : context.Alike contextToo) :
    (first.complete service context).Alike (second.complete other contextToo) := by
  have observed := services.observed
  unfold Connection.complete
  cases observer : service.pipeline.observer with
  | none =>
      have none : other.pipeline.observer = none := by
        rw [observer] at observed
        exact Option.not_isSome_iff_eq_none.mp (by rw [← observed]; decide)
      simp only [none]
      exact alike
  | some tells =>
      rw [observer] at observed
      obtain ⟨tellsToo, observerToo⟩ := Option.isSome_iff_exists.mp observed.symm
      simp only [observerToo]
      -- what each observer counts besides is not compared
      have told := alike.emit_completed same
      exact ((told.foldl_counted_left _).symm.foldl_counted_left _).symm

/-! ## Steps -/

theorem Alike.withPhase (alike : first.Alike second) {phase phaseToo : Phase}
    {clock clockToo : Clock} (same : phase.Alike phaseToo) :
    Alike { first with clock, phase } { second with clock := clockToo, phase := phaseToo } :=
  ⟨alike.reader, alike.outlet, alike.requests, same, alike.submitted, alike.completed⟩

/-- What time it is changes nothing that counts. -/
theorem alike_atTime (connection : Connection) (time : Instant) :
    (connection.atTime time).Alike connection := by
  refine ⟨rfl, rfl, rfl, ?_, rfl, rfl⟩
  unfold atTime
  cases phase : connection.phase with
  | dispatching context keepAlive =>
      exact .dispatching keepAlive rfl
  | writing context response keepAlive =>
      exact .writing response keepAlive rfl
  | reading | closing | closed | collapsed =>
      exact .refl _

theorem Alike.refuse (alike : first.Alike second) (error : DecodeError) :
    (first.refuse service error).Alike (second.refuse other error) := by
  unfold Connection.refuse
  cases error.meansPeerLeft with
  | true =>
      exact (alike.log _ _ _ _ _ _).withPhase .closing
  | false =>
      exact (alike.log _ _ _ _ _ _).withPhase .closing

theorem Alike.read (services : service.Alike other) (alike : first.Alike second) :
    (first.read service).Alike (second.read other) := by
  obtain ⟨reader, outlet, requests, phase, submitted, completed⟩ := alike
  unfold Connection.read
  rw [← services.limits, ← reader]
  rcases first.reader.readRequest service.limits with ⟨(error | fault) | request, after⟩
  · apply Alike.refuse
    exact ⟨rfl, outlet, requests, phase, submitted, completed⟩
  · exact ⟨rfl, outlet, requests, .collapsed fault, submitted, completed⟩
  · have sequence : first.requests + 1 = second.requests + 1 := congrArg (· + 1) requests
    refine ⟨rfl, outlet, sequence, .dispatching _ ?_, submitted, completed⟩
    exact Prod.ext rfl sequence

theorem Alike.dispatch (services : service.Alike other) (pure : service.pipeline.IsPure)
    (alike : first.Alike second) (same : context.Alike contextToo) (keepAlive : Bool) :
    (first.dispatch service context keepAlive).Alike
      (second.dispatch other contextToo keepAlive) := by
  have given := alike.emit_submitted same
  have outcomes := pure same
  unfold Connection.dispatch
  rw [← services.execute]
  generalize service.pipeline.execute context = outcome at outcomes ⊢
  generalize service.pipeline.execute contextToo = outcomeToo at outcomes ⊢
  cases outcomes with
  | error fault =>
      exact given.withPhase (.collapsed fault)
  | @ok answered answeredToo answers =>
      obtain ⟨answer, after⟩ := answered
      obtain ⟨answerToo, afterToo⟩ := answeredToo
      obtain ⟨sameAnswer, alikeAfter⟩ := answers
      cases sameAnswer
      exact given.withPhase (.writing _ keepAlive alikeAfter)

theorem Alike.afterWrite (services : service.Alike other) (alike : first.Alike second)
    (same : context.Alike contextToo) (response : Response) (keepAlive : Bool)
    (outcome : Except WriteFailure Unit) :
    (first.afterWrite service context response keepAlive outcome).Alike
      (second.afterWrite other contextToo response keepAlive outcome) := by
  unfold Connection.afterWrite
  cases outcome with
  | ok =>
      have logged : (first.logServed service context response).Alike
          (second.logServed other contextToo response) := alike.log _ _ _ _ _ _
      have served := logged.complete services same
      cases keepAlive with
      | true =>
          exact served.withPhase .reading
      | false =>
          exact served.withPhase .closing
  | error failure =>
      exact (alike.log _ _ _ _ _ _).withPhase .closing

theorem Alike.write (services : service.Alike other) (alike : first.Alike second)
    (same : context.Alike contextToo) (response : Response) (keepAlive : Bool) :
    (first.write service context response keepAlive).Alike
      (second.write other contextToo response keepAlive) := by
  have sameForm : (context.startStage Timeline.writeStage).request.asksHeadOnly =
      (contextToo.startStage Timeline.writeStage).request.asksHeadOnly :=
    congrArg Request.asksHeadOnly same.request
  have finished : (context.startStage Timeline.writeStage).discardBody.finish.Alike
      (contextToo.startStage Timeline.writeStage).discardBody.finish :=
    Prod.ext (congrArg (fun request => { request with body := [] }) same.request) same.sequence
  unfold Connection.write
  simp only [sameForm, ← alike.outlet]
  rcases (response.withKeepAlive keepAlive).write
    (contextToo.startStage Timeline.writeStage).request.asksHeadOnly first.outlet with
    ⟨outcome, outlet⟩
  apply Alike.afterWrite services _ finished
  apply Alike.counted
  exact ⟨alike.reader, rfl, alike.requests, alike.phase, alike.submitted, alike.completed⟩

theorem Alike.step (services : service.Alike other) (pure : service.pipeline.IsPure)
    (alike : first.Alike second) :
    (first.step service).Alike (second.step other) := by
  have phase := alike.phase
  unfold Connection.step
  generalize firstPhase : first.phase = before at phase ⊢
  generalize secondPhase : second.phase = beforeToo at phase ⊢
  cases phase with
  | reading =>
      exact alike.read services
  | dispatching keepAlive same =>
      exact alike.dispatch services pure same keepAlive
  | writing response keepAlive same =>
      exact alike.write services same response keepAlive
  | closing =>
      exact (alike.log _ _ _ _ _ _).withPhase .closed
  | closed | collapsed =>
      exact alike

/-! ## Several steps -/

theorem runUpTo_succ (service : Service) (most : Nat) (connection : Connection) :
    runUpTo service (most + 1) connection = (runUpTo service most connection).step service := by
  induction most generalizing connection with
  | zero =>
      rw [runUpTo, runUpTo]
      split
      · rename_i ended
        rw [step_of_isOver ended]
      · rfl
  | succ most inductionHypothesis =>
      rw [runUpTo]
      split
      · rename_i ended
        rw [runUpTo, if_pos ended, step_of_isOver ended]
      · rename_i going
        rw [inductionHypothesis, runUpTo.eq_def service (most + 1)]
        simp only [going, if_false, Bool.false_eq_true]

theorem runUpTo_add (service : Service) (more : Nat) {most : Nat} {connection : Connection}
    (ended : (runUpTo service most connection).phase.isOver = true) :
    runUpTo service (most + more) connection = runUpTo service most connection := by
  induction more with
  | zero =>
      rfl
  | succ more inductionHypothesis =>
      rw [← Nat.add_assoc, runUpTo_succ, inductionHypothesis, step_of_isOver ended]

/-- A connection that is over after some steps has been run to its end. -/
theorem runUpTo_eq_run {service : Service} {most : Nat} {connection : Connection}
    (ended : (runUpTo service most connection).phase.isOver = true) :
    runUpTo service most connection = connection.run service := by
  have finished := isOver_run service connection
  unfold run at finished ⊢
  rw [← runUpTo_add service connection.stepBound ended, Nat.add_comm,
    runUpTo_add service most finished]

end Connection

end HttpServer
