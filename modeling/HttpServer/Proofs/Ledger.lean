import HttpServer.Proofs.Exchanges

/-!
# What a connection counts

A connection counts a response as soon as it has tried to write it, whether the peer took it whole
or not. So what it has counted is known from the requests that the pipeline has answered: one
response for each, and what the observer counts of those that the peer took whole. Only the last
response can have been broken off.
-/

namespace HttpServer

namespace Service

/-- The status of the response to a request, unless the pipeline fails on it. -/
def status? (service : Service) (given : Context) : Option Nat :=
  (service.answer? given).map fun answer => answer.1.status.code

/-- What the observer counts of a request that it is told of. -/
def observes (service : Service) (told : Context) : List Metric :=
  match service.pipeline.observer with
  | none => []
  | some observer => (observer.observe told).toOption.getD []

/-- Those of some requests whose responses stand on a wire whole, one after the other. -/
def wholeOn (service : Service) : Bytes → List Context → List Context
  | _, [] => []
  | wire, given :: rest =>
    if service.octets given <+: wire then
      given :: service.wholeOn (wire.drop (service.octets given).length) rest
    else []

/-- Responses that are on the wire are found there, and none that is not there as a whole. -/
theorem wholeOn_eq (service : Service) {served broken : List Context} {rest : Bytes}
    (short : ∀ given ∈ broken.head?, ¬ service.octets given <+: rest) :
    service.wholeOn (served.flatMap service.octets ++ rest) (served ++ broken) = served := by
  induction served with
  | nil =>
      cases broken with
      | nil => rfl
      | cons given others =>
          simp only [List.flatMap_nil, List.nil_append, wholeOn]
          rw [if_neg (short given rfl)]
  | cons given others inductionHypothesis =>
      rw [List.flatMap_cons, List.append_assoc, List.cons_append, wholeOn,
        if_pos (List.prefix_append _ _), List.drop_left, inductionHypothesis]

end Service

namespace Connection

variable {service : Service} {connection : Connection}

/-- The requests that the pipeline has answered, in order. -/
def answered (service : Service) (connection : Connection) : List Context :=
  connection.submitted.filter fun given => (service.answer? given).isSome

/-- The requests whose responses the peer has taken whole. -/
def whole (service : Service) (connection : Connection) : List Context :=
  service.wholeOn connection.outlet.wire (connection.answered service)

/-- The requests that have been answered and whose responses the peer has not taken whole. -/
def broken (service : Service) (connection : Connection) : List Context :=
  (connection.answered service).drop (connection.whole service).length

/-! ## What is counted in one step -/

theorem metrics_log (connection : Connection) (service : Service) (level : LogLevel)
    (message : String) (fields : List LogField) :
    (connection.log service level message fields).metrics = connection.metrics := by
  simp [metrics, log, emit]

theorem metrics_counted (connection : Connection) (metric : Metric) :
    (connection.emit (.counted metric)).metrics = connection.metrics ++ [metric] := by
  simp [metrics, emit]

theorem metrics_submitted (connection : Connection) (context : Context) :
    (connection.emit (.submitted context)).metrics = connection.metrics := by
  simp [metrics, emit]

theorem metrics_foldl_counted (counted : List Metric) (connection : Connection) :
    (counted.foldl (fun connection metric => connection.emit (.counted metric))
      connection).metrics = connection.metrics ++ counted := by
  induction counted generalizing connection with
  | nil => exact (List.append_nil _).symm
  | cons metric others inductionHypothesis =>
      rw [List.foldl_cons, inductionHypothesis, metrics_counted, List.append_assoc]
      rfl

theorem metrics_complete (connection : Connection) (service : Service) (context : Context) :
    (connection.complete service context).metrics =
      connection.metrics ++ service.observes context := by
  unfold complete Service.observes
  cases service.pipeline.observer with
  | none => exact (List.append_nil _).symm
  | some observer =>
      refine (metrics_foldl_counted _ _).trans ?_
      simp [metrics, emit]

theorem metrics_read (service : Service) (connection : Connection) :
    (connection.read service).metrics = connection.metrics := by
  unfold Connection.read
  rcases connection.reader.readRequest service.limits with ⟨(error | fault) | request, after⟩
  · simp only [refuse]
    cases error.meansPeerLeft with
    | true => exact metrics_log _ _ _ _ _
    | false => exact metrics_log _ _ _ _ _
  · rfl
  · rfl

theorem metrics_dispatch (service : Service) (connection : Connection) (given : Context)
    (keepAlive : Bool) :
    (connection.dispatch service given keepAlive).metrics = connection.metrics := by
  unfold dispatch
  cases service.pipeline.execute given with
  | error fault => exact metrics_submitted connection given
  | ok answered => exact metrics_submitted connection given

theorem metrics_close (service : Service) (connection : Connection) :
    (connection.close service).metrics = connection.metrics :=
  metrics_log _ _ _ _ _

theorem metrics_afterWrite (connection : Connection) (service : Service) (context : Context)
    (response : Response) (keepAlive : Bool) (outcome : Except WriteFailure Unit) :
    (connection.afterWrite service context response keepAlive outcome).metrics =
      connection.metrics ++
        match outcome with
        | .ok () => service.observes context
        | .error _ => [] := by
  cases outcome with
  | error failure =>
      rw [List.append_nil]
      exact metrics_log _ _ _ _ _
  | ok =>
      have logged : (connection.logServed service context response).metrics = connection.metrics :=
        metrics_log _ _ _ _ _
      exact (metrics_complete _ _ _).trans (congrArg (· ++ service.observes context) logged)

/-- A response is counted before it is known whether it could be written. -/
theorem metrics_write (service : Service) (connection : Connection) (context : Context)
    (response : Response) (keepAlive : Bool) :
    (connection.write service context response keepAlive).metrics =
      connection.metrics ++ .responded response.status.code ::
        match (connection.outlet.write
          ((response.withKeepAlive keepAlive).encode context.request.asksHeadOnly)).1 with
        | .ok () =>
          service.observes (context.startStage Timeline.writeStage).discardBody.finish
        | .error _ => [] := by
  unfold write
  simp only [Response.write_eq]
  rw [metrics_afterWrite, metrics_counted, List.append_assoc]
  rfl

/-! ## The ledger of a connection -/

/-- The pipeline has answered `answered`. Of their responses the peer took those to `served` whole,
and the one to `broken` in part; the others have not been written yet. All that have been are
counted, and what the observer counted of those that it has been told of. -/
structure Balance (service : Service) (served broken answered : List Context)
    (connection : Connection) : Prop where
  answered : connection.answered service = answered
  single : broken.length ≤ 1
  wire : connection.outlet.wire =
    Outlet.taken connection.outlet.bound ((served ++ broken).flatMap service.octets)
  whole : Outlet.Fits connection.outlet.bound (served.flatMap service.octets)
  cut : broken ≠ [] →
    ¬ Outlet.Fits connection.outlet.bound ((served ++ broken).flatMap service.octets)
  counted : connection.metrics.Perm
    (((served ++ broken).filterMap service.status?).map Metric.responded ++
      connection.completed.flatMap service.observes)
  told : connection.completed.length = if service.pipeline.observer.isSome then served.length else 0

/-- Where a connection stands between two steps. -/
inductive Ledger (service : Service) : Connection → Prop
  | reading {connection : Connection} {served : List Context}
      (phase : connection.phase = .reading)
      (balance : connection.Balance service served [] served) : Ledger service connection
  | dispatching {connection : Connection} {served : List Context} {given : Context}
      {keepAlive : Bool} (phase : connection.phase = .dispatching given keepAlive)
      (asks : keepAlive = given.request.fields.askKeepAlive)
      (balance : connection.Balance service served [] served) : Ledger service connection
  | writing {connection : Connection} {served : List Context} {given context after : Context}
      {response : Response} {keepAlive : Bool}
      (phase : connection.phase = .writing context response keepAlive)
      (answers : service.answer? given = some (response.withKeepAlive keepAlive, after))
      (request : context.request = after.request)
      (balance : connection.Balance service served [] (served ++ [given])) :
      Ledger service connection
  | stopping {connection : Connection} {served broken answered : List Context}
      (phase : connection.phase = .closing ∨ connection.phase.isOver = true)
      (balance : connection.Balance service served broken answered)
      (all : answered = served ++ broken) : Ledger service connection

variable {served broken answered : List Context} {other : Connection}

theorem Balance.of_same (balance : connection.Balance service served broken answered)
    (outlet : other.outlet = connection.outlet) (submitted : other.submitted = connection.submitted)
    (completed : other.completed = connection.completed)
    (metrics : other.metrics = connection.metrics) :
    other.Balance service served broken answered := by
  constructor
  · rw [Connection.answered, submitted]
    exact balance.answered
  · exact balance.single
  · rw [outlet]
    exact balance.wire
  · rw [outlet]
    exact balance.whole
  · rw [outlet]
    exact balance.cut
  · rw [metrics, completed]
    exact balance.counted
  · rw [completed]
    exact balance.told

theorem perm_of_counted {metrics responses observed more : List Metric} {metric : Metric}
    (counted : metrics.Perm (responses ++ observed)) :
    (metrics ++ metric :: more).Perm ((responses ++ [metric]) ++ (observed ++ more)) := by
  refine (counted.append_right (metric :: more)).trans ?_
  rw [List.append_assoc, List.append_assoc]
  refine List.Perm.append_left responses ?_
  exact List.perm_middle

/-- The peer has taken everything as long as no response has been broken off. -/
theorem Balance.wire_eq (balance : connection.Balance service served [] answered) :
    connection.outlet.wire = served.flatMap service.octets := by
  rw [balance.wire, List.append_nil, Outlet.taken_of_fits balance.whole]

theorem Balance.fits (balance : connection.Balance service served [] answered) :
    Outlet.Fits connection.outlet.bound connection.outlet.wire := by
  rw [balance.wire_eq]
  exact balance.whole

/-! ## Steps -/

theorem ledger_read (balance : connection.Balance service served [] served) :
    (connection.read service).Ledger service := by
  obtain ⟨outlet, submitted, completed⟩ := read_keeps service connection
  have kept := balance.of_same outlet submitted completed (metrics_read service connection)
  rcases reading : connection.reader.readRequest service.limits with ⟨failure | request, after⟩
  · exact .stopping (read_of_error reading).1 kept (List.append_nil served).symm
  · obtain ⟨given, rfl, phase, -, -⟩ := read_of_ok reading
    exact .dispatching phase rfl kept

theorem ledger_dispatch {given : Context} {keepAlive : Bool}
    (balance : connection.Balance service served [] served)
    (asks : keepAlive = given.request.fields.askKeepAlive) :
    (connection.dispatch service given keepAlive).Ledger service := by
  obtain ⟨-, -, outlet, submitted, completed⟩ := dispatch_keeps service connection given keepAlive
  have metrics := metrics_dispatch service connection given keepAlive
  have submits (answers : List Context) (answered : ([given].filter fun given =>
        (service.answer? given).isSome) = answers) :
      (connection.dispatch service given keepAlive).Balance service served []
        (served ++ answers) := by
    constructor
    · rw [Connection.answered, submitted, List.filter_append, answered]
      exact congrArg (· ++ answers) balance.answered
    · exact balance.single
    · rw [outlet]
      exact balance.wire
    · rw [outlet]
      exact balance.whole
    · rw [outlet]
      exact balance.cut
    · rw [metrics, completed]
      exact balance.counted
    · rw [completed]
      exact balance.told
  rcases executed : service.pipeline.execute given with fault | ⟨answer, context⟩
  · have failed : service.answer? given = none := by
      simp only [Service.answer?, executed]
    refine .stopping (.inr ?_) (submits [] (by simp [failed])) rfl
    rw [dispatch, executed]
    rfl
  · have answers : service.answer? given =
        some ((answer.getD .notFound).withKeepAlive keepAlive, context) := by
      simp only [Service.answer?, executed, asks]
    refine .writing ?_ answers rfl (submits [given] (by simp [answers]))
    rw [dispatch, executed]

section Write

variable {given context after : Context} {response : Response} {keepAlive : Bool}

/-- The octets that are on the wire once the next response has been written whole. -/
theorem Balance.octets_eq
    (balance : connection.Balance service served [] (served ++ [given]))
    (answers : service.answer? given = some (response.withKeepAlive keepAlive, after))
    (request : context.request = after.request) :
    (served ++ [given]).flatMap service.octets = connection.outlet.wire ++
      (response.withKeepAlive keepAlive).encode context.request.asksHeadOnly := by
  rw [List.flatMap_append, List.flatMap_singleton, balance.wire_eq, Service.octets, answers,
    request]

/-- One more response counts its status, and then what the observer counts of it. -/
theorem Balance.counted_concat
    (balance : connection.Balance service served [] (served ++ [given]))
    (answers : service.answer? given = some (response.withKeepAlive keepAlive, after))
    (observed : List Metric) :
    (connection.metrics ++ .responded response.status.code :: observed).Perm
      (((served ++ [given]).filterMap service.status?).map Metric.responded ++
        (connection.completed.flatMap service.observes ++ observed)) := by
  have status : ([given].filterMap service.status?).map Metric.responded =
      [.responded response.status.code] := by
    simp only [List.filterMap_cons, List.filterMap_nil, Service.status?, answers]
    rfl
  have counted := balance.counted
  rw [List.append_nil] at counted
  rw [List.filterMap_append, List.map_append, status]
  exact perm_of_counted counted

theorem Balance.write_of_fits
    (balance : connection.Balance service served [] (served ++ [given]))
    (answers : service.answer? given = some (response.withKeepAlive keepAlive, after))
    (request : context.request = after.request)
    (fits : Outlet.Fits connection.outlet.bound ((served ++ [given]).flatMap service.octets)) :
    (connection.write service context response keepAlive).Balance service
      (served ++ [given]) [] (served ++ [given]) := by
  have all := balance.octets_eq answers request
  let told := (context.startStage Timeline.writeStage).discardBody.finish
  obtain ⟨-, -, -, outlet, submitted, completed⟩ :=
    Connection.write_of_fits service connection context response keepAlive all fits
  have metrics := metrics_write service connection context response keepAlive
  rw [Outlet.write_of_fits (by rw [← all]; exact fits)] at metrics
  constructor
  · rw [Connection.answered, submitted]
    exact balance.answered
  · exact Nat.zero_le 1
  · rw [outlet, List.append_nil, Outlet.taken_of_fits fits]
  · rw [outlet]
    exact fits
  · exact fun none => absurd rfl none
  · have observed : (if service.pipeline.observer.isSome then [told] else []).flatMap
        service.observes = service.observes told := by
      unfold Service.observes
      cases service.pipeline.observer with
      | none => rfl
      | some observer => exact List.flatMap_singleton _ _
    rw [metrics, completed, List.flatMap_append, observed, List.append_nil]
    exact balance.counted_concat answers _
  · rw [completed, List.length_append, balance.told]
    split <;> simp

theorem Balance.write_of_not_fits
    (balance : connection.Balance service served [] (served ++ [given]))
    (answers : service.answer? given = some (response.withKeepAlive keepAlive, after))
    (request : context.request = after.request)
    (cut : ¬ Outlet.Fits connection.outlet.bound ((served ++ [given]).flatMap service.octets)) :
    (connection.write service context response keepAlive).Balance service
      served [given] (served ++ [given]) := by
  have all := balance.octets_eq answers request
  obtain ⟨-, -, -, outlet, submitted, completed⟩ :=
    Connection.write_of_not_fits service connection context response keepAlive all balance.fits cut
  obtain ⟨failure, failed⟩ := Outlet.write_of_not_fits balance.fits (by rw [← all]; exact cut)
  have metrics := metrics_write service connection context response keepAlive
  rw [failed] at metrics
  constructor
  · rw [Connection.answered, submitted]
    exact balance.answered
  · exact Nat.le_refl 1
  · rw [outlet]
  · rw [outlet]
    exact balance.whole
  · rw [outlet]
    exact fun _ => cut
  · have counted := balance.counted_concat answers []
    rw [List.append_nil] at counted
    rw [metrics, completed]
    exact counted
  · rw [completed]
    exact balance.told

theorem ledger_write
    (answers : service.answer? given = some (response.withKeepAlive keepAlive, after))
    (request : context.request = after.request)
    (balance : connection.Balance service served [] (served ++ [given])) :
    (connection.write service context response keepAlive).Ledger service := by
  have all := balance.octets_eq answers request
  by_cases fits : Outlet.Fits connection.outlet.bound ((served ++ [given]).flatMap service.octets)
  · have written := balance.write_of_fits answers request fits
    have phase := (write_of_fits service connection context response keepAlive all fits).1
    cases keepAlive with
    | true => exact .reading phase written
    | false => exact .stopping (.inl phase) written (List.append_nil _).symm
  · have written := balance.write_of_not_fits answers request fits
    have phase :=
      (write_of_not_fits service connection context response keepAlive all balance.fits fits).1
    exact .stopping (.inl phase) written rfl

end Write

theorem ledger_step (ledger : connection.Ledger service) :
    (connection.step service).Ledger service := by
  cases ledger with
  | reading phase balance =>
      rw [step, phase]
      exact ledger_read balance
  | dispatching phase asks balance =>
      rw [step, phase]
      exact ledger_dispatch balance asks
  | writing phase answers request balance =>
      rw [step, phase]
      exact ledger_write answers request balance
  | stopping phase balance all =>
      rcases phase with closing | ended
      · rw [step, closing]
        have kept : (connection.close service).Balance service _ _ _ :=
          balance.of_same rfl (notes_log _ _ _ _ _).submitted (completed_log _ _ _ _ _)
            (metrics_close service connection)
        exact .stopping (.inr rfl) kept all
      · rw [step_of_isOver ended]
        exact .stopping (.inr ended) balance all

theorem ledger_atTime (ledger : connection.Ledger service) (time : Instant) :
    (connection.atTime time).Ledger service := by
  cases ledger with
  | reading phase balance =>
      refine .reading ?_ (balance.of_same rfl rfl rfl rfl)
      simp only [atTime, phase]
  | @dispatching served given keepAlive phase asks balance =>
      have timed : (connection.atTime time).phase = .dispatching (given.onTimeline fun timeline =>
          { timeline with clock := timeline.clock.stopAt time }) keepAlive := by
        simp only [atTime, phase]
      exact .dispatching timed asks (balance.of_same rfl rfl rfl rfl)
  | @writing served given context after response keepAlive phase answers request balance =>
      have timed : (connection.atTime time).phase = .writing (context.onTimeline fun timeline =>
          { timeline with clock := timeline.clock.stopAt time }) response keepAlive := by
        simp only [atTime, phase]
      exact .writing timed answers request (balance.of_same rfl rfl rfl rfl)
  | stopping phase balance all =>
      refine .stopping ?_ (balance.of_same rfl rfl rfl rfl) all
      rcases phase with closing | ended
      · left
        simp only [atTime, closing]
      · right
        rw [(connection.alike_atTime time).phase.isOver]
        exact ended

theorem ledger_start (service : Service) (info : ConnectionInfo) (reader : Reader)
    (bound : Option WriteBound) : Ledger service { info, reader, outlet := { bound } } := by
  have balance : Balance service [] [] [] { info, reader, outlet := { bound } } := by
    constructor
    · rfl
    · exact Nat.zero_le 1
    · cases bound with
      | none => rfl
      | some limit => exact List.take_nil.symm
    · intro limit _
      exact Nat.zero_le _
    · exact fun none => absurd rfl none
    · exact .refl _
    · exact (ite_self _).symm
  exact .reading rfl balance

/-! ## What a connection that is over has counted -/

/-- Behind the whole responses stands less than one more. -/
theorem Balance.exists_rest (balance : connection.Balance service served broken answered) :
    ∃ rest, connection.outlet.wire = served.flatMap service.octets ++ rest ∧
      ∀ given ∈ broken.head?, ¬ service.octets given <+: rest := by
  rcases broken with _ | ⟨given, _ | ⟨second, others⟩⟩
  · refine ⟨[], ?_, fun _ none => absurd none (Option.not_mem_none _)⟩
    rw [balance.wire_eq, List.append_nil]
  · have cut := balance.cut (List.cons_ne_nil _ _)
    have whole := balance.whole
    have wire := balance.wire
    rw [List.flatMap_append, List.flatMap_singleton] at wire cut
    cases limited : connection.outlet.bound with
    | none =>
        rw [limited] at cut
        exact absurd Outlet.fits_none cut
    | some limit =>
        rw [limited, Outlet.fits_some] at whole
        rw [limited, Outlet.fits_some, List.length_append] at cut
        rw [limited, Outlet.taken, List.take_append, List.take_of_length_le whole] at wire
        refine ⟨_, wire, ?_⟩
        rintro other ⟨⟩ isPrefix
        have short := isPrefix.length_le
        rw [List.length_take] at short
        omega
  · have single := balance.single
    simp only [List.length_cons] at single
    omega

theorem Balance.whole_eq (balance : connection.Balance service served broken (served ++ broken)) :
    connection.whole service = served := by
  obtain ⟨rest, wire, short⟩ := balance.exists_rest
  rw [Connection.whole, balance.answered, wire]
  exact service.wholeOn_eq short

theorem Balance.broken_eq (balance : connection.Balance service served broken (served ++ broken)) :
    connection.broken service = broken := by
  rw [Connection.broken, balance.whole_eq, balance.answered, List.drop_left]

/-- What holds of a connection that is over. -/
structure Settled (service : Service) (connection : Connection) : Prop where
  answered : connection.answered service = connection.whole service ++ connection.broken service
  /-- At most one response has been broken off, and only if the peer stopped taking octets. -/
  single : (connection.broken service).length ≤ 1
  broken : connection.broken service = [] ↔ Outlet.Fits connection.outlet.bound
    ((connection.answered service).flatMap service.octets)
  counted : connection.metrics.Perm
    (((connection.answered service).filterMap service.status?).map Metric.responded ++
      connection.completed.flatMap service.observes)
  told : connection.completed.length =
    if service.pipeline.observer.isSome then (connection.whole service).length else 0

theorem Balance.settled (balance : connection.Balance service served broken (served ++ broken)) :
    connection.Settled service := by
  constructor
  · rw [balance.whole_eq, balance.broken_eq]
    exact balance.answered
  · rw [balance.broken_eq]
    exact balance.single
  · rw [balance.broken_eq, balance.answered]
    constructor
    · rintro rfl
      rw [List.append_nil]
      exact balance.whole
    · intro fits
      by_contra some
      exact balance.cut some fits
  · rw [balance.answered]
    exact balance.counted
  · rw [balance.whole_eq]
    exact balance.told

theorem Ledger.settled (ledger : connection.Ledger service)
    (ended : connection.phase.isOver = true) : connection.Settled service := by
  cases ledger with
  | stopping phase balance all =>
      subst all
      exact balance.settled
  | reading phase =>
      rw [phase] at ended
      cases ended
  | dispatching phase =>
      rw [phase] at ended
      cases ended
  | writing phase =>
      rw [phase] at ended
      cases ended

end Connection

end HttpServer
