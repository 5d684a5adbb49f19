import HttpServer.Proofs.Alike

/-!
# What a connection writes

A connection writes one response to each request that its pipeline answers, whatever the pipeline
makes of the request and whenever the peer stops taking octets. So what is on the wire is known
from the requests that the pipeline has been given: their responses one after the other, up to the
point from which the peer takes no more. Only the last of these requests can be without a whole
response, and then nothing is read behind it.
-/

namespace HttpServer

/-! ## Writing up to a bound -/

namespace Outlet

/-- What a peer takes of all the octets that are written to it. -/
def taken (bound : Option WriteBound) (bytes : Bytes) : Bytes :=
  match bound with
  | none => bytes
  | some limit => bytes.take limit.room

/-- The peer takes all of the octets. -/
def Fits (bound : Option WriteBound) (bytes : Bytes) : Prop :=
  ∀ limit ∈ bound, bytes.length ≤ limit.room

variable {bound : Option WriteBound} {bytes front rest : Bytes} {outlet : Outlet}

theorem fits_none : Fits none bytes :=
  fun _ isLimit => nomatch isLimit

theorem fits_some {limit : WriteBound} :
    Fits (some limit) bytes ↔ bytes.length ≤ limit.room := by
  simp [Fits]

theorem taken_of_fits (fits : Fits bound bytes) : taken bound bytes = bytes := by
  cases bound with
  | none =>
      rfl
  | some limit =>
      exact List.take_of_length_le (fits_some.mp fits)

theorem fits_of_append (fits : Fits bound (front ++ rest)) : Fits bound front := by
  intro limit isLimit
  have all := fits limit isLimit
  rw [List.length_append] at all
  omega

theorem fits_of_taken (taken : taken bound bytes = bytes) : Fits bound bytes := by
  rintro limit rfl
  rw [← taken]
  exact List.length_take_le _ _

/-- Where the peer has stopped, nothing that is written later changes what it took. -/
theorem taken_append (cut : ¬ Fits bound front) (rest : Bytes) :
    taken bound (front ++ rest) = taken bound front := by
  cases bound with
  | none =>
      exact absurd fits_none cut
  | some limit =>
      rw [fits_some] at cut
      exact List.take_append_of_le_length (by omega)

theorem write_of_fits (fits : Fits outlet.bound (outlet.wire ++ bytes)) :
    outlet.write bytes = (.ok (), { outlet with wire := outlet.wire ++ bytes }) := by
  unfold write
  cases limited : outlet.bound with
  | none =>
      rfl
  | some limit =>
      rw [limited, fits_some, List.length_append] at fits
      simp only
      rw [if_pos (by omega)]

theorem write_of_not_fits (before : Fits outlet.bound outlet.wire)
    (cut : ¬ Fits outlet.bound (outlet.wire ++ bytes)) :
    ∃ failure, outlet.write bytes =
      (.error failure, { outlet with wire := taken outlet.bound (outlet.wire ++ bytes) }) := by
  unfold write
  cases limited : outlet.bound with
  | none =>
      rw [limited] at cut
      exact absurd fits_none cut
  | some limit =>
      rw [limited, fits_some] at before
      rw [limited, fits_some, List.length_append] at cut
      refine ⟨limit.failure, ?_⟩
      simp only
      rw [if_neg (by omega), taken, List.take_append, List.take_of_length_le before]

/-- It makes no difference whether octets are written at once or in two parts. -/
theorem write_append (outlet : Outlet) (front rest : Bytes) :
    outlet.write (front ++ rest) =
      match outlet.write front with
      | (.error failure, after) => (.error failure, after)
      | (.ok (), after) => after.write rest := by
  unfold write
  cases limited : outlet.bound with
  | none =>
      simp only [List.append_assoc]
  | some limit =>
      simp only
      by_cases fitsFront : front.length ≤ limit.room - outlet.wire.length
      · rw [if_pos fitsFront]
        simp only [List.length_append]
        by_cases fitsRest : rest.length ≤ limit.room - (outlet.wire.length + front.length)
        · rw [if_pos fitsRest, if_pos (by omega), List.append_assoc]
        · have left : limit.room - outlet.wire.length - front.length =
              limit.room - (outlet.wire.length + front.length) := by omega
          rw [if_neg fitsRest, if_neg (by omega), List.take_append,
            List.take_of_length_le fitsFront, left, List.append_assoc]
      · rw [if_neg fitsFront, if_neg (by rw [List.length_append]; omega)]
        simp only [List.take_append_of_le_length (Nat.le_of_not_le fitsFront)]

end Outlet

theorem Response.write_eq (response : Response) (headOnly : Bool) (outlet : Outlet) :
    response.write headOnly outlet = outlet.write (response.encode headOnly) := by
  rw [encode, Outlet.write_append, write]
  rcases outlet.write response.encodeHead with ⟨failure | _, after⟩
  · rfl
  · cases response.writesBody headOnly with
    | true =>
        rfl
    | false =>
        have nothing : after.write [] = (.ok (), { after with wire := after.wire ++ [] }) := by
          unfold Outlet.write
          cases after.bound with
          | none =>
              rfl
          | some limit =>
              exact if_pos (Nat.zero_le _)
        simp only [Bool.false_eq_true, if_false, nothing, List.append_nil]

/-! ## What a request is answered with -/

namespace Service

/-- The response that is written to a request, and the context that the pipeline leaves, unless
the pipeline fails. -/
def answer? (service : Service) (given : Context) : Option (Response × Context) :=
  match service.pipeline.execute given with
  | .error _ => none
  | .ok (answer, after) =>
    some ((answer.getD .notFound).withKeepAlive given.request.fields.askKeepAlive, after)

/-- The octets of the response to a request. The method that the pipeline leaves in the context
decides whether the body is among them. -/
def octets (service : Service) (given : Context) : Bytes :=
  match service.answer? given with
  | none => []
  | some (response, after) => response.encode after.request.asksHeadOnly

/-- What the observer is told of a request whose response has been written. -/
def report? (service : Service) (given : Context) : Option Context :=
  (service.answer? given).map fun answer =>
    (answer.2.startStage Timeline.writeStage).discardBody.finish

end Service

theorem Timeline.isFinished_finish (timeline : Timeline) : timeline.finish.isFinished = true := by
  unfold finish
  cases finished : timeline.finishStage.finishedAt with
  | none =>
      simp only [finished, isFinished, Option.isSome_some]
  | some time =>
      simp only [finished, isFinished, Option.isSome_some]

/-- The observer is told of requests that are complete. -/
theorem Service.isFinished_of_report {service : Service} {given told : Context}
    (reported : service.report? given = some told) :
    told.timeline.isFinished = true := by
  obtain ⟨answer, -, rfl⟩ := Option.map_eq_some_iff.mp reported
  exact Timeline.isFinished_finish _

namespace Connection

variable {service : Service} {connection : Connection} {bound : Option WriteBound}
  {reader : Reader}

/-! ## Events -/

theorem completed_log (connection : Connection) (service : Service) (level : LogLevel)
    (message : String) (fields : List LogField) :
    (connection.log service level message fields).completed = connection.completed := by
  simp [completed, log, emit]

theorem completed_counted (connection : Connection) (metric : Metric) :
    (connection.emit (.counted metric)).completed = connection.completed := by
  simp [completed, emit]

theorem completed_foldl_counted (metrics : List Metric) (connection : Connection) :
    (metrics.foldl (fun connection metric => connection.emit (.counted metric))
      connection).completed = connection.completed := by
  induction metrics generalizing connection with
  | nil =>
      rfl
  | cons metric others inductionHypothesis =>
      exact (inductionHypothesis _).trans (completed_counted connection metric)

theorem completed_complete (connection : Connection) (service : Service) (context : Context) :
    (connection.complete service context).completed = connection.completed ++
      if service.pipeline.observer.isSome then [context] else [] := by
  unfold complete
  cases service.pipeline.observer with
  | none =>
      exact (List.append_nil _).symm
  | some observer =>
      exact (completed_foldl_counted _ _).trans (completed_emit connection context)

/-! ## One read -/

theorem refuse_keeps (connection : Connection) (service : Service) (error : DecodeError) :
    let after := connection.refuse service error
    after.phase = .closing ∧ after.reader = connection.reader ∧
      after.requests = connection.requests ∧ after.outlet = connection.outlet ∧
      after.submitted = connection.submitted ∧ after.completed = connection.completed := by
  unfold refuse
  cases error.meansPeerLeft with
  | true =>
      exact ⟨rfl, rfl, rfl, rfl, (notes_log _ _ _ _ _).submitted, completed_log _ _ _ _ _⟩
  | false =>
      exact ⟨rfl, rfl, rfl, rfl, (notes_log _ _ _ _ _).submitted, completed_log _ _ _ _ _⟩

theorem read_keeps (service : Service) (connection : Connection) :
    let after := connection.read service
    after.outlet = connection.outlet ∧ after.submitted = connection.submitted ∧
      after.completed = connection.completed := by
  unfold Connection.read
  rcases connection.reader.readRequest service.limits with ⟨(error | fault) | request, after⟩
  · exact (refuse_keeps { connection with
      clock := if connection.requests = 0 then connection.clock else connection.clock.tick
      reader := after } service error).2.2.2
  · exact ⟨rfl, rfl, rfl⟩
  · exact ⟨rfl, rfl, rfl⟩

theorem read_of_error {failure : ReadFailure} {last : Reader}
    (reading : connection.reader.readRequest service.limits = (.error failure, last)) :
    let after := connection.read service
    (after.phase = .closing ∨ after.phase.isOver = true) ∧
      after.requests = connection.requests := by
  unfold Connection.read
  simp only [reading]
  cases failure with
  | refused error =>
      obtain ⟨phase, -, requests, -⟩ := refuse_keeps { connection with
        clock := if connection.requests = 0 then connection.clock else connection.clock.tick
        reader := last } service error
      exact ⟨.inl phase, requests⟩
  | fault fault =>
      exact ⟨.inr rfl, rfl⟩

theorem read_of_ok {request : Request} {last : Reader}
    (reading : connection.reader.readRequest service.limits = (.ok request, last)) :
    let after := connection.read service
    ∃ given : Context, given.request = request ∧
      after.phase = .dispatching given request.fields.askKeepAlive ∧ after.reader = last ∧
      after.requests = connection.requests + 1 := by
  unfold Connection.read
  simp only [reading]
  exact ⟨_, rfl, rfl, rfl, rfl⟩

/-! ## One answer -/

theorem dispatch_keeps (service : Service) (connection : Connection) (given : Context)
    (keepAlive : Bool) :
    let after := connection.dispatch service given keepAlive
    after.reader = connection.reader ∧ after.requests = connection.requests ∧
      after.outlet = connection.outlet ∧ after.submitted = connection.submitted ++ [given] ∧
      after.completed = connection.completed := by
  have completed : (connection.emit (.submitted given)).completed = connection.completed := by
    simp [Connection.completed, emit]
  unfold dispatch
  cases service.pipeline.execute given with
  | error fault =>
      exact ⟨rfl, rfl, rfl, submitted_emit connection given, completed⟩
  | ok answered =>
      exact ⟨rfl, rfl, rfl, submitted_emit connection given, completed⟩

/-! ## One write -/

section Write

variable (service : Service) (connection : Connection) (context : Context) (response : Response)
  (keepAlive : Bool)

theorem afterWrite_ok :
    let after := connection.afterWrite service context response keepAlive (.ok ())
    after.phase = (if keepAlive then .reading else .closing) ∧
      after.reader = connection.reader ∧ after.requests = connection.requests ∧
      after.outlet = connection.outlet ∧ after.submitted = connection.submitted ∧
      after.completed = connection.completed ++
        if service.pipeline.observer.isSome then [context] else [] := by
  have notes : Notes connection
      ((connection.logServed service context response).complete service context) :=
    (notes_log _ _ _ _ _).trans (notes_complete _ _ _)
  have completed := (completed_complete (connection.logServed service context response) service
    context).trans (congrArg (· ++ _) (completed_log _ _ _ _ _))
  rw [show connection.afterWrite service context response keepAlive (.ok ()) =
    { (connection.logServed service context response).complete service context with
      phase := if keepAlive then .reading else .closing } from rfl]
  generalize (connection.logServed service context response).complete service context = noted
    at notes completed
  obtain ⟨⟨events, rfl⟩, submitted⟩ := notes
  exact ⟨rfl, rfl, rfl, rfl, submitted, completed⟩

/-- A response that the peer takes whole is reported, and the connection goes on as the response
says. -/
theorem write_of_fits {wire : Bytes}
    (all : wire = connection.outlet.wire ++
      (response.withKeepAlive keepAlive).encode context.request.asksHeadOnly)
    (fits : Outlet.Fits connection.outlet.bound wire) :
    let after := connection.write service context response keepAlive
    after.phase = (if keepAlive then .reading else .closing) ∧
      after.reader = connection.reader ∧ after.requests = connection.requests ∧
      after.outlet = { connection.outlet with wire } ∧
      after.submitted = connection.submitted ∧
      after.completed = connection.completed ++
        if service.pipeline.observer.isSome then
          [(context.startStage Timeline.writeStage).discardBody.finish]
        else [] := by
  subst all
  have written := (Response.write_eq (response.withKeepAlive keepAlive)
    (context.startStage Timeline.writeStage).request.asksHeadOnly connection.outlet).trans
      (Outlet.write_of_fits fits)
  unfold write
  simp only [written]
  obtain ⟨phase, reader, requests, outlet, submitted, completed⟩ := afterWrite_ok service
    (emit { connection with
      outlet := { connection.outlet with wire := _ }
      clock := _ } (.counted _)) (context.startStage Timeline.writeStage).discardBody.finish
    (response.withKeepAlive keepAlive) keepAlive
  refine ⟨phase, reader, requests, outlet, ?_, ?_⟩
  · exact submitted.trans (notes_counted _ _).submitted
  · rw [completed, completed_counted]
    rfl

/-- A response that the peer does not take whole is not reported, and the connection closes. -/
theorem write_of_not_fits {wire : Bytes}
    (all : wire = connection.outlet.wire ++
      (response.withKeepAlive keepAlive).encode context.request.asksHeadOnly)
    (before : Outlet.Fits connection.outlet.bound connection.outlet.wire)
    (cut : ¬ Outlet.Fits connection.outlet.bound wire) :
    let after := connection.write service context response keepAlive
    after.phase = .closing ∧
      after.reader = connection.reader ∧ after.requests = connection.requests ∧
      after.outlet =
        { connection.outlet with wire := Outlet.taken connection.outlet.bound wire } ∧
      after.submitted = connection.submitted ∧ after.completed = connection.completed := by
  subst all
  obtain ⟨failure, failed⟩ := Outlet.write_of_not_fits before cut
  have written := (Response.write_eq (response.withKeepAlive keepAlive)
    (context.startStage Timeline.writeStage).request.asksHeadOnly connection.outlet).trans failed
  unfold write
  simp only [written]
  refine ⟨rfl, rfl, rfl, rfl, ?_, ?_⟩
  · exact (notes_log _ _ _ _ _).submitted.trans (notes_counted _ _).submitted
  · exact (completed_log _ _ _ _ _).trans (completed_counted _ _)

end Write

/-! ## The course of a connection -/

/-- The responses to `written` have been written and the peer took what it takes. It took those to
`served` whole, and the observer has been told of them and of nothing else. The pipeline has been
given `submitted`. -/
structure Records (service : Service) (bound : Option WriteBound)
    (served written submitted : List Context) (connection : Connection) : Prop where
  limit : connection.outlet.bound = bound
  wire : connection.outlet.wire = Outlet.taken bound (written.flatMap service.octets)
  whole : Outlet.Fits bound (served.flatMap service.octets)
  submitted : connection.submitted = submitted
  told : connection.completed.map some =
    if service.pipeline.observer.isSome then served.map service.report? else []

/-- The requests of `given` have been read, nothing has been read since, and more will be if
`goesOn` says so. -/
structure HasRead (service : Service) (reader : Reader) (given : List Context) (goesOn : Bool)
    (connection : Connection) : Prop where
  count : connection.requests = given.length
  after : connection.reader = reader.afterCalls service.limits given.length
  rest : reader.session service.limits =
    (connection.reader.sessionAfter service.limits goesOn).follow (given.map Context.request)

/-- How it came that a connection stops: all requests are served, or a response could not be
written whole, or the pipeline failed. -/
inductive Ending (service : Service) (bound : Option WriteBound) (reader : Reader) :
    Connection → Prop
  | complete {connection : Connection} {served : List Context}
      (records : connection.Records service bound served served served)
      (count : connection.requests = served.length)
      (requests : (reader.session service.limits).requests = served.map Context.request) :
      Ending service bound reader connection
  | cut {connection : Connection} {served : List Context} {given : Context} {goesOn : Bool}
      (phase : connection.phase = .closing ∨ connection.phase = .closed)
      (records : connection.Records service bound served (served ++ [given]) (served ++ [given]))
      (read : connection.HasRead service reader (served ++ [given]) goesOn)
      (short : ¬ Outlet.Fits bound ((served ++ [given]).flatMap service.octets)) :
      Ending service bound reader connection
  | failed {connection : Connection} {served : List Context} {given : Context} {goesOn : Bool}
      {fault : Fault} (fails : service.pipeline.execute given = .error fault)
      (records : connection.Records service bound served served (served ++ [given]))
      (read : connection.HasRead service reader (served ++ [given]) goesOn) :
      Ending service bound reader connection

/-- Where a connection stands between two steps. -/
inductive Progress (service : Service) (bound : Option WriteBound) (reader : Reader) :
    Connection → Prop
  | reading {connection : Connection} {served : List Context}
      (phase : connection.phase = .reading)
      (records : connection.Records service bound served served served)
      (read : connection.HasRead service reader served true) :
      Progress service bound reader connection
  | dispatching {connection : Connection} {served : List Context} {given : Context}
      {keepAlive : Bool} (phase : connection.phase = .dispatching given keepAlive)
      (records : connection.Records service bound served served served)
      (read : connection.HasRead service reader (served ++ [given]) keepAlive)
      (asks : keepAlive = given.request.fields.askKeepAlive) :
      Progress service bound reader connection
  | writing {connection : Connection} {served : List Context} {given context : Context}
      {answer : Option Response} {keepAlive : Bool}
      (phase : connection.phase = .writing context (answer.getD .notFound) keepAlive)
      (records : connection.Records service bound served served (served ++ [given]))
      (read : connection.HasRead service reader (served ++ [given]) keepAlive)
      (asks : keepAlive = given.request.fields.askKeepAlive)
      (executed : service.pipeline.execute given = .ok (answer, context)) :
      Progress service bound reader connection
  | stopping {connection : Connection}
      (phase : connection.phase = .closing ∨ connection.phase.isOver = true)
      (ending : connection.Ending service bound reader) :
      Progress service bound reader connection

variable {served written submitted given : List Context} {goesOn : Bool} {other : Connection}

/-- What is about to be written is the answer to the last request that the pipeline has been given. -/
theorem Progress.of_writing {context : Context} {response : Response} {keepAlive : Bool}
    (progress : connection.Progress service bound reader)
    (phase : connection.phase = .writing context response keepAlive) :
    ∃ served given answer, response = answer.getD .notFound ∧
      connection.Records service bound served served (served ++ [given]) ∧
      connection.HasRead service reader (served ++ [given]) keepAlive ∧
      keepAlive = given.request.fields.askKeepAlive ∧
      service.pipeline.execute given = .ok (answer, context) := by
  cases progress with
  | reading other | dispatching other =>
      rw [phase] at other
      cases other
  | stopping ended =>
      rw [phase] at ended
      rcases ended with other | other
      · cases other
      · cases other
  | writing same records read asks executed =>
      obtain ⟨rfl, rfl, rfl⟩ := Phase.writing.inj (phase.symm.trans same)
      exact ⟨_, _, _, rfl, records, read, asks, executed⟩

theorem Records.of_same (records : connection.Records service bound served written submitted)
    (outlet : other.outlet = connection.outlet)
    (sameSubmitted : other.submitted = connection.submitted)
    (completed : other.completed = connection.completed) :
    other.Records service bound served written submitted := by
  constructor
  · rw [outlet, records.limit]
  · rw [outlet, records.wire]
  · exact records.whole
  · rw [sameSubmitted, records.submitted]
  · rw [completed, records.told]

/-- The peer has taken everything as long as it has taken every response whole. -/
theorem Records.fits (records : connection.Records service bound served served submitted) :
    Outlet.Fits connection.outlet.bound connection.outlet.wire := by
  rw [records.limit, records.wire, Outlet.taken_of_fits records.whole]
  exact records.whole

theorem HasRead.of_same (read : connection.HasRead service reader given goesOn)
    (requests : other.requests = connection.requests) (sameReader : other.reader = connection.reader) :
    other.HasRead service reader given goesOn := by
  constructor
  · rw [requests, read.count]
  · rw [sameReader, read.after]
  · rw [sameReader, read.rest]

theorem HasRead.isPrefix (read : connection.HasRead service reader given goesOn) :
    given.map Context.request <+: (reader.session service.limits).requests := by
  rw [read.rest]
  exact List.prefix_append _ _

end Connection

theorem Reader.afterCalls_succ (limits : Limits) (calls : Nat) (reader : Reader) :
    reader.afterCalls limits (calls + 1) = ((reader.afterCalls limits calls).readRequest limits).2 := by
  induction calls generalizing reader with
  | zero =>
      rfl
  | succ calls inductionHypothesis =>
      exact inductionHypothesis _

namespace Connection

variable {service : Service} {connection : Connection} {bound : Option WriteBound}
  {reader : Reader} {served : List Context}

/-! ## Steps -/

theorem progress_read (records : connection.Records service bound served served served)
    (read : connection.HasRead service reader served true) :
    (connection.read service).Progress service bound reader := by
  obtain ⟨outlet, submitted, completed⟩ := read_keeps service connection
  have kept := records.of_same outlet submitted completed
  have rest := read.rest
  rw [Reader.sessionAfter, if_pos rfl] at rest
  -- The session is unrolled by one request, or ends with the failure.
  rcases reading : connection.reader.readRequest service.limits with ⟨failure | request, after⟩
  · obtain ⟨stops, requests⟩ := read_of_error reading
    rw [Reader.session_of_error reading] at rest
    refine .stopping stops (.complete kept (requests.trans read.count) ?_)
    rw [rest]
    exact List.append_nil _
  · obtain ⟨given, rfl, phase, goneOn, requests⟩ := read_of_ok reading
    rw [Reader.session_of_ok reading, Session.follow_follow] at rest
    refine .dispatching phase kept ⟨?_, ?_, ?_⟩ rfl
    · rw [requests, read.count, List.length_append, List.length_singleton]
    · rw [goneOn, List.length_append, List.length_singleton, Reader.afterCalls_succ, ← read.after,
        reading]
    · rw [goneOn, List.map_append]
      exact rest

theorem progress_dispatch {given : Context} {keepAlive : Bool}
    (records : connection.Records service bound served served served)
    (read : connection.HasRead service reader (served ++ [given]) keepAlive)
    (asks : keepAlive = given.request.fields.askKeepAlive) :
    (connection.dispatch service given keepAlive).Progress service bound reader := by
  obtain ⟨sameReader, requests, outlet, submitted, completed⟩ :=
    dispatch_keeps service connection given keepAlive
  have submits : (connection.dispatch service given keepAlive).Records service bound served served
      (served ++ [given]) := by
    constructor
    · rw [outlet, records.limit]
    · rw [outlet, records.wire]
    · exact records.whole
    · rw [submitted, records.submitted]
    · rw [completed, records.told]
  have goneOn := read.of_same requests sameReader
  rcases executed : service.pipeline.execute given with fault | ⟨answer, context⟩
  · refine .stopping (.inr ?_) (.failed executed submits goneOn)
    rw [dispatch, executed]
    rfl
  · refine .writing ?_ submits goneOn asks executed
    rw [dispatch, executed]

theorem progress_write {given context : Context} {answer : Option Response} {keepAlive : Bool}
    (records : connection.Records service bound served served (served ++ [given]))
    (read : connection.HasRead service reader (served ++ [given]) keepAlive)
    (asks : keepAlive = given.request.fields.askKeepAlive)
    (executed : service.pipeline.execute given = .ok (answer, context)) :
    (connection.write service context (answer.getD .notFound) keepAlive).Progress service bound
      reader := by
  have answered : service.answer? given =
      some ((answer.getD .notFound).withKeepAlive keepAlive, context) := by
    simp only [Service.answer?, executed, asks]
  have all : (served ++ [given]).flatMap service.octets = connection.outlet.wire ++
      ((answer.getD .notFound).withKeepAlive keepAlive).encode context.request.asksHeadOnly := by
    rw [List.flatMap_append, List.flatMap_singleton, records.wire, Outlet.taken_of_fits records.whole,
      Service.octets, answered]
  -- Only here the peer matters: the response ends in front of the point where it stops, or behind.
  by_cases fits : Outlet.Fits bound ((served ++ [given]).flatMap service.octets)
  · obtain ⟨phase, sameReader, requests, outlet, submitted, completed⟩ :=
      write_of_fits service connection context (answer.getD .notFound) keepAlive all
        (by rw [records.limit]; exact fits)
    have told : (connection.write service context (answer.getD .notFound) keepAlive).Records
        service bound (served ++ [given]) (served ++ [given]) (served ++ [given]) := by
      constructor
      · rw [outlet, records.limit]
      · rw [outlet, Outlet.taken_of_fits fits]
      · exact fits
      · rw [submitted, records.submitted]
      · rw [completed, List.map_append, records.told]
        split
        · rw [List.map_append, List.map_singleton, List.map_singleton, Service.report?, answered]
          rfl
        · rfl
    have goneOn := read.of_same requests sameReader
    cases keepAlive with
    | true =>
        exact .reading phase told goneOn
    | false =>
        refine .stopping (.inl phase) (.complete told goneOn.count ?_)
        rw [goneOn.rest]
        exact List.append_nil _
  · obtain ⟨phase, sameReader, requests, outlet, submitted, completed⟩ :=
      write_of_not_fits service connection context (answer.getD .notFound) keepAlive all records.fits
        (by rw [records.limit]; exact fits)
    refine .stopping (.inl phase) (.cut (.inl phase) ?_ (read.of_same requests sameReader) fits)
    constructor
    · rw [outlet, records.limit]
    · rw [outlet, records.limit]
    · exact records.whole
    · rw [submitted, records.submitted]
    · rw [completed, records.told]

theorem ending_close (ending : connection.Ending service bound reader) :
    (connection.close service).Ending service bound reader := by
  have submitted : (connection.close service).submitted = connection.submitted :=
    (notes_log _ _ _ _ _).submitted
  have completed : (connection.close service).completed = connection.completed :=
    completed_log _ _ _ _ _
  cases ending with
  | complete records count requests =>
      exact .complete (records.of_same rfl submitted completed) count requests
  | cut phase records read short =>
      exact .cut (.inr rfl) (records.of_same rfl submitted completed) (read.of_same rfl rfl) short
  | failed fails records read =>
      exact .failed fails (records.of_same rfl submitted completed) (read.of_same rfl rfl)

theorem progress_step (progress : connection.Progress service bound reader) :
    (connection.step service).Progress service bound reader := by
  cases progress with
  | reading phase records read =>
      rw [step, phase]
      exact progress_read records read
  | dispatching phase records read asks =>
      rw [step, phase]
      exact progress_dispatch records read asks
  | writing phase records read asks executed =>
      rw [step, phase]
      exact progress_write records read asks executed
  | stopping phase ending =>
      rcases phase with closing | ended
      · rw [step, closing]
        exact .stopping (.inr rfl) (ending_close ending)
      · rw [step_of_isOver ended]
        exact .stopping (.inr ended) ending

theorem progress_runUpTo (most : Nat) (progress : connection.Progress service bound reader) :
    (runUpTo service most connection).Progress service bound reader := by
  induction most with
  | zero =>
      exact progress
  | succ most inductionHypothesis =>
      rw [runUpTo_succ]
      exact progress_step inductionHypothesis

theorem progress_start (service : Service) (info : ConnectionInfo) (reader : Reader)
    (clock : Clock) (startedAt : Instant) (bound : Option WriteBound) :
    Progress service bound reader { info, reader, clock, startedAt, outlet := { bound } } := by
  have records : Records service bound [] [] []
      { info, reader, clock, startedAt, outlet := { bound } } := by
    constructor
    · rfl
    · cases bound with
      | none =>
          rfl
      | some limit =>
          exact List.take_nil.symm
    · intro limit _
      exact Nat.zero_le _
    · rfl
    · exact (ite_self _).symm
  exact .reading rfl records ⟨rfl, rfl, rfl⟩

theorem ending_run (service : Service) (info : ConnectionInfo) (reader : Reader) (clock : Clock)
    (startedAt : Instant) (bound : Option WriteBound) :
    let start : Connection := { info, reader, clock, startedAt, outlet := { bound } }
    (start.run service).Ending service bound reader := by
  intro start
  have ended := isOver_run service start
  cases progress_runUpTo start.stepBound (progress_start service info reader clock startedAt bound)
    with
  | reading phase | dispatching phase | writing phase =>
      simp only [run] at ended
      simp [start, phase, Phase.isOver] at ended
  | stopping _ ending =>
      exact ending

/-! ## Heads and bodies -/

theorem octets_of_failed {given : Context} {fault : Fault}
    (fails : service.pipeline.execute given = .error fault) :
    service.octets given = [] := by
  simp only [Service.octets, Service.answer?, fails]

/-- What is written to a request depends on what the pipeline has made of its method. -/
theorem octets_of_executed {given after : Context} {answer : Option Response}
    (executed : service.pipeline.execute given = .ok (answer, after)) :
    let response := (answer.getD .notFound).withKeepAlive given.request.fields.askKeepAlive
    (after.request.method = Request.headMethod → service.octets given = response.encodeHead) ∧
      (after.request.method ≠ Request.headMethod → response.status.allowsBody = true →
        service.octets given = response.encodeHead ++ response.body) := by
  intro response
  have octets : service.octets given = response.encode after.request.asksHeadOnly := by
    simp only [Service.octets, Service.answer?, executed]
    rfl
  constructor
  · intro isHead
    have headOnly : after.request.asksHeadOnly = true := beq_iff_eq.mpr isHead
    rw [octets, Response.encode, Response.writesBody, headOnly]
    exact List.append_nil _
  · intro isOther allowed
    have whole : after.request.asksHeadOnly = false := beq_eq_false_iff_ne.mpr isOther
    rw [octets, Response.encode, Response.writesBody, whole, allowed]
    rfl

/-- Whatever a peer sends, whatever the pipeline does with it and wherever the peer stops taking
octets: on the wire is what is written to the requests one after the other, up to that point. It is
nothing where the pipeline fails. Else it is exactly the head of the response if the request asks
for the head only as the pipeline has left it, and the head and the whole body if it asks for more
and the response may have a body. The same holds of the request as it was sent if the pipeline does
not change which of the two it is. -/
theorem run_writes_heads (service : Service) (info : ConnectionInfo) (reader : Reader)
    (clock : Clock) (startedAt : Instant) (bound : Option WriteBound) :
    let start : Connection := { info, reader, clock, startedAt, outlet := { bound } }
    let final := start.run service
    final.submitted.map Context.request <+: (reader.session service.limits).requests ∧
      final.requests = final.submitted.length ∧
      final.outlet.wire = Outlet.taken bound (final.submitted.flatMap service.octets) ∧
      ∀ given ∈ final.submitted,
        (∀ fault, service.pipeline.execute given = .error fault → service.octets given = []) ∧
        ∀ answer after, service.pipeline.execute given = .ok (answer, after) →
          let response := (answer.getD .notFound).withKeepAlive given.request.fields.askKeepAlive
          ((after.request.method = Request.headMethod →
              service.octets given = response.encodeHead) ∧
            (after.request.method ≠ Request.headMethod → response.status.allowsBody = true →
              service.octets given = response.encodeHead ++ response.body)) ∧
          ((after.request.method = Request.headMethod ↔
              given.request.method = Request.headMethod) →
            (given.request.method = Request.headMethod →
              service.octets given = response.encodeHead) ∧
            (given.request.method ≠ Request.headMethod → response.status.allowsBody = true →
              service.octets given = response.encodeHead ++ response.body)) := by
  intro start final
  have written : final.submitted.map Context.request <+:
        (reader.session service.limits).requests ∧
      final.requests = final.submitted.length ∧
      final.outlet.wire = Outlet.taken bound (final.submitted.flatMap service.octets) := by
    cases ending_run service info reader clock startedAt bound with
    | complete records count requests =>
        rw [records.submitted, requests]
        exact ⟨List.prefix_rfl, count, records.wire⟩
    | cut phase records read short =>
        rw [records.submitted]
        exact ⟨read.isPrefix, read.count, records.wire⟩
    | failed fails records read =>
        rw [records.submitted, List.flatMap_append, List.flatMap_singleton, octets_of_failed fails,
          List.append_nil]
        exact ⟨read.isPrefix, read.count, records.wire⟩
  obtain ⟨front, count, wire⟩ := written
  refine ⟨front, count, wire, fun given _ => ⟨fun fault => octets_of_failed, ?_⟩⟩
  intro answer after executed response
  refine ⟨octets_of_executed executed, fun sameForm => ?_⟩
  rw [← sameForm, ne_eq, ← sameForm]
  exact octets_of_executed executed

/-- A request for the head only and another one, whose fields and bodies the pipeline rewrites. -/
theorem run_writes_heads_of_rewritten_fields :
    let hello := Response.text .ok (Bytes.ascii "hello")
    let rewrite (context : Context) : Context :=
      { context with request := { context.request with
        fields := context.request.fields.insert .connection Response.closeValue
        body := Bytes.ascii "HEAD" } }
    let service : Service :=
      { pipeline := { execute := fun context => .ok (some hello, rewrite context) } }
    let reader : Reader :=
      { buffer := { data := [], capacity := 64 }
        stream := [.octets (Bytes.ascii "HEAD /a HTTP/1.1\r\nConnection: keep-alive\r\n\r\nGET /b"),
          .octets (Bytes.ascii " HTTP/1.1\r\n\r\n")] }
    let address : SocketAddress := .short ⟨127, 0, 0, 1⟩ 8080
    let info : ConnectionInfo := { id := ⟨1⟩, peer := address, listener := address }
    let start : Connection := { info, reader }
    (start.run service).outlet.wire = (hello.withKeepAlive true).encodeHead ++
      ((hello.withKeepAlive false).encodeHead ++ hello.body) := by
  intro hello rewrite service reader address info start
  obtain ⟨-, -, wire, replies⟩ := run_writes_heads service info reader {} 0 none
  have given : (start.run service).submitted.map (fun given =>
      (given.request.method, given.request.fields.askKeepAlive)) =
        [(Request.headMethod, true), (Bytes.ascii "GET", false)] := by
    decide +kernel
  obtain ⟨first, others, submitted, isFirst, behind⟩ := List.map_eq_cons_iff.mp given
  obtain ⟨second, rest, rfl, isSecond, isRest⟩ := List.map_eq_cons_iff.mp behind
  obtain rfl := List.map_eq_nil_iff.mp isRest
  obtain ⟨firstMethod, firstAsks⟩ := Prod.mk.inj isFirst
  obtain ⟨secondMethod, secondAsks⟩ := Prod.mk.inj isSecond
  have ofFirst := ((replies first (by rw [submitted]; simp)).2 _ _ rfl).2 Iff.rfl |>.1 firstMethod
  have ofSecond := ((replies second (by rw [submitted]; simp)).2 _ _ rfl).2 Iff.rfl |>.2
    (by rw [secondMethod]; decide) rfl
  rw [wire, submitted, List.flatMap_cons, List.flatMap_singleton, ofFirst, ofSecond, firstAsks,
    secondAsks]
  rfl

/-- A request for the head only whose peer goes away before it has the whole head, and one whose
method the pipeline changes. -/
theorem head_requests_miss_their_heads :
    let hello := Response.text .ok (Bytes.ascii "hello")
    let change (context : Context) : Context :=
      { context with request := { context.request with method := Bytes.ascii "GET" } }
    let leaving : Service := { pipeline := { execute := fun context => .ok (hello, context) } }
    let changing : Service :=
      { pipeline := { execute := fun context => .ok (hello, change context) } }
    let reader : Reader :=
      { buffer := { data := [], capacity := 64 }
        stream := [.octets (Bytes.ascii "HEAD / HTTP/1.1\r\n\r\n")] }
    let address : SocketAddress := .short ⟨127, 0, 0, 1⟩ 8080
    let info : ConnectionInfo := { id := ⟨1⟩, peer := address, listener := address }
    let start : Connection := { info, reader }
    let cut : Connection := { start with outlet := { bound := some { room := 10 } } }
    let head := (hello.withKeepAlive false).encodeHead
    (cut.run leaving).submitted.map (fun given => given.request.method) = [Request.headMethod] ∧
      (cut.run leaving).outlet.wire = head.take 10 ∧ (cut.run leaving).outlet.wire ≠ head ∧
      (start.run changing).submitted.map (fun given => given.request.method) =
        [Request.headMethod] ∧
      (start.run changing).outlet.wire = head ++ Bytes.ascii "hello" := by
  decide +kernel

end Connection

end HttpServer
