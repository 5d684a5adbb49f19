import HttpServer.Connection
import HttpServer.Proofs.Session

/-!
# What a connection serves

A connection steps through its phases; what it serves is the session of its reader. Between the two
stands an account of the connection in each phase: the requests already given to the pipeline, the
replies already on the wire, and what the reader will still give are together the whole session.
-/

namespace HttpServer

/-! ## Pipelines and replies -/

/-- The pipeline gives a result for every request and leaves the method of the request alone. -/
def Pipeline.Dependable (pipeline : Pipeline) : Prop :=
  ∀ context, ∃ answer after, pipeline.execute context = .ok (answer, after) ∧
    after.request.method = context.request.method

/-- The octets that answer a request: those of the answer the pipeline finds, or of the response
that stands for none, which says whether the request asked to keep the connection. -/
def Service.reply (service : Service) (context : Context) : Bytes :=
  match service.pipeline.execute context with
  | .error _ => []
  | .ok (answer, _) =>
    ((answer.getD .notFound).withKeepAlive context.request.fields.askKeepAlive).encode
      context.request.asksHeadOnly

/-- A peer that takes everything gets exactly the octets of a response. -/
theorem Response.write_of_unbounded (response : Response) (headOnly : Bool) {outlet : Outlet}
    (unbounded : outlet.bound = none) :
    response.write headOnly outlet =
      (.ok (), { outlet with wire := outlet.wire ++ response.encode headOnly }) := by
  simp only [write, Outlet.write, unbounded, encode]
  by_cases writes : response.writesBody headOnly = true
  · simp only [writes, if_true, List.append_assoc]
  · simp only [writes, Bool.false_eq_true, if_false, List.append_nil]

namespace Connection

variable {service : Service} {connection noted : Connection}

/-! ## Events that are no submissions -/

/-- The connections differ in events only, and in none that gives a request to the pipeline. -/
structure Notes (connection noted : Connection) : Prop where
  same : ∃ events, noted = { connection with events }
  submitted : noted.submitted = connection.submitted

theorem Notes.trans {other : Connection} (first : Notes connection noted)
    (second : Notes noted other) :
    Notes connection other := by
  obtain ⟨events, rfl⟩ := first.same
  obtain ⟨eventsToo, rfl⟩ := second.same
  exact ⟨⟨eventsToo, rfl⟩, second.submitted.trans first.submitted⟩

theorem submitted_emit (connection : Connection) (context : Context) :
    (connection.emit (.submitted context)).submitted = connection.submitted ++ [context] := by
  simp [submitted, emit]

theorem notes_counted (connection : Connection) (metric : Metric) :
    Notes connection (connection.emit (.counted metric)) :=
  ⟨⟨_, rfl⟩, by simp [submitted, emit]⟩

theorem notes_completed (connection : Connection) (context : Context) :
    Notes connection (connection.emit (.completed context)) :=
  ⟨⟨_, rfl⟩, by simp [submitted, emit]⟩

theorem notes_log (connection : Connection) (service : Service) (level : LogLevel)
    (message : String) (fields : List LogField) :
    Notes connection (connection.log service level message fields) :=
  ⟨⟨_, rfl⟩, by simp [submitted, log, emit]⟩

theorem notes_complete (connection : Connection) (service : Service) (context : Context) :
    Notes connection (connection.complete service context) := by
  unfold complete
  cases service.pipeline.observer with
  | none =>
      exact ⟨⟨_, rfl⟩, rfl⟩
  | some observer =>
      have counts (metrics : List Metric) (start : Connection) :
          Notes start (metrics.foldl (fun connection metric => connection.emit (.counted metric))
            start) := by
        induction metrics generalizing start with
        | nil =>
            exact ⟨⟨_, rfl⟩, rfl⟩
        | cons metric others inductionHypothesis =>
            exact (notes_counted start metric).trans (inductionHypothesis _)
      exact (notes_completed connection context).trans (counts _ _)

/-! ## The account of a connection -/

/-- The replies to `answered` are on the wire and nothing else is, and the pipeline has been given
`submitted`, in sequence. -/
structure Account (service : Service) (info : ConnectionInfo) (answered submitted : List Context)
    (connection : Connection) : Prop where
  sameInfo : connection.info = info
  unbounded : connection.outlet.bound = none
  wire : connection.outlet.wire = answered.flatMap service.reply
  given : connection.submitted = submitted
  sequences : submitted.map Context.sequence = List.range' 1 submitted.length
  infos : ∀ context ∈ submitted, context.connection = info

/-- The phase in which a session leaves its connection. -/
def lastPhase (session : Session) : Phase :=
  match session.failure with
  | some (.fault fault) => .collapsed fault
  | _ => .closed

/-- In every phase, the requests given to the pipeline and those that the reader will still give
are the whole session, and all of the former are answered but one that is on its way. -/
inductive Accounted (service : Service) (info : ConnectionInfo) (whole : Session) :
    Connection → Prop
  | reading {connection : Connection} {answered : List Context}
      (phase : connection.phase = .reading)
      (account : connection.Account service info answered answered)
      (count : connection.requests = answered.length)
      (rest : whole = (connection.reader.session service.limits).follow
        (answered.map Context.request)) :
      Accounted service info whole connection
  | dispatching {connection : Connection} {answered : List Context} {context : Context}
      {keepAlive : Bool} (phase : connection.phase = .dispatching context keepAlive)
      (account : connection.Account service info answered answered)
      (count : connection.requests = answered.length + 1)
      (sequence : context.sequence = answered.length + 1)
      (ofConnection : context.connection = info)
      (asks : keepAlive = context.request.fields.askKeepAlive)
      (rest : whole = (connection.reader.sessionAfter service.limits keepAlive).follow
        ((answered ++ [context]).map Context.request)) :
      Accounted service info whole connection
  | writing {connection : Connection} {answered : List Context} {given context : Context}
      {response : Response} {keepAlive : Bool}
      (phase : connection.phase = .writing context response keepAlive)
      (account : connection.Account service info answered (answered ++ [given]))
      (count : connection.requests = answered.length + 1)
      (reply : service.reply given =
        (response.withKeepAlive keepAlive).encode context.request.asksHeadOnly)
      (rest : whole = (connection.reader.sessionAfter service.limits keepAlive).follow
        ((answered ++ [given]).map Context.request)) :
      Accounted service info whole connection
  | ending {connection : Connection} {answered : List Context}
      (phase : connection.phase = .closing ∧ lastPhase whole = .closed ∨
        connection.phase = lastPhase whole)
      (account : connection.Account service info answered answered)
      (count : connection.requests = answered.length)
      (requests : whole.requests = answered.map Context.request)
      (reader : whole.reader = connection.reader) :
      Accounted service info whole connection

variable {info : ConnectionInfo} {whole : Session} {answered submitted : List Context}

/-- The account speaks of nothing but the events, the wire and what the connection is. -/
theorem Account.of_same {other : Connection}
    (account : connection.Account service info answered submitted)
    (sameInfo : other.info = connection.info) (sameOutlet : other.outlet = connection.outlet)
    (sameSubmitted : other.submitted = connection.submitted) :
    other.Account service info answered submitted := by
  constructor
  · rw [sameInfo, account.sameInfo]
  · rw [sameOutlet, account.unbounded]
  · rw [sameOutlet, account.wire]
  · rw [sameSubmitted, account.given]
  · exact account.sequences
  · exact account.infos

/-! ## Reading -/

/-- After a read that gave no request the connection closes, with an entry in the log. -/
theorem refuse_eq (connection : Connection) (service : Service) (error : DecodeError) :
    ∃ noted, Notes connection noted ∧
      connection.refuse service error = { noted with phase := .closing } := by
  unfold refuse
  cases error.meansPeerLeft with
  | true =>
      exact ⟨_, notes_log _ _ _ _ _, rfl⟩
  | false =>
      exact ⟨_, notes_log _ _ _ _ _, rfl⟩

theorem accounted_read
    (account : connection.Account service info answered answered)
    (count : connection.requests = answered.length)
    (rest : whole = (connection.reader.session service.limits).follow
      (answered.map Context.request)) :
    Accounted service info whole (connection.read service) := by
  unfold read
  rcases reading : connection.reader.readRequest service.limits with
    ⟨(error | fault) | request, after⟩
  · rw [Reader.session_of_error reading] at rest
    obtain ⟨noted, notes, refused⟩ := refuse_eq
      { connection with
        clock := if connection.requests = 0 then connection.clock else connection.clock.tick
        reader := after } service error
    obtain ⟨events, rfl⟩ := notes.same
    simp only [refused]
    refine .ending (.inl ⟨rfl, ?_⟩) ?_ count ?_ ?_
    · rw [rest]
      rfl
    · exact account.of_same rfl rfl notes.submitted
    · rw [rest]
      exact List.append_nil _
    · rw [rest]
      rfl
  · rw [Reader.session_of_error reading] at rest
    refine .ending (.inr ?_) ?_ count ?_ ?_
    · rw [rest]
      rfl
    · exact account.of_same rfl rfl rfl
    · rw [rest]
      exact List.append_nil _
    · rw [rest]
      rfl
  · rw [Reader.session_of_ok reading, Session.follow_follow] at rest
    refine .dispatching rfl (account.of_same rfl rfl rfl) ?_ ?_ ?_ rfl ?_
    · exact congrArg (· + 1) count
    · exact congrArg (· + 1) count
    · exact account.sameInfo
    · rw [List.map_append]
      exact rest

/-! ## Answering -/

theorem accounted_dispatch {context : Context} {keepAlive : Bool}
    (dependable : service.pipeline.Dependable)
    (account : connection.Account service info answered answered)
    (count : connection.requests = answered.length + 1)
    (sequence : context.sequence = answered.length + 1)
    (ofConnection : context.connection = info)
    (asks : keepAlive = context.request.fields.askKeepAlive)
    (rest : whole = (connection.reader.sessionAfter service.limits keepAlive).follow
      ((answered ++ [context]).map Context.request)) :
    Accounted service info whole (connection.dispatch service context keepAlive) := by
  obtain ⟨answer, after, executed, sameMethod⟩ := dependable context
  have submits : (connection.emit (.submitted context)).submitted = answered ++ [context] := by
    rw [submitted_emit, account.given]
  have given : Account service info answered (answered ++ [context])
      (connection.emit (.submitted context)) := by
    constructor
    · exact account.sameInfo
    · exact account.unbounded
    · exact account.wire
    · exact submits
    · rw [List.map_append, account.sequences, List.length_append, List.map_singleton, sequence,
        List.length_singleton, List.range'_concat, Nat.one_mul, Nat.add_comm]
    · intro other member
      rcases List.mem_append.mp member with earlier | new
      · exact account.infos other earlier
      · rw [List.mem_singleton.mp new, ofConnection]
  unfold dispatch
  simp only [executed]
  refine .writing rfl (given.of_same rfl rfl rfl) count ?_ rest
  have sameForm : after.request.asksHeadOnly = context.request.asksHeadOnly := by
    simp only [Request.asksHeadOnly, sameMethod]
  simp only [Service.reply, executed, asks, sameForm]

/-! ## Writing -/

/-- After a response has been written the connection goes on with what it was asked for. -/
theorem accounted_afterWrite (context : Context) (response : Response) {keepAlive : Bool}
    (account : connection.Account service info answered answered)
    (count : connection.requests = answered.length)
    (rest : whole = (connection.reader.sessionAfter service.limits keepAlive).follow
      (answered.map Context.request)) :
    Accounted service info whole
      (connection.afterWrite service context response keepAlive (.ok ())) := by
  have notes : Notes connection
      ((connection.logServed service context response).complete service context) :=
    (notes_log _ _ _ _ _).trans (notes_complete _ _ _)
  unfold afterWrite
  simp only
  generalize (connection.logServed service context response).complete service context = noted
    at notes
  obtain ⟨events, rfl⟩ := notes.same
  cases keepAlive with
  | true =>
      exact .reading rfl (account.of_same rfl rfl notes.submitted) count rest
  | false =>
      refine .ending (.inl ⟨rfl, ?_⟩) (account.of_same rfl rfl notes.submitted) count ?_ ?_
      · rw [rest]
        rfl
      · rw [rest]
        exact List.append_nil _
      · rw [rest]
        rfl

theorem accounted_write {given context : Context} {response : Response} {keepAlive : Bool}
    (account : connection.Account service info answered (answered ++ [given]))
    (count : connection.requests = answered.length + 1)
    (reply : service.reply given =
      (response.withKeepAlive keepAlive).encode context.request.asksHeadOnly)
    (rest : whole = (connection.reader.sessionAfter service.limits keepAlive).follow
      ((answered ++ [given]).map Context.request)) :
    Accounted service info whole (connection.write service context response keepAlive) := by
  have written := Response.write_of_unbounded (response.withKeepAlive keepAlive)
    (context.startStage Timeline.writeStage).request.asksHeadOnly account.unbounded
  have sameForm : (context.startStage Timeline.writeStage).request.asksHeadOnly =
      context.request.asksHeadOnly := rfl
  have wired : Account service info (answered ++ [given]) (answered ++ [given])
      { connection with outlet :=
        { connection.outlet with wire := connection.outlet.wire ++ service.reply given } } := by
    constructor
    · exact account.sameInfo
    · exact account.unbounded
    · rw [List.flatMap_append, List.flatMap_singleton, ← account.wire]
    · exact account.given
    · exact account.sequences
    · exact account.infos
  unfold write
  simp only [written]
  rw [sameForm, ← reply]
  apply accounted_afterWrite
  · exact wired.of_same rfl rfl (notes_counted _ _).submitted
  · rw [List.length_append]
    exact count
  · exact rest

/-! ## Running -/

theorem isOver_lastPhase (session : Session) :
    (lastPhase session).isOver = true := by
  unfold lastPhase
  split
  · rfl
  · rfl

theorem step_of_isOver (ended : connection.phase.isOver = true) :
    connection.step service = connection := by
  unfold step
  cases phase : connection.phase with
  | closed | collapsed =>
      rfl
  | reading | dispatching | writing | closing =>
      simp [phase, Phase.isOver] at ended

theorem accounted_step (dependable : service.pipeline.Dependable)
    (accounted : Accounted service info whole connection) :
    Accounted service info whole (connection.step service) := by
  cases accounted with
  | reading phase account count rest =>
      rw [step, phase]
      exact accounted_read account count rest
  | dispatching phase account count sequence ofConnection asks rest =>
      rw [step, phase]
      exact accounted_dispatch dependable account count sequence ofConnection asks rest
  | writing phase account count reply rest =>
      rw [step, phase]
      exact accounted_write account count reply rest
  | ending phase account count requests reader =>
      rcases phase with ⟨phase, closes⟩ | phase
      · rw [step, phase]
        exact .ending (.inr closes.symm) (account.of_same rfl rfl (notes_log _ _ _ _ _).submitted)
          count requests reader
      · have ended : connection.phase.isOver = true := by rw [phase, isOver_lastPhase]
        rw [step_of_isOver ended]
        exact .ending (.inr phase) account count requests reader

theorem accounted_runUpTo (dependable : service.pipeline.Dependable) (most : Nat)
    (accounted : Accounted service info whole connection) :
    Accounted service info whole (runUpTo service most connection) := by
  induction most generalizing connection with
  | zero =>
      exact accounted
  | succ most inductionHypothesis =>
      rw [runUpTo]
      split
      · exact accounted
      · exact inductionHypothesis (accounted_step dependable accounted)

/-! ## Coming to an end -/

/-- How many steps are left at most. A request takes three, and at least one octet. -/
def stepsLeft (connection : Connection) : Nat :=
  match connection.phase with
  | .reading => 3 * connection.reader.unused.length + 2
  | .dispatching _ _ => 3 * connection.reader.unused.length + 4
  | .writing _ _ _ => 3 * connection.reader.unused.length + 3
  | .closing => 1
  | .closed | .collapsed _ => 0

theorem stepsLeft_read_lt (phase : connection.phase = .reading) :
    (connection.read service).stepsLeft < connection.stepsLeft := by
  have before : connection.stepsLeft = 3 * connection.reader.unused.length + 2 := by
    simp only [stepsLeft, phase]
  rw [before]
  unfold read
  rcases reading : connection.reader.readRequest service.limits with
    ⟨(error | fault) | request, after⟩
  · obtain ⟨noted, notes, refused⟩ := refuse_eq
      { connection with
        clock := if connection.requests = 0 then connection.clock else connection.clock.tick
        reader := after } service error
    simp only [refused, stepsLeft]
    omega
  · simp only [stepsLeft]
    omega
  · have fewer := Reader.unused_lt_of_readRequest_ok reading
    simp only [stepsLeft, accept]
    omega

theorem stepsLeft_dispatch_lt {context : Context} {keepAlive : Bool}
    (phase : connection.phase = .dispatching context keepAlive) :
    (connection.dispatch service context keepAlive).stepsLeft < connection.stepsLeft := by
  have before : connection.stepsLeft = 3 * connection.reader.unused.length + 4 := by
    simp only [stepsLeft, phase]
  rw [before]
  unfold dispatch
  rcases executed : service.pipeline.execute context with fault | ⟨answer, after⟩
  · simp only [stepsLeft]
    omega
  · simp only [stepsLeft, emit]
    omega

theorem stepsLeft_afterWrite_le (connection : Connection) (service : Service)
    (context : Context) (response : Response) (keepAlive : Bool)
    (outcome : Except WriteFailure Unit) :
    (connection.afterWrite service context response keepAlive outcome).stepsLeft ≤
      3 * connection.reader.unused.length + 2 := by
  unfold afterWrite
  cases outcome with
  | error failure =>
      simp only [stepsLeft]
      omega
  | ok =>
      obtain ⟨events, same⟩ := (notes_log connection service .debug "Request served" _).trans
        (notes_complete (connection.logServed service context response) service context) |>.same
      simp only [same]
      cases keepAlive with
      | true =>
          exact Nat.le_refl _
      | false =>
          show 1 ≤ _
          omega

theorem stepsLeft_write_lt {context : Context} {response : Response} {keepAlive : Bool}
    (phase : connection.phase = .writing context response keepAlive) :
    (connection.write service context response keepAlive).stepsLeft < connection.stepsLeft := by
  have before : connection.stepsLeft = 3 * connection.reader.unused.length + 3 := by
    simp only [stepsLeft, phase]
  rw [before]
  exact Nat.lt_succ_of_le (stepsLeft_afterWrite_le _ _ _ _ _ _)

theorem stepsLeft_step_lt (service : Service) (going : connection.phase.isOver = false) :
    (connection.step service).stepsLeft < connection.stepsLeft := by
  cases phase : connection.phase with
  | reading =>
      rw [step, phase]
      exact stepsLeft_read_lt phase
  | dispatching context keepAlive =>
      rw [step, phase]
      exact stepsLeft_dispatch_lt phase
  | writing context response keepAlive =>
      rw [step, phase]
      exact stepsLeft_write_lt phase
  | closing =>
      rw [step, phase, stepsLeft, stepsLeft, phase]
      exact Nat.zero_lt_one
  | closed | collapsed =>
      simp [phase, Phase.isOver] at going

/-- With enough steps a connection comes to its end. -/
theorem isOver_runUpTo (service : Service) {most : Nat} (enough : connection.stepsLeft ≤ most) :
    (runUpTo service most connection).phase.isOver = true := by
  induction most generalizing connection with
  | zero =>
      show connection.phase.isOver = true
      by_contra going
      have fewer := stepsLeft_step_lt service (by simpa using going)
      omega
  | succ most inductionHypothesis =>
      rw [runUpTo]
      by_cases ended : connection.phase.isOver = true
      · rw [if_pos ended]
        exact ended
      · rw [if_neg ended]
        have fewer := stepsLeft_step_lt service (by simpa using ended)
        exact inductionHypothesis (by omega)

theorem isOver_run (service : Service) (connection : Connection) :
    (connection.run service).phase.isOver = true := by
  apply isOver_runUpTo
  unfold stepsLeft stepBound
  split <;> omega

/-! ## What is served -/

theorem accounted_start (service : Service) (info : ConnectionInfo) (reader : Reader)
    (clock : Clock) (startedAt : Instant) :
    Accounted service info (reader.session service.limits) { info, reader, clock, startedAt } := by
  have account : Account service info [] [] { info, reader, clock, startedAt } := by
    constructor
    · rfl
    · rfl
    · rfl
    · rfl
    · rfl
    · intro context member
      exact absurd member List.not_mem_nil
  exact .reading rfl account rfl rfl

theorem Accounted.ended (accounted : Accounted service info whole connection)
    (ended : connection.phase.isOver = true) :
    connection.phase = lastPhase whole ∧
      connection.Account service info connection.submitted connection.submitted ∧
      whole.requests = connection.submitted.map Context.request ∧
      whole.reader = connection.reader := by
  cases accounted with
  | reading phase | dispatching phase | writing phase =>
      simp [phase, Phase.isOver] at ended
  | ending phase account count requests reader =>
      rcases phase with ⟨phase, -⟩ | phase
      · simp [phase, Phase.isOver] at ended
      · have given := account.given
        subst given
        exact ⟨phase, account, requests, reader⟩

/-- A connection about to read has answered what it has read, and nothing else is on the wire. -/
theorem Accounted.at_reading (accounted : Accounted service info whole connection)
    (reads : connection.phase = .reading) :
    connection.submitted.length = connection.requests ∧
      connection.submitted.map Context.request = whole.requests.take connection.requests ∧
      connection.outlet.wire = connection.submitted.flatMap service.reply := by
  cases accounted with
  | reading phase account count rest =>
      have given := account.given
      subst given
      refine ⟨count.symm, ?_, account.wire⟩
      rw [count, rest]
      simp [Session.follow]
  | dispatching phase | writing phase =>
      simp [phase] at reads
  | ending phase =>
      rcases phase with ⟨phase, -⟩ | phase
      · simp [phase] at reads
      · have ended := isOver_lastPhase whole
        rw [← phase, reads] at ended
        simp [Phase.isOver] at ended

/-- Whatever a peer that takes everything sends, in whatever reads: the pipeline is given exactly
the requests of the session, in sequence; the wire carries exactly the replies to them, in order;
and all earlier replies are on the wire whenever the next request is about to be read. -/
theorem run_serves_session {service : Service} (dependable : service.pipeline.Dependable)
    (info : ConnectionInfo) (reader : Reader) (clock : Clock) (startedAt : Instant) :
    let session := reader.session service.limits
    let start : Connection := { info, reader, clock, startedAt }
    let final := start.run service
    final.submitted.map Context.request = session.requests ∧
      final.submitted.map Context.sequence = List.range' 1 session.requests.length ∧
      (∀ context ∈ final.submitted, context.connection = info) ∧
      final.outlet.wire = final.submitted.flatMap service.reply ∧
      final.phase = lastPhase session ∧ final.reader = session.reader ∧
      ∀ steps, (runUpTo service steps start).phase = .reading →
        let current := runUpTo service steps start
        current.submitted.length = current.requests ∧
          current.submitted.map Context.request = session.requests.take current.requests ∧
          current.outlet.wire = current.submitted.flatMap service.reply := by
  intro session start final
  have accounted : Accounted service info session start :=
    accounted_start service info reader clock startedAt
  have accountedFinal : Accounted service info session final :=
    accounted_runUpTo dependable _ accounted
  obtain ⟨phase, account, requests, readerAfter⟩ := accountedFinal.ended (isOver_run service start)
  refine ⟨requests.symm, ?_, account.infos, account.wire, phase, readerAfter.symm, ?_⟩
  · rw [requests, List.length_map]
    exact account.sequences
  · intro steps reads
    exact (accounted_runUpTo dependable steps accounted).at_reading reads

/-- Three requests that arrive in two reads. The second asks for a head only and does not ask to
keep the connection, so that the third is not answered. -/
theorem run_serves_two_of_three :
    let service : Service := { pipeline := { execute := fun context => .ok (none, context) } }
    let reader : Reader :=
      { buffer := { data := [], capacity := 16 }
        stream :=
          [.octets (Bytes.ascii "GET /a HTTP/1.1\r\nConnection: keep-alive\r\n\r\nHEAD /"),
            .octets (Bytes.ascii "b HTTP/1.1\r\n\r\nGET /c HTTP/1.1\r\n\r\n")] }
    let listener : SocketAddress := .short ⟨127, 0, 0, 1⟩ 8080
    let info : ConnectionInfo := { id := ⟨1⟩, peer := .short ⟨127, 0, 0, 1⟩ 40000, listener }
    let start : Connection := { info, reader }
    (start.run service).submitted.map Context.sequence = [1, 2] ∧
      (start.run service).outlet.wire = Bytes.ascii ("HTTP/1.1 404 Not Found\r\n" ++
        "content-type: text/plain; charset=utf-8\r\nconnection: keep-alive\r\n" ++
        "content-length: 9\r\n\r\nNot Found" ++
        "HTTP/1.1 404 Not Found\r\n" ++
        "content-type: text/plain; charset=utf-8\r\nconnection: close\r\n" ++
        "content-length: 9\r\n\r\n") := by
  intro service reader listener info start
  have dependable : service.pipeline.Dependable := fun context => ⟨none, context, rfl, rfl⟩
  obtain ⟨-, sequences, -, wire, -⟩ := run_serves_session dependable info reader {} 0
  have two : (reader.session service.limits).requests.length = 2 := by decide +kernel
  rw [two] at sequences
  refine ⟨sequences, wire.trans ?_⟩
  decide +kernel

end Connection

end HttpServer
