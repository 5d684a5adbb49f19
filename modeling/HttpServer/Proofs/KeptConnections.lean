import HttpServer.Proofs.DeclaredLength
import HttpServer.Proofs.Exchanges

/-!
# Responses say whether their connection is kept

Before a response is written its connection field gets one value, whatever values it had, and no
other field is touched. So every head has one line that says whether the connection is kept, and the
connection does as that line says: the request, as it was read, decides both.
-/

namespace HttpServer

/-! ## Inserting a field -/

namespace Fields

variable {fields : Fields} {name other : FieldName}

/-- An inserted value is the only one of its name, and the values of no other name change. -/
theorem getAll_insert (fields : Fields) (name : FieldName) (value : FieldValue)
    (other : FieldName) :
    (fields.insert name value).getAll other =
      if name = other then [value] else fields.getAll other := by
  unfold insert
  split
  · rw [getAll_extend]
    rfl
  · rename_i present
    rw [getAll_modify]
    unfold getAll
    cases found : fields.entries.find? fun entry => entry.name == other with
    | none =>
        have differs : name ≠ other := by
          rintro rfl
          rw [List.find?_eq_none] at found
          exact present (List.any_eq_false.mpr found)
        rw [if_neg differs]
    | some field =>
        have sameName : field.name = other := by simpa using List.find?_some found
        simp only [sameName, eq_comm (a := other)]
        split
        · rfl
        · rfl

theorem lines_insert (fields : Fields) (name : FieldName) (value : FieldValue) :
    ((fields.insert name value).lines.filter fun line => line.1 != name) =
      fields.lines.filter fun line => line.1 != name := by
  have noneOf (field : Field) (same : field.name = name) :
      (field.lines.filter fun line => line.1 != name) = [] := by
    rw [List.filter_eq_nil_iff]
    intro line member
    obtain ⟨given, -, rfl⟩ := List.mem_map.mp member
    simp [same]
  unfold insert
  split
  · show ((fields.entries ++ [_]).flatMap Field.lines).filter _ = _
    rw [List.flatMap_append, List.filter_append, List.flatMap_singleton, noneOf _ rfl,
      List.append_nil]
    rfl
  · show ((fields.entries.map _).flatMap Field.lines).filter _ =
      (fields.entries.flatMap Field.lines).filter _
    induction fields.entries with
    | nil =>
        rfl
    | cons field others inductionHypothesis =>
        rw [List.map_cons, List.flatMap_cons, List.flatMap_cons, List.filter_append,
          List.filter_append, inductionHypothesis]
        by_cases same : field.name = name
        · rw [if_pos same, noneOf field same,
            noneOf { field with first := value, others := [] } same]
        · rw [if_neg same]

/-- Some element of some textual value of the connection field is the one that asks to keep the
connection, blanks around it and letter case aside. -/
def HasKeepAlive (fields : Fields) : Prop :=
  ∃ value ∈ fields.getAll .connection, ∃ text, value.textual? = some text ∧
    ∃ element ∈ Bytes.splitAtCommas text, element.trim.lowered = Bytes.ascii "keep-alive"

theorem askKeepAlive_iff : fields.askKeepAlive = true ↔ fields.HasKeepAlive := by
  have small : FieldValue.keepAlive.lowered = Bytes.ascii "keep-alive" := by decide
  unfold askKeepAlive HasKeepAlive
  rw [List.any_eq_true]
  refine exists_congr fun value => and_congr_right fun _ => ?_
  rw [List.any_eq_true, FieldValue.elements]
  cases value.textual? with
  | none =>
      simp
  | some text =>
      simp only [Option.some.injEq, exists_eq_left', List.mem_map, exists_exists_and_eq_and,
        Bytes.sameLetters, small, beq_iff_eq]
      exact exists_congr fun element => and_congr_right fun _ => eq_comm

end Fields

/-! ## Stamped responses -/

namespace Response

/-- The value that says whether a connection is kept. -/
def keepAliveText (keepAlive : Bool) : Bytes :=
  if keepAlive then Bytes.ascii "keep-alive" else Bytes.ascii "close"

/-- A stamped head says just once whether its connection is kept. -/
theorem valuesOf_connection (response : Response) (keepAlive : Bool) :
    Fields.valuesOf .connection (response.withKeepAlive keepAlive).headLines =
      [keepAliveText keepAlive] := by
  have added : Fields.valuesOf .connection
      (if (response.withKeepAlive keepAlive).needsLength then
        [(FieldName.contentLength.text, Numeral.decimal response.body.length)]
      else []) = [] := by
    split
    · rfl
    · rfl
  have inserted : (response.withKeepAlive keepAlive).fields.getAll .connection =
      [if keepAlive then keepAliveValue else closeValue] := by
    rw [withKeepAlive, Fields.getAll_insert, if_pos rfl]
  rw [headLines, Fields.valuesOf_append, valuesOf_fieldLines _ (by decide), inserted]
  refine (congrArg (_ ++ ·) added).trans ?_
  cases keepAlive with
  | true =>
      rfl
  | false =>
      rfl

end Response

/-! ## Writing and going on -/

namespace Connection

variable {service : Service} {reader : Reader}

theorem run_of_closing {start : Connection} {steps : Nat}
    (closes : (runUpTo service steps start).phase = .closing) :
    start.run service = (runUpTo service steps start).close service := by
  have next : runUpTo service (steps + 1) start = (runUpTo service steps start).close service := by
    rw [runUpTo_succ, step, closes]
  rw [← next]
  refine (runUpTo_eq_run ?_).symm
  rw [next]
  rfl

/-- A response that has got onto the wire whole is one that the peer takes whole. -/
theorem fits_of_whole {connection : Connection} {context : Context} {response : Response}
    {keepAlive : Bool} (before : Outlet.Fits connection.outlet.bound connection.outlet.wire)
    (whole : (connection.write service context response keepAlive).outlet.wire =
      connection.outlet.wire ++
        (response.withKeepAlive keepAlive).encode context.request.asksHeadOnly) :
    Outlet.Fits connection.outlet.bound (connection.outlet.wire ++
      (response.withKeepAlive keepAlive).encode context.request.asksHeadOnly) := by
  by_contra cut
  obtain ⟨-, -, -, outlet, -, -⟩ :=
    write_of_not_fits service connection context response keepAlive rfl before cut
  rw [outlet] at whole
  exact cut (Outlet.fits_of_taken whole)

/-- Whatever a peer sends and takes and whatever the pipeline does: the response that is written
next answers a request of the session. It is the pipeline's, and stamping it changes no line but
those of the connection field. If it is written whole, its head says just once whether the
connection is kept. It says so if and only if the request as it was read asks for it; then the next
thing the connection does is to read, and otherwise it is shut down with nothing read behind. -/
theorem step_keeps_announced (info : ConnectionInfo) (clock : Clock) (startedAt : Instant)
    (bound : Option WriteBound) (steps : Nat) {context : Context} {response : Response}
    {keepAlive : Bool}
    (writes : (runUpTo service steps
      { info, reader, clock, startedAt, outlet := { bound } }).phase =
        .writing context response keepAlive) :
    let start : Connection := { info, reader, clock, startedAt, outlet := { bound } }
    let current := runUpTo service steps start
    let stamped := response.withKeepAlive keepAlive
    let octets := stamped.encode context.request.asksHeadOnly
    ∃ given answer, current.submitted.getLast? = some given ∧
      (reader.session service.limits).requests[current.requests - 1]? = some given.request ∧
      service.pipeline.execute given = .ok (answer, context) ∧ response = answer.getD .notFound ∧
      (stamped.fields.lines.filter fun line => line.1 != .connection) =
        (response.fields.lines.filter fun line => line.1 != .connection) ∧
      ((current.step service).outlet.wire = current.outlet.wire ++ octets →
        ∃ lines rest, Received.headLines? octets = some (lines, rest) ∧
          (given.request.fields.HasKeepAlive →
            Fields.valuesOf .connection lines = [Bytes.ascii "keep-alive"] ∧
              (current.step service).phase = .reading) ∧
          (¬ given.request.fields.HasKeepAlive →
            Fields.valuesOf .connection lines = [Bytes.ascii "close"] ∧
              (current.step service).phase = .closing ∧
              start.run service = (current.step service).close service ∧
              (start.run service).reader = current.reader ∧
              (start.run service).phase = .closed)) := by
  intro start current stamped octets
  obtain ⟨served, given, answer, isAnswer, records, read, asks, executed⟩ :=
    (progress_runUpTo steps (progress_start service info reader clock startedAt bound)).of_writing
      writes
  have last : current.submitted.getLast? = some given := by
    rw [records.submitted]
    exact List.getLast?_concat
  have ofSession : (reader.session service.limits).requests[current.requests - 1]? =
      some given.request := by
    have place : current.requests - 1 = (served.map Context.request).length := by
      rw [read.count, List.length_append, List.length_map]
      rfl
    rw [read.rest, place, Session.follow, List.map_append, List.append_assoc,
      List.getElem?_append_right (Nat.le_refl _), Nat.sub_self]
    rfl
  refine ⟨given, answer, last, ofSession, executed, isAnswer, Fields.lines_insert _ _ _, ?_⟩
  intro whole
  have stepped : current.step service = current.write service context response keepAlive := by
    rw [step, writes]
  rw [stepped] at whole
  obtain ⟨phase, sameReader, -⟩ :=
    write_of_fits service current context response keepAlive rfl (fits_of_whole records.fits whole)
  rw [← stepped] at phase sameReader
  refine ⟨stamped.headLines, _, Response.headLines?_encode stamped _, ?_, ?_⟩
  · intro asked
    have keeps : keepAlive = true := asks.trans (Fields.askKeepAlive_iff.mpr asked)
    subst keeps
    exact ⟨Response.valuesOf_connection response true, phase⟩
  · intro unasked
    have closes : keepAlive = false := by
      rw [asks, ← Bool.not_eq_true]
      exact fun asked => unasked (Fields.askKeepAlive_iff.mp asked)
    subst closes
    have ended : start.run service = (current.step service).close service := by
      have next := runUpTo_succ service steps start
      rw [← next] at phase ⊢
      exact run_of_closing phase
    refine ⟨Response.valuesOf_connection response false, phase, ended, ?_, ?_⟩
    · rw [ended]
      exact sameReader
    · rw [ended]
      rfl

/-- A request that asks in its second connection field, and a pipeline that removes those of the
request and gives the response two of its own. -/
theorem step_keeps_announced_of_two_values :
    let fields := (Fields.empty.append .connection Response.closeValue).append .server
      Response.plainText
    let response : Response := { fields := fields.append .connection Response.closeValue }
    let clear (context : Context) : Context :=
      { context with request := { context.request with fields := .empty } }
    let service : Service :=
      { pipeline := { execute := fun context => .ok (some response, clear context) } }
    let reader : Reader :=
      { buffer := { data := [], capacity := 16 }
        stream := [.octets (Bytes.ascii "GET / HTTP/1.1\r\nConnection: TE\r\nHost: keep-alive\r\n"),
          .octets (Bytes.ascii "CONNECTION: Upgrade,\tKeep-Alive \r\n\r\n")] }
    let address : SocketAddress := .short ⟨127, 0, 0, 1⟩ 8080
    let info : ConnectionInfo := { id := ⟨1⟩, peer := address, listener := address }
    let start : Connection := { info, reader, outlet := { bound := some { room := 200 } } }
    let next := (runUpTo service 2 start).step service
    next.phase = .reading ∧
      ∃ lines rest, Received.headLines? next.outlet.wire = some (lines, rest) ∧
        Fields.valuesOf .connection lines = [Bytes.ascii "keep-alive"] := by
  intro fields response clear service reader address info start next
  have writing : (match (runUpTo service 2 start).phase with
      | .writing context answer keepAlive =>
        decide (next.outlet.wire =
          (answer.withKeepAlive keepAlive).encode context.request.asksHeadOnly)
      | _ => false) = true := by
    decide +kernel
  have empty : (runUpTo service 2 start).outlet.wire = [] := by decide +kernel
  have asks : (reader.session service.limits).requests.map
      (fun request => request.fields.askKeepAlive) = [true] := by
    decide +kernel
  cases phase : (runUpTo service 2 start).phase with
  | reading | dispatching | closing | closed | collapsed =>
      simp [phase] at writing
  | writing context answer keepAlive =>
      simp only [phase, decide_eq_true_eq] at writing
      obtain ⟨given, -, -, ofSession, -, -, -, kept⟩ :=
        step_keeps_announced info {} 0 (some { room := 200 }) 2 phase
      have asked : given.request.fields.HasKeepAlive := by
        have member := List.mem_map_of_mem (f := fun request : Request =>
          request.fields.askKeepAlive) (List.mem_of_getElem? ofSession)
        rw [asks, List.mem_singleton] at member
        exact Fields.askKeepAlive_iff.mp member
      obtain ⟨lines, rest, read, keeps, -⟩ := kept (by rw [empty]; exact writing)
      rw [writing]
      exact ⟨(keeps asked).2, lines, rest, read, (keeps asked).1⟩

end Connection

end HttpServer
