import HttpServer.Proofs.Exchanges

/-!
# Writes that the peer breaks off

Two connections have the same peer, only that of one stops taking octets at some point. Both take
the same steps until a response does not fit in front of that point. Then the one closes, having
written what still fits, and what the other goes on to write lies behind the point. So the one has
written a front of what the other has, given its pipeline a front of the same requests, and told its
observer of those whose response it has written whole.
-/

namespace HttpServer

/-- The pipeline gives a result for every request. -/
def Pipeline.Returns (pipeline : Pipeline) : Prop :=
  ∀ context, ∃ answer after, pipeline.execute context = .ok (answer, after)

theorem Pipeline.Returns.not_failed {pipeline : Pipeline} (returns : pipeline.Returns)
    (given : Context) (fault : Fault) :
    pipeline.execute given ≠ .error fault := by
  obtain ⟨answer, after, returned⟩ := returns given
  rw [returned]
  exact fun same => nomatch same

namespace Connection

variable {service : Service} {free cut connection : Connection} {limit : WriteBound}

/-- The connection with a peer that takes octets up to a bound. -/
def upTo (connection : Connection) (limit : WriteBound) : Connection :=
  { connection with outlet := { connection.outlet with bound := some limit } }

/-! ## Steps with and without a bound -/

theorem refuse_upTo (service : Service) (connection : Connection) (limit : WriteBound)
    (error : DecodeError) :
    (connection.upTo limit).refuse service error = (connection.refuse service error).upTo limit := by
  unfold refuse
  cases error.meansPeerLeft with
  | true =>
      rfl
  | false =>
      rfl

theorem read_upTo (service : Service) (connection : Connection) (limit : WriteBound) :
    (connection.upTo limit).read service = (connection.read service).upTo limit := by
  unfold Connection.read upTo
  simp only
  rcases connection.reader.readRequest service.limits with ⟨(error | fault) | request, after⟩
  · exact refuse_upTo service { connection with
      clock := if connection.requests = 0 then connection.clock else connection.clock.tick
      reader := after } limit error
  · rfl
  · rfl

theorem dispatch_upTo (service : Service) (connection : Connection) (limit : WriteBound)
    (given : Context) (keepAlive : Bool) :
    (connection.upTo limit).dispatch service given keepAlive =
      (connection.dispatch service given keepAlive).upTo limit := by
  unfold dispatch
  cases service.pipeline.execute given with
  | error fault =>
      rfl
  | ok answered =>
      rfl

theorem foldl_counted_upTo (metrics : List Metric) (connection : Connection)
    (limit : WriteBound) :
    metrics.foldl (fun connection metric => connection.emit (.counted metric))
        (connection.upTo limit) =
      (metrics.foldl (fun connection metric => connection.emit (.counted metric))
        connection).upTo limit := by
  induction metrics generalizing connection with
  | nil =>
      rfl
  | cons metric others inductionHypothesis =>
      exact inductionHypothesis (connection.emit (.counted metric))

theorem complete_upTo (service : Service) (connection : Connection) (limit : WriteBound)
    (context : Context) :
    (connection.upTo limit).complete service context =
      (connection.complete service context).upTo limit := by
  unfold complete
  cases service.pipeline.observer with
  | none =>
      rfl
  | some observer =>
      exact foldl_counted_upTo _ (connection.emit (.completed context)) limit

theorem afterWrite_upTo (service : Service) (connection : Connection) (limit : WriteBound)
    (context : Context) (response : Response) (keepAlive : Bool) :
    (connection.upTo limit).afterWrite service context response keepAlive (.ok ()) =
      (connection.afterWrite service context response keepAlive (.ok ())).upTo limit := by
  unfold afterWrite
  have logged : (connection.upTo limit).logServed service context response =
      (connection.logServed service context response).upTo limit := rfl
  simp only [logged, complete_upTo]
  rfl

/-- A response that fits in front of the bound is written as it is without one. -/
theorem write_upTo {context : Context} {response : Response} {keepAlive : Bool}
    (unbounded : connection.outlet.bound = none)
    (fits : Outlet.Fits (some limit) (connection.outlet.wire ++
      (response.withKeepAlive keepAlive).encode context.request.asksHeadOnly)) :
    (connection.upTo limit).write service context response keepAlive =
      (connection.write service context response keepAlive).upTo limit := by
  have freely := (Response.write_eq (response.withKeepAlive keepAlive)
    (context.startStage Timeline.writeStage).request.asksHeadOnly connection.outlet).trans
      (Outlet.write_of_fits (by rw [unbounded]; exact Outlet.fits_none))
  have bounded := (Response.write_eq (response.withKeepAlive keepAlive)
    (context.startStage Timeline.writeStage).request.asksHeadOnly (connection.upTo limit).outlet).trans
      (Outlet.write_of_fits fits)
  unfold write
  simp only [freely, bounded]
  exact afterWrite_upTo service (emit { connection with
    outlet := { connection.outlet with wire := _ }
    clock := _ } (.counted _)) limit _ _ _

/-- Only what is written depends on the bound, and nothing is written but responses. -/
theorem step_upTo (service : Service) (connection : Connection) (limit : WriteBound) :
    (∃ context response keepAlive, connection.phase = .writing context response keepAlive) ∨
      (connection.upTo limit).step service = (connection.step service).upTo limit ∧
        (connection.step service).outlet = connection.outlet := by
  unfold step
  cases phase : connection.phase with
  | writing context response keepAlive =>
      exact Or.inl ⟨context, response, keepAlive, rfl⟩
  | closing =>
      right
      simp only [upTo, phase]
      exact ⟨rfl, rfl⟩
  | closed | collapsed =>
      right
      simp only [upTo, phase]
      exact ⟨trivial, trivial⟩
  | reading =>
      right
      simp only [show (connection.upTo limit).phase = .reading from phase]
      exact ⟨read_upTo service connection limit, (read_keeps service connection).1⟩
  | dispatching given keepAlive =>
      right
      simp only [show (connection.upTo limit).phase = .dispatching given keepAlive from phase]
      exact ⟨dispatch_upTo service connection limit given keepAlive,
        (dispatch_keeps service connection given keepAlive).2.2.1⟩

/-! ## Two connections -/

/-- The connections are the same but for the bound and nothing has gone beyond it; or the one has
been broken off, and the other has written beyond the bound. -/
inductive Together (limit : WriteBound) (free cut : Connection) : Prop
  | same (fits : Outlet.Fits (some limit) free.outlet.wire) (isSame : cut = free.upTo limit)
  | parted (phase : cut.phase = .closing ∨ cut.phase = .closed)
      (wire : cut.outlet.wire = Outlet.taken (some limit) free.outlet.wire)
      (long : ¬ Outlet.Fits (some limit) free.outlet.wire)
      (submitted : cut.submitted <+: free.submitted)

/-- What has been written stays, and so does what the pipeline has been given. -/
structure Grows (before after : Connection) : Prop where
  unbounded : after.outlet.bound = none
  wire : before.outlet.wire <+: after.outlet.wire
  submitted : before.submitted <+: after.submitted

theorem Grows.of_same (unbounded : free.outlet.bound = none)
    (outlet : connection.outlet = free.outlet)
    (submitted : connection.submitted = free.submitted) :
    free.Grows connection := by
  constructor
  · rw [outlet, unbounded]
  · exact outlet ▸ List.prefix_rfl
  · exact submitted ▸ List.prefix_rfl

theorem grows_step (service : Service) (unbounded : free.outlet.bound = none) :
    free.Grows (free.step service) := by
  unfold step
  cases free.phase with
  | closed | collapsed =>
      exact .of_same unbounded rfl rfl
  | closing =>
      exact .of_same unbounded rfl (notes_log _ _ _ _ _).submitted
  | reading =>
      obtain ⟨outlet, submitted, -⟩ := read_keeps service free
      exact .of_same unbounded outlet submitted
  | dispatching given keepAlive =>
      obtain ⟨-, -, outlet, submitted, -⟩ := dispatch_keeps service free given keepAlive
      simp only
      constructor
      · rw [outlet, unbounded]
      · exact outlet ▸ List.prefix_rfl
      · rw [submitted]
        exact List.prefix_append _ _
  | writing context response keepAlive =>
      obtain ⟨-, -, -, outlet, submitted, -⟩ :=
        write_of_fits service free context response keepAlive rfl
          (by rw [unbounded]; exact Outlet.fits_none)
      simp only
      constructor
      · rw [outlet, unbounded]
      · rw [outlet]
        exact List.prefix_append _ _
      · exact submitted ▸ List.prefix_rfl

theorem together_step (unbounded : free.outlet.bound = none) (together : Together limit free cut) :
    Together limit (free.step service) (cut.step service) := by
  have grows := grows_step service unbounded
  cases together with
  | parted phase wire long submitted =>
      -- The one does nothing but close, and what the other writes lies behind the bound.
      obtain ⟨more, more_eq⟩ := grows.wire
      have stays : (cut.step service).outlet = cut.outlet ∧
          (cut.step service).submitted = cut.submitted ∧ (cut.step service).phase = .closed := by
        rcases phase with phase | phase
        · rw [step, phase]
          exact ⟨rfl, (notes_log _ _ _ _ _).submitted, rfl⟩
        · rw [step, phase]
          exact ⟨rfl, rfl, phase⟩
      refine .parted (.inr stays.2.2) ?_ ?_ ?_
      · rw [stays.1, wire, ← more_eq, Outlet.taken_append long]
      · rw [← more_eq]
        exact fun fits => long (Outlet.fits_of_append fits)
      · rw [stays.2.1]
        exact submitted.trans grows.submitted
  | same fits isSame =>
      subst isSame
      obtain ⟨context, response, keepAlive, writes⟩ | ⟨steps, outlet⟩ :=
        step_upTo service free limit
      · have writesToo : (free.upTo limit).phase = .writing context response keepAlive := writes
        obtain ⟨-, -, -, outlet, freely, -⟩ :=
          write_of_fits service free context response keepAlive rfl
            (by rw [unbounded]; exact Outlet.fits_none)
        rw [step, step, writes, writesToo]
        simp only
        by_cases fitsToo : Outlet.Fits (some limit) (free.outlet.wire ++
            (response.withKeepAlive keepAlive).encode context.request.asksHeadOnly)
        · refine .same ?_ (write_upTo unbounded fitsToo)
          rw [outlet]
          exact fitsToo
        · obtain ⟨phase, -, -, outletToo, submitted, -⟩ :=
            write_of_not_fits service (free.upTo limit) context response keepAlive rfl fits fitsToo
          refine .parted (.inl phase) ?_ ?_ ?_
          · rw [outlet, outletToo]
            rfl
          · rw [outlet]
            exact fitsToo
          · rw [freely, submitted]
            exact List.prefix_rfl
      · refine .same ?_ steps
        rw [outlet]
        exact fits

theorem together_runUpTo (most : Nat) (unbounded : free.outlet.bound = none)
    (together : Together limit free cut) :
    (runUpTo service most free).outlet.bound = none ∧
      Together limit (runUpTo service most free) (runUpTo service most cut) := by
  induction most with
  | zero =>
      exact ⟨unbounded, together⟩
  | succ most inductionHypothesis =>
      rw [runUpTo_succ, runUpTo_succ]
      exact ⟨(grows_step service inductionHypothesis.1).unbounded,
        together_step inductionHypothesis.1 inductionHypothesis.2⟩

theorem together_run (service : Service) (limit : WriteBound) {start : Connection}
    (outlet : start.outlet = {}) :
    Together limit (start.run service) ((start.upTo limit).run service) := by
  have fits : Outlet.Fits (some limit) start.outlet.wire := by
    rw [outlet]
    exact fun limit _ => Nat.zero_le limit.room
  exact (together_runUpTo start.stepBound (by rw [outlet]) (.same fits rfl)).2

/-! ## The ends -/

/-- Nothing cuts a connection short whose peer takes everything and whose pipeline always answers. -/
theorem Ending.of_returns {reader : Reader} (returns : service.pipeline.Returns)
    (ending : free.Ending service none reader) :
    free.submitted.map Context.request = (reader.session service.limits).requests ∧
      free.outlet.wire = free.submitted.flatMap service.octets := by
  cases ending with
  | complete records count requests =>
      rw [records.submitted]
      exact ⟨requests.symm, records.wire⟩
  | cut phase records read short =>
      exact absurd Outlet.fits_none short
  | failed fails records read =>
      exact absurd fails (returns.not_failed _ _)

/-- If all requests are answered in front of the bound, the bound has made no difference. -/
theorem Together.same_of_whole (together : Together limit free cut)
    (wire : free.outlet.wire = free.submitted.flatMap service.octets)
    (all : cut.submitted.length = free.submitted.length)
    (whole : Outlet.Fits (some limit) (cut.submitted.flatMap service.octets)) :
    Outlet.Fits (some limit) free.outlet.wire ∧ cut = free.upTo limit := by
  cases together with
  | same fits isSame =>
      exact ⟨fits, isSame⟩
  | parted phase front long submitted =>
      rw [submitted.eq_of_length all, ← wire] at whole
      exact absurd whole long

theorem Together.wire (together : Together limit free cut) :
    cut.outlet.wire = free.outlet.wire.take limit.room := by
  cases together with
  | same fits isSame =>
      rw [isSame]
      exact (Outlet.taken_of_fits fits).symm
  | parted phase front long submitted =>
      exact front

theorem Together.isPrefix (together : Together limit free cut) :
    cut.submitted <+: free.submitted := by
  cases together with
  | same fits isSame =>
      rw [isSame]
      exact List.prefix_rfl
  | parted phase front long submitted =>
      exact submitted

theorem isFinished_of_records {served written submitted : List Context}
    {bound : Option WriteBound}
    (records : connection.Records service bound served written submitted) :
    ∀ told ∈ connection.completed, told.timeline.isFinished = true := by
  intro told isTold
  have reported := List.mem_map_of_mem (f := some) isTold
  rw [records.told] at reported
  split at reported
  · obtain ⟨given, -, report⟩ := List.mem_map.mp reported
    exact Service.isFinished_of_report report
  · cases reported

/-- Whatever a peer sends and whatever the pipeline answers: if the peer stops taking octets, it has
the front of what would have been written otherwise. The pipeline has been given the requests whose
responses are whole and, if the peer stopped too early, the one whose response is not. Behind that
one nothing is read. The observer has been told of those with whole responses once each, when they
were complete, and of no others. -/
theorem run_of_broken_writes {service : Service} (returns : service.pipeline.Returns)
    (info : ConnectionInfo) (reader : Reader) (clock : Clock) (startedAt : Instant)
    (limit : WriteBound) :
    let start : Connection := { info, reader, clock, startedAt }
    let free := start.run service
    let cut := (start.upTo limit).run service
    free.submitted.map Context.request = (reader.session service.limits).requests ∧
      free.outlet.wire = free.submitted.flatMap service.octets ∧
      cut.outlet.wire = free.outlet.wire.take limit.room ∧
      ∃ (served : List Context) (failed : Option Context),
        cut.submitted = served ++ failed.toList ∧
        cut.submitted <+: free.submitted ∧
        served.flatMap service.octets <+: cut.outlet.wire ∧
        cut.completed.map some =
          (if service.pipeline.observer.isSome then served.map service.report? else []) ∧
        (∀ told ∈ cut.completed, told.timeline.isFinished = true) ∧
        (failed = none → free.outlet.wire.length ≤ limit.room ∧ cut = free.upTo limit) ∧
        (failed.isSome = true →
          limit.room < (cut.submitted.flatMap service.octets).length ∧
          cut.phase = .closed ∧ cut.requests = cut.submitted.length ∧
          cut.reader = reader.afterCalls service.limits cut.submitted.length) := by
  intro start free cut
  obtain ⟨session, wire⟩ := Ending.of_returns returns
    (ending_run service info reader clock startedAt none)
  have together : Together limit free cut := together_run service limit rfl
  refine ⟨session, wire, together.wire, ?_⟩
  have ended : cut.phase.isOver = true := isOver_run service (start.upTo limit)
  -- How the bounded connection ended says whether the bound was met.
  cases ending_run service info reader clock startedAt (some limit) with
  | @complete served records count requests =>
      have submitted : cut.submitted = served := records.submitted
      have all : cut.submitted.length = free.submitted.length := by
        rw [submitted, ← List.length_map (f := Context.request), ← requests, ← session,
          List.length_map]
      have whole : Outlet.Fits (some limit) (cut.submitted.flatMap service.octets) := by
        rw [submitted]
        exact records.whole
      obtain ⟨fits, isSame⟩ := together.same_of_whole wire all whole
      refine ⟨served, none, ?_, together.isPrefix, ?_, records.told, isFinished_of_records records,
        fun _ => ⟨Outlet.fits_some.mp fits, isSame⟩, fun isSome => nomatch isSome⟩
      · rw [submitted, Option.toList_none, List.append_nil]
      · rw [← Outlet.taken_of_fits records.whole, ← records.wire]
        exact List.prefix_rfl
  | @cut served given goesOn phase records read short =>
      have submitted : cut.submitted = served ++ [given] := records.submitted
      have closed : cut.phase = .closed := by
        rcases phase with closing | closed
        · rw [show cut.phase = .closing from closing] at ended
          cases ended
        · exact closed
      refine ⟨served, some given, submitted, together.isPrefix, ?_, records.told,
        isFinished_of_records records, ?_, fun _ => ⟨?_, closed, ?_, ?_⟩⟩
      · have onWire : cut.outlet.wire = Outlet.taken (some limit) _ := records.wire
        rw [onWire, List.flatMap_append, Outlet.taken]
        exact List.prefix_take_iff.mpr ⟨List.prefix_append _ _, Outlet.fits_some.mp records.whole⟩
      · intro isNone
        cases isNone
      · rw [Outlet.fits_some] at short
        rw [submitted]
        omega
      · rw [submitted]
        exact read.count
      · rw [submitted]
        exact read.after
  | failed fails records read =>
      exact absurd fails (returns.not_failed _ _)

/-- Three requests whose peer stops inside the second body. -/
theorem run_of_broken_writes_of_second_body :
    let service : Service :=
      { pipeline :=
          { execute := fun context => .ok (Response.text .ok (Bytes.ascii "hello"), context)
            observer := some Observer.stageMetrics } }
    let request := Bytes.ascii "GET / HTTP/1.1\r\nConnection: keep-alive\r\n\r\n"
    let reader : Reader :=
      { buffer := { data := [], capacity := 64 }
        stream := [.octets (request ++ request ++ request)] }
    let address : SocketAddress := .short ⟨127, 0, 0, 1⟩ 8080
    let info : ConnectionInfo := { id := ⟨1⟩, peer := address, listener := address }
    let limit : WriteBound := { room := 213 }
    let start : Connection := { info, reader }
    let free := start.run service
    let cut := (start.upTo limit).run service
    free.submitted.length = 3 ∧ free.outlet.wire.length = 324 ∧
      cut.outlet.wire = free.outlet.wire.take 213 ∧ cut.phase = .closed ∧ cut.requests = 2 ∧
      ∃ told, cut.completed = [told] ∧ told.timeline.isFinished = true := by
  intro service request reader address info limit start free cut
  have returns : service.pipeline.Returns := fun context => ⟨_, _, rfl⟩
  obtain ⟨-, -, wire, served, failed, submitted, -, -, told, finished, whole, broken⟩ :=
    run_of_broken_writes returns info reader {} 0 limit
  have counts : free.submitted.length = 3 ∧ free.outlet.wire.length = 324 ∧
      cut.submitted.length = 2 := by
    decide +kernel
  cases failed with
  | none =>
      have short : free.outlet.wire.length ≤ 213 := (whole rfl).1
      omega
  | some given =>
      obtain ⟨-, closed, requests, -⟩ := broken rfl
      have one : served.length = 1 := by
        have two : (served ++ [given]).length = 2 := by
          rw [← counts.2.2]
          exact congrArg List.length submitted.symm
        rw [List.length_append, List.length_singleton] at two
        omega
      have notified : cut.completed.length = 1 := by
        have reports : cut.completed.map some = served.map service.report? := told
        have same := congrArg List.length reports
        rwa [List.length_map, List.length_map, one] at same
      obtain ⟨context, only⟩ := List.length_eq_one_iff.mp notified
      refine ⟨counts.1, counts.2.1, wire, closed, requests.trans counts.2.2, context, only, ?_⟩
      apply finished
      rw [show ((start.upTo limit).run service).completed = [context] from only]
      exact List.mem_singleton_self _

end Connection

end HttpServer
