import HttpServer.Proofs.RequestOctets
import HttpServer.Proofs.Segmentation
import HttpServer.Proofs.Serving
import Mathlib.Data.List.Forall2

/-!
# A peer that goes away

A peer may stop sending anywhere. Every request that has arrived as a whole is read; what has
arrived of the next one is no request, and nothing in it is refused, as what is missing might still
come. So what is reported is that the peer has left, between two requests or inside one, and a
connection has no reading error to log.
-/

namespace HttpServer

variable {limits : Limits} {reader : Reader} {request : Request} {octets : Bytes}

/-! ## Whole requests -/

/-- The octets are one whole request: it is read off them alone, and none of them is left. Its
head, with the blank lines before it, and every line of a body in chunks are within the bound on
heads. -/
structure Request.IsWhole (limits : Limits) (octets : Bytes) (request : Request) : Prop where
  accepted : ∃ alone after : Reader, alone.Delivers octets ∧
    alone.readRequest limits = (.ok request, after) ∧ after.unused = []
  head : ∀ front encoded, request.IsSpelledBy front encoded → octets = front ++ encoded →
    front.length ≤ limits.head
  lines : ∀ front (encoding : Chunked.Encoding), request.toRequestHead.IsSpelledBy front →
    Framing.ofFields request.fields = .ok .chunked → octets = front ++ encoding.octets →
    ∀ line ∈ encoding.lines, line.length ≤ limits.head

namespace Reader

theorem spells_of_isWhole (whole : request.IsWhole limits octets) :
    ∃ (head : RequestHead) (framing : Framing) (front encoded body : Bytes),
      request = head.withBody body ∧ octets = front ++ encoded ∧
      Attempt.Spells 0 (scanHead limits) front head ∧
      Framing.ofFields head.fields = .ok framing ∧
      Attempt.Spells 0 (framing.scanBody limits) encoded body := by
  obtain ⟨alone, after, delivers, gave, nothing⟩ := whole.accepted
  obtain ⟨head, framing, body, front, encoded, rfl, framed, cut, headAgain, bodyAgain⟩ :=
    used_of_readRequest_ok gave
  rw [delivers.whole, nothing, List.append_nil] at cut
  have headFound := headAgain []
  have bodyFound := bodyAgain []
  rw [List.append_nil] at headFound bodyFound
  have spelled := isSpelledBy_of_scanHead headFound
  have encodes := Framing.encodes_of_scanBody bodyFound
  have withinHead := whole.head front encoded ⟨spelled, framing, framed, encodes⟩ cut
  refine ⟨head, framing, front, encoded, body, rfl, cut, spells_of_isSpelledBy spelled withinHead,
    framed, Framing.spells_of_scanBody bodyFound ?_⟩
  rintro encoding rfl rfl
  exact whole.lines front encoding spelled framed cut

theorem readRequest_of_isWhole {rest : Bytes} (whole : request.IsWhole limits octets)
    (delivers : reader.Delivers (octets ++ rest)) :
    (∃ after, reader.readRequest limits = (.ok request, after) ∧ after.Delivers rest) ∨
      LacksMemory reader.buffer.memory octets.length (reader.readRequest limits).1 := by
  obtain ⟨head, framing, front, encoded, body, rfl, rfl, spellsHead, framed, spellsBody⟩ :=
    spells_of_isWhole whole
  rw [List.append_assoc] at delivers
  exact readRequest_of_spells spellsHead framed spellsBody delivers

theorem isWhole_of_readRequest (some : octets ≠ []) (short : octets.length ≤ limits.head)
    (accepted : ((ofReads 0 [octets]).readRequest limits).1 = .ok request)
    (nothing : ((ofReads 0 [octets]).readRequest limits).2.unused = []) :
    request.IsWhole limits octets := by
  have delivers : (ofReads 0 [octets]).Delivers octets := by
    have delivered : (ofReads 0 [octets]).Delivers [octets].flatten :=
      delivers_ofReads (by simpa using some)
    rwa [List.flatten_singleton] at delivered
  refine ⟨⟨_, _, delivers, Prod.ext accepted rfl, nothing⟩, ?_, ?_⟩
  · rintro front encoded - cut
    rw [cut, List.length_append] at short
    omega
  · rintro front encoding - - cut line member
    have inside := encoding.length_le_of_mem_lines member
    rw [cut, List.length_append] at short
    omega

/-- Of a request that is not all there nothing is said but that the peer left. -/
theorem readRequest_of_broken {begun missing : Bytes} (whole : request.IsWhole limits octets)
    (cut : octets = begun ++ missing) (strict : missing ≠ []) (delivers : reader.Delivers begun) :
    (∃ after, reader.readRequest limits =
      (.error (.refused (if begun = [] then .closed else .truncated)), after)) ∨
      LacksMemory reader.buffer.memory octets.length (reader.readRequest limits).1 := by
  obtain ⟨head, framing, front, encoded, body, rfl, rfl, spellsHead, framed, spellsBody⟩ :=
    spells_of_isWhole whole
  exact readRequest_of_front spellsHead framed spellsBody cut strict delivers

/-! ## Several requests -/

/-- A strict front of requests one after the other is a number of them and a strict front of the
next. -/
theorem exists_broken {parts : List Bytes} {sent tail : Bytes}
    (cut : parts.flatten = sent ++ tail) (strict : tail ≠ []) :
    ∃ count begun missing, missing ≠ [] ∧ parts[count]? = some (begun ++ missing) ∧
      sent = (parts.take count).flatten ++ begun := by
  induction parts generalizing sent with
  | nil =>
      exact absurd (List.append_eq_nil_iff.mp cut.symm).2 strict
  | cons part others inductionHypothesis =>
      rw [List.flatten_cons] at cut
      rcases Bytes.front_cases cut with ⟨missing, some, cutPart⟩ | ⟨middle, cutSent, cutOthers⟩
      · refine ⟨0, sent, missing, some, ?_, rfl⟩
        rw [List.getElem?_cons_zero, cutPart]
      · obtain ⟨count, begun, missing, some, next, cutMiddle⟩ := inductionHypothesis cutOthers
        refine ⟨count + 1, begun, missing, some, ?_, ?_⟩
        · rw [List.getElem?_cons_succ, next]
        · rw [List.take_succ_cons, List.flatten_cons, List.append_assoc, ← cutMiddle, cutSent]

/-- The reader gives these requests and then this failure. When `vast` holds, memory may be refused
to one of them, and then nothing is read from it on. -/
def Gives (limits : Limits) (requests : List Request) (failure : ReadFailure) (vast : Prop)
    (reader : Reader) : Prop :=
  ∀ most,
    reader.outcomes limits most =
      (requests.map Except.ok ++ [Except.error failure]).take most ∨
    vast ∧ ∃ fewer ≤ requests.length, ∃ error, reader.outcomes limits most =
      (requests.take fewer).map Except.ok ++ [.error (.fault (.reservation error))]

theorem gives_of_isWhole {parts : List Bytes} {requests : List Request} {begun : Bytes}
    {failure : ReadFailure} {vast : Prop}
    (whole : List.Forall₂ (Request.IsWhole limits) parts requests)
    (tooLarge : ∀ part ∈ parts,
      reader.buffer.memory.size ≤ 2 * part.length + ReadBuffer.readRoom → vast)
    (ends : ∀ last : Reader, last.buffer.memory = reader.buffer.memory → last.Delivers begun →
      (∃ after, last.readRequest limits = (.error failure, after)) ∨
        vast ∧ ∃ error, (last.readRequest limits).1 = .error (.fault (.reservation error)))
    (delivers : reader.Delivers (parts.flatten ++ begun)) :
    reader.Gives limits requests failure vast := by
  intro most
  -- on the calls: each takes one part off, and the reader it leaves delivers the others
  induction most generalizing reader parts requests with
  | zero =>
      exact Or.inl rfl
  | succ most inductionHypothesis =>
      rw [outcomes_succ]
      cases whole with
      | nil =>
          rcases ends reader rfl delivers with ⟨after, reading⟩ | ⟨large, error, refused⟩
          · left
            simp [reading]
          · right
            exact ⟨large, 0, Nat.le_refl 0, error, by simp [refused]⟩
      | @cons part request others followers wholeFirst wholeOthers =>
          rw [List.flatten_cons, List.append_assoc] at delivers
          rcases readRequest_of_isWhole wholeFirst delivers with
            ⟨after, reading, delivered⟩ | ⟨large, error, refused⟩
          · have memory : after.buffer.memory = reader.buffer.memory := by
              have kept := memory_readRequest limits reader
              rwa [reading] at kept
            rw [← memory] at tooLarge ends
            rcases inductionHypothesis wholeOthers
              (fun other member => tooLarge other (List.mem_cons_of_mem _ member)) ends
              delivered with
              same | ⟨large, fewer, few, error, same⟩
            · left
              simp [reading, same]
            · right
              refine ⟨large, fewer + 1, Nat.succ_le_succ few, error, ?_⟩
              simp [reading, same]
          · right
            refine ⟨tooLarge part List.mem_cons_self large, 0, Nat.zero_le _, error, ?_⟩
            simp [refused]

end Reader

/-! ## The connection -/

namespace Connection

variable {service : Service} {connection : Connection}

/-- No read has been logged as a failed one. -/
def Silent (connection : Connection) : Prop :=
  ∀ entry, .logged entry ∈ connection.events → entry.message ≠ "ERROR reading request"

theorem Silent.emit {event : ConnectionEvent} (silent : connection.Silent)
    (other : ∀ entry, event = .logged entry → entry.message ≠ "ERROR reading request") :
    (connection.emit event).Silent := by
  intro entry member
  rcases List.mem_append.mp member with earlier | now
  · exact silent entry earlier
  · exact other entry (List.mem_singleton.mp now).symm

theorem Silent.log {level : LogLevel} {message : String} {fields : List LogField}
    (silent : connection.Silent) (other : message ≠ "ERROR reading request") :
    (connection.log service level message fields).Silent := by
  apply silent.emit
  rintro entry same
  rw [← ConnectionEvent.logged.inj same]
  exact other

theorem Silent.complete (silent : connection.Silent) (context : Context) :
    (connection.complete service context).Silent := by
  unfold Connection.complete
  cases service.pipeline.observer with
  | none =>
      exact silent
  | some observer =>
      have counts (metrics : List Metric) {start : Connection} (silentStart : start.Silent) :
          (metrics.foldl (fun connection metric => connection.emit (.counted metric))
            start).Silent := by
        induction metrics generalizing start with
        | nil =>
            exact silentStart
        | cons metric others inductionHypothesis =>
            exact inductionHypothesis (silentStart.emit (by simp))
      exact counts _ (silent.emit (by simp))

/-- Nothing but the peer leaving is to be heard of the reader. -/
def Leaves (limits : Limits) (reader : Reader) : Prop :=
  ∀ most error, .error (.refused error) ∈ reader.outcomes limits most →
    error.meansPeerLeft = true

theorem leaves_of_gives {reader : Reader} {requests : List Request} {error : DecodeError}
    {vast : Prop} (gives : reader.Gives limits requests (.refused error) vast)
    (left : error.meansPeerLeft = true) :
    Leaves limits reader := by
  intro most other member
  rcases gives most with same | ⟨-, fewer, -, refusal, same⟩
  · rw [same] at member
    rcases List.mem_append.mp (List.mem_of_mem_take member) with accepted | last
    · obtain ⟨request, -, accepted⟩ := List.mem_map.mp accepted
      cases accepted
    · simp only [List.mem_singleton, Except.error.injEq, ReadFailure.refused.injEq] at last
      rw [last]
      exact left
  · rw [same] at member
    rcases List.mem_append.mp member with accepted | last
    · obtain ⟨request, -, accepted⟩ := List.mem_map.mp accepted
      cases accepted
    · simp at last

theorem Leaves.after_ok {reader after : Reader} {request : Request}
    (leaves : Leaves limits reader)
    (reading : reader.readRequest limits = (.ok request, after)) :
    Leaves limits after :=
  fun most error member => leaves (most + 1) error (Reader.mem_outcomes_of_ok reading member)

/-- Nothing has been logged of the reader, nor will be: what it may still give is that the peer
left, or it is not read from again. -/
structure Quiet (service : Service) (connection : Connection) : Prop where
  silent : connection.Silent
  leaves : Leaves service.limits connection.reader ∨ connection.phase = .closing ∨
    connection.phase.isOver = true

theorem quiet_read (silent : connection.Silent)
    (leaves : Leaves service.limits connection.reader) :
    (connection.read service).Quiet service := by
  unfold read
  rcases reading : connection.reader.readRequest service.limits with
    ⟨(error | fault) | request, after⟩
  · have failed : .error (.refused error) ∈ connection.reader.outcomes service.limits 1 := by
      rw [Reader.outcomes_succ, reading]
      exact List.mem_cons_self
    have left := leaves 1 error failed
    simp only [refuse, left, if_true]
    constructor
    · apply Silent.log
      · exact silent
      · decide
    · exact Or.inr (Or.inl rfl)
  · exact ⟨silent, Or.inr (Or.inr rfl)⟩
  · exact ⟨silent, Or.inl (leaves.after_ok reading)⟩

theorem quiet_dispatch {context : Context} {keepAlive : Bool} (silent : connection.Silent)
    (leaves : Leaves service.limits connection.reader) :
    (connection.dispatch service context keepAlive).Quiet service := by
  have submits : (connection.emit (.submitted context)).Silent := silent.emit (by simp)
  unfold dispatch
  cases service.pipeline.execute context with
  | error fault =>
      exact ⟨submits, Or.inr (Or.inr rfl)⟩
  | ok answer =>
      exact ⟨submits, Or.inl leaves⟩

theorem quiet_afterWrite {context : Context} {response : Response} {keepAlive : Bool}
    (silent : connection.Silent) (leaves : Leaves service.limits connection.reader)
    (outcome : Except WriteFailure Unit) :
    (connection.afterWrite service context response keepAlive outcome).Quiet service := by
  cases outcome with
  | error failure =>
      exact ⟨silent.log (by decide), Or.inl leaves⟩
  | ok =>
      have served : (connection.logServed service context response).Silent := by
        apply silent.log
        decide
      obtain ⟨events, same⟩ := (notes_complete (connection.logServed service context response)
        service context).same
      constructor
      · exact served.complete context
      · left
        show Leaves service.limits
          ((connection.logServed service context response).complete service context).reader
        rw [same]
        exact leaves

theorem quiet_write {context : Context} {response : Response} {keepAlive : Bool}
    (silent : connection.Silent) (leaves : Leaves service.limits connection.reader) :
    (connection.write service context response keepAlive).Quiet service := by
  unfold write
  apply quiet_afterWrite
  · apply Silent.emit
    · exact silent
    · simp
  · exact leaves

theorem quiet_step (quiet : connection.Quiet service) : (connection.step service).Quiet service := by
  have stays : connection.phase.isOver = true → (connection.step service).Quiet service := by
    intro ended
    rw [step_of_isOver ended]
    exact quiet
  unfold step at stays ⊢
  -- a read fails in the reading phase alone; the phases behind it do not touch the reader
  cases phase : connection.phase with
  | closing =>
      exact ⟨quiet.silent.log (by decide), Or.inr (Or.inr rfl)⟩
  | closed | collapsed =>
      rw [phase] at stays
      exact stays rfl
  | reading =>
      exact quiet_read quiet.silent (quiet.leaves.resolve_right (by simp [phase, Phase.isOver]))
  | dispatching context keepAlive =>
      exact quiet_dispatch quiet.silent (quiet.leaves.resolve_right (by simp [phase, Phase.isOver]))
  | writing context response keepAlive =>
      exact quiet_write quiet.silent (quiet.leaves.resolve_right (by simp [phase, Phase.isOver]))

theorem quiet_runUpTo (quiet : connection.Quiet service) (most : Nat) :
    (runUpTo service most connection).Quiet service := by
  induction most generalizing connection with
  | zero =>
      exact quiet
  | succ most inductionHypothesis =>
      rw [runUpTo]
      split
      · exact quiet
      · exact inductionHypothesis (quiet_step quiet)

end Connection

namespace Reader

/-- Whole requests one after the other, of which a peer has sent a strict front before it left: the
requests that are all there are read, whatever the reads and the room in the buffer, and then it is
reported that the peer left, between two requests or inside one. Memory is refused only where a
request is as large as half of it. A connection logs no failed read. -/
theorem gives_of_departure {parts : List Bytes} {requests : List Request} {sent tail : Bytes}
    (whole : List.Forall₂ (Request.IsWhole limits) parts requests)
    (cut : parts.flatten = sent ++ tail) (strict : tail ≠ []) :
    ∃ count begun missing, ∃ error : DecodeError,
      missing ≠ [] ∧ parts[count]? = some (begun ++ missing) ∧
      sent = (parts.take count).flatten ++ begun ∧
      error = (if begun = [] then .closed else .truncated) ∧ error.meansPeerLeft = true ∧
      (∀ reader : Reader, reader.Delivers sent →
        reader.Gives limits (requests.take count) (.refused error)
          (∃ part ∈ parts, reader.buffer.memory.size ≤ 2 * part.length + ReadBuffer.readRoom)) ∧
      ∀ (service : Service) (connection : Connection) steps, service.limits = limits →
        connection.reader.Delivers sent → connection.Silent →
        (Connection.runUpTo service steps connection).Silent := by
  obtain ⟨count, begun, missing, some, next, cutSent⟩ := exists_broken cut strict
  have left : (if begun = [] then DecodeError.closed else .truncated).meansPeerLeft = true := by
    split <;> rfl
  have gives (reader : Reader) (delivers : reader.Delivers sent) :
      reader.Gives limits (requests.take count)
        (.refused (if begun = [] then .closed else .truncated))
        (∃ part ∈ parts, reader.buffer.memory.size ≤ 2 * part.length + ReadBuffer.readRoom) := by
    obtain ⟨inParts, same⟩ := List.getElem?_eq_some_iff.mp next
    have inRequests : count < requests.length := whole.length_eq ▸ inParts
    have wholeNext : Request.IsWhole limits (begun ++ missing) requests[count] :=
      same ▸ whole.get inParts inRequests
    rw [cutSent] at delivers
    apply gives_of_isWhole (List.forall₂_take count whole) _ _ delivers
    · intro part member large
      exact ⟨part, List.mem_of_mem_take member, large⟩
    · intro last memory delivered
      rw [← memory]
      rcases readRequest_of_broken wholeNext rfl some delivered with ended | ⟨large, refused⟩
      · exact Or.inl ended
      · exact Or.inr ⟨⟨_, List.mem_of_getElem? next, large⟩, refused⟩
  refine ⟨count, begun, missing, _, some, next, cutSent, rfl, left, gives, ?_⟩
  rintro service connection steps rfl delivers silent
  have leaves := Connection.leaves_of_gives (gives connection.reader delivers) left
  exact (Connection.quiet_runUpTo ⟨silent, Or.inl leaves⟩ steps).silent

/-- A request behind a blank line is read, and of one in chunks that ends inside a trailer it is
reported that the peer left. -/
theorem gives_of_departure_in_trailer :
    let first := Bytes.ascii "\r\nGET / HTTP/1.1\r\n\r\n"
    let begun := Bytes.ascii
      "POST / HTTP/1.1\r\nTransfer-Encoding: chunked\r\n\r\n2;a=b\r\nhi\r\n0\r\nT: v\r"
    (ofReads 0 [first ++ begun]).outcomes {} 3 =
      [.ok { method := Bytes.ascii "GET", target := .origin [Target.slash] none
             version := .http11, fields := .empty, body := [] },
        .error (.refused .truncated)] := by
  intro first begun
  let missing := Bytes.ascii "\n\r\n"
  let request : Request :=
    { method := Bytes.ascii "GET", target := .origin [Target.slash] none, version := .http11
      fields := .empty, body := [] }
  let other : Request :=
    { method := Bytes.ascii "POST", target := .origin [Target.slash] none, version := .http11
      fields := Fields.empty.append .transferEncoding ⟨Framing.chunkedCoding, by decide⟩
      body := Bytes.ascii "hi" }
  have wholeFirst : request.IsWhole {} first :=
    isWhole_of_readRequest (by decide) (by decide) (by decide +kernel) (by decide +kernel)
  have wholeSecond : other.IsWhole {} (begun ++ missing) :=
    isWhole_of_readRequest (by decide) (by decide) (by decide +kernel) (by decide +kernel)
  have cut : [first, begun ++ missing].flatten = (first ++ begun) ++ missing := by decide
  have strict : missing ≠ [] := by decide
  obtain ⟨count, begunThere, left, error, -, next, sent, rfl, -, gives, -⟩ :=
    gives_of_departure (.cons wholeFirst (.cons wholeSecond .nil)) cut strict
  -- the peer left inside the second request
  obtain ⟨rfl, rfl⟩ : count = 1 ∧ begunThere = begun := by
    match count with
    | 0 =>
        have longer : first.length < (first ++ begun).length := by decide
        rw [List.take_zero, List.flatten_nil, List.nil_append] at sent
        rw [sent, Option.some.inj next, List.length_append] at longer
        omega
    | 1 =>
        exact ⟨rfl, (List.append_cancel_left sent).symm⟩
    | further + 2 =>
        cases next
  have delivers : (ofReads 0 [first ++ begun]).Delivers (first ++ begun) := by
    have delivered : (ofReads 0 [first ++ begun]).Delivers [first ++ begun].flatten :=
      delivers_ofReads (by decide)
    rwa [List.flatten_singleton] at delivered
  rcases gives _ delivers 3 with same | ⟨⟨large, member, vast⟩, -⟩
  · exact same
  · have small : ∀ part ∈ [first, begun ++ missing],
        2 * part.length + ReadBuffer.readRoom < addressSpace := by decide
    exact absurd vast (Nat.not_le.mpr (small large member))

end Reader

end HttpServer
