import HttpServer.Proofs.Segmentation
import HttpServer.Proofs.WrittenBody
import Mathlib.Data.List.Forall2

/-!
# Requests that arrive together are read one after the other

Whatever a client writes, request after request, is read back as the same requests in the same
order, however the octets are cut into reads and whatever room the buffer has; then comes the
ordinary end of the stream, and nothing is left over. Following the grammar is not quite enough for
that: a delete character in the target and a name that is too long are refused.
-/

namespace HttpServer

variable {limits : Limits} {reader : Reader} {sent : SentRequest} {rest : Bytes}

namespace SentRequest

theorem reads_withBody {head : RequestHead} (reads : sent.ReadsHead head) :
    sent.Reads (head.withBody sent.body.octets) :=
  ⟨reads.method, reads.target, reads.version, reads.fields, rfl⟩

/-- A request that has been sent is read, and what follows it is left. -/
theorem readRequest_of_sent (sendable : sent.IsSendable)
    (within : sent.Within limits reader.buffer.memory)
    (delivers : reader.Delivers (sent.encode ++ rest)) :
    ∃ request after, reader.readRequest limits = (.ok request, after) ∧ sent.Reads request ∧
      after.Delivers rest := by
  have room := within.room
  rw [encode, List.length_append] at room
  obtain ⟨head, reads, spellsHead⟩ := spells_encodeHead sendable within.head
  have small : sent.body.octets.length < wordSize := by
    have word : addressSpace < wordSize := by decide
    have addressable := reader.buffer.memory.addressable
    have length := sent.body.length_octets_le
    omega
  have framed := ofFields_of_readsHead sendable reads small
  rw [encode, List.append_assoc] at delivers
  rcases Reader.readRequest_of_spells spellsHead framed (spells_encodeBody sendable within)
    delivers with ⟨after, reading, delivered⟩ | lacks
  · exact ⟨head.withBody sent.body.octets, after, reading, reads_withBody reads, delivered⟩
  · rw [List.length_append] at lacks
    exact absurd lacks (Reader.not_lacksMemory room)

end SentRequest

namespace Reader

/-- Octets that no head can be read from give the failure they give at once, and stay. -/
theorem readRequest_of_no_head {octets : Bytes} {failure : ReadFailure}
    (short : octets.length < limits.head) (delivers : reader.Delivers octets)
    (room : 2 * octets.length + ReadBuffer.readRoom < reader.buffer.memory.size)
    (fails : Attempt.atOnce (scanHead limits) headEnd octets = .error failure) :
    ∃ after, reader.readRequest limits = (.error failure, after) ∧ after.unused = octets := by
  have steady : Attempt.Steady (scanHead limits) reader.unused := by
    rw [delivers.whole]
    exact (settledBelow_scanHead limits).steady short
  have modest : Attempt.Modest octets.length (scanHead limits) reader.unused := by
    rw [delivers.whole]
    exact modest_scanHead limits octets
  have gives := (await_of_modest headEnd steady delivers.plain modest).resolve_right
    (not_lacksMemory room)
  rw [delivers.whole, fails] at gives
  obtain ⟨after, reading⟩ := eq_of_remaining_error gives
  refine ⟨after, ?_, (unused_of_await_error reading).trans delivers.whole⟩
  simp only [readRequest, readHead, reading]

theorem readRequest_at_end (some : 0 < limits.head) (delivers : reader.Delivers []) :
    ∃ after, reader.readRequest limits = (.error (.refused .closed), after) ∧
      after.buffer.data = [] := by
  have waits : HeadLines.scan [] = .partly := rfl
  have nothing : scanHead limits [] = .wait 0 := by
    simp only [scanHead, waits, List.length_nil, Nat.not_le.mpr some, if_false]
  have short : ([] : Bytes).length < limits.head := some
  have fails : Attempt.atOnce (scanHead limits) headEnd [] = .error (.refused .closed) := by
    rw [Attempt.atOnce, nothing]
    rfl
  have room : ReadBuffer.readRoom < reader.buffer.memory.size :=
    Nat.lt_of_lt_of_le (by decide) reader.buffer.memory.page
  obtain ⟨after, reading, left⟩ := readRequest_of_no_head short delivers
    (by rwa [List.length_nil, Nat.mul_zero, Nat.zero_add]) fails
  rw [unused, List.append_eq_nil_iff] at left
  exact ⟨after, reading, left.1⟩

/-! ## Requests that are not read -/

/-- A well-formed request with a delete character in its target or with too long a name is
refused. -/
theorem readRequest_of_not_sendable (formed : sent.IsWellFormed) (barred : ¬ sent.IsSendable)
    (short : (sent.encode ++ rest).length < limits.head)
    (room : 2 * (sent.encode ++ rest).length + ReadBuffer.readRoom < reader.buffer.memory.size)
    (delivers : reader.Delivers (sent.encode ++ rest)) :
    ∃ after, reader.readRequest limits = (.error (.refused (if 0x7F ∈ sent.target then
      .malformed .token else .invalidHead .fieldName)), after) := by
  have fails : Attempt.atOnce (scanHead limits) headEnd (sent.encode ++ rest) =
      .error (.refused (if 0x7F ∈ sent.target then .malformed .token
        else .invalidHead .fieldName)) := by
    rw [SentRequest.encode, List.append_assoc]
    split
    · rename_i delete
      simp only [Attempt.atOnce, scanHead, SentRequest.scan_encodeHead_of_delete formed delete,
        Attempt.refused]
    · rename_i noDelete
      have long : ∃ line ∈ sent.lines, FieldName.maximumLength < line.1.length := by
        by_contra none
        push Not at none
        refine barred ⟨formed, noDelete, ?_⟩
        intro line member
        apply none
        simp only [SentRequest.lines, List.mem_append] at member ⊢
        rcases member with before | after
        · exact Or.inl (Or.inl before)
        · exact Or.inr after
      simp only [Attempt.atOnce, scanHead, SentRequest.scan_encodeHead formed noDelete,
        SentRequest.ofLines_of_long_name formed long, Attempt.refused]
  obtain ⟨after, reading, -⟩ := readRequest_of_no_head short delivers room fails
  exact ⟨after, reading⟩

theorem outcomes_of_not_sendable (limits : Limits) (capacity : Nat) (formed : sent.IsWellFormed)
    (barred : ¬ sent.IsSendable) (short : sent.encode.length < limits.head)
    (room : 2 * sent.encode.length + ReadBuffer.readRoom < addressSpace) :
    (ofReads capacity [sent.encode]).outcomes limits 1 =
      [.error (.refused (if 0x7F ∈ sent.target then .malformed .token
        else .invalidHead .fieldName))] := by
  have some : sent.encode ≠ [] := by
    simp [SentRequest.encode, SentRequest.encodeHead, Bytes.lineEnd]
  have delivers : (ofReads capacity [sent.encode]).Delivers (sent.encode ++ []) := by
    have whole : [sent.encode].flatten = sent.encode ++ [] := rfl
    rw [← whole]
    exact delivers_ofReads (by simpa using some)
  obtain ⟨after, reading⟩ := readRequest_of_not_sendable formed barred
    (by rwa [List.append_nil]) (by rwa [List.append_nil]) delivers
  rw [outcomes_succ, reading]

theorem readBody_of_vast {length : Nat} (permitted : length ≤ limits.body)
    (vast : reader.buffer.memory.size ≤ length) (held : reader.buffer.data.length < length)
    (narrow : reader.buffer.capacity < length) :
    ∃ error, reader.readBody limits (.sized length) =
      (.error (.fault (.reservation error)), reader) := by
  have waits : Framing.scanBody limits (.sized length) reader.buffer.data = .wait length := by
    show Framing.scanSized limits length reader.buffer.data = _
    simp only [Framing.scanSized, Nat.not_lt.mpr permitted, held, if_false, if_true]
  obtain ⟨error, refused⟩ : ∃ error, reader.buffer.prepare length = .error error := by
    have exceeds : reader.buffer.memory.size ≤ max (max (2 * reader.buffer.capacity) length)
        ReadBuffer.leastGrowth := by omega
    simp only [ReadBuffer.prepare, ReadBuffer.growTo, Memory.reserve, narrow, exceeds, if_true]
    split <;> exact ⟨_, rfl⟩
  refine ⟨error, ?_⟩
  rw [readBody, await.eq_def]
  simp only [waits, refused]

theorem readHead_of_first_read {capacity : Nat} {octets : Bytes} {memory : Memory}
    {head : RequestHead}
    (spells : Attempt.Spells 0 (scanHead limits) sent.encodeHead head)
    (room : sent.encodeHead.length ≤ capacity) :
    (ofReads capacity [sent.encodeHead, octets] memory).readHead limits =
      (.ok head, ofReads capacity [octets] memory) := by
  have some : sent.encodeHead ≠ [] := by
    simp [SentRequest.encodeHead, Bytes.lineEnd]
  have positive := List.length_pos_iff.mpr some
  obtain ⟨wanted, -, waits⟩ := spells.front [] sent.encodeHead rfl some
  obtain ⟨rfl, -⟩ := below_of_scanHead_wait waits
  have found := spells.whole []
  rw [List.append_nil] at found
  have prepared : (ofReads capacity [sent.encodeHead, octets] memory).buffer.prepare 0 =
      .ok { data := [], capacity, memory } := by
    simp only [ofReads, ReadBuffer.prepare, Nat.not_lt_zero, if_false, bind, Except.bind]
    exact if_neg (by show ¬ capacity ≤ 0; omega)
  have brought : (ofReads capacity [sent.encodeHead, octets] memory).stream.read capacity =
      (.octets sent.encodeHead, [.octets octets]) := if_pos room
  rw [readHead, await_of_read waits prepared some brought, await.eq_def]
  simp only [ReadBuffer.receive, List.nil_append, found]
  rfl

/-- A request cannot be read when its body is as large as the memory. -/
theorem readRequest_of_vast_body (limits : Limits) (capacity : Nat) (memory : Memory)
    (sendable : sent.IsSendable)
    (sized : sent.body = .sized sent.body.octets) (within : sent.encodeHead.length ≤ limits.head)
    (permitted : sent.body.octets.length ≤ limits.body) (room : sent.encodeHead.length ≤ capacity)
    (narrow : capacity < sent.body.octets.length) (vast : memory.size ≤ sent.body.octets.length)
    (small : sent.body.octets.length < wordSize) :
    ∃ error, ((ofReads capacity [sent.encodeHead, sent.body.octets] memory).readRequest limits).1 =
      .error (.fault (.reservation error)) := by
  obtain ⟨head, reads, spells⟩ := SentRequest.spells_encodeHead sendable within
  have positive : 0 < memory.size := Nat.lt_of_lt_of_le (by decide) memory.page
  have framed := SentRequest.ofFields_of_readsHead sendable reads small
  have framing : sent.body.framing = .sized sent.body.octets.length := by
    rw [sized]
    exact if_neg (by show ¬ sent.body.octets.length = 0; omega)
  rw [framing] at framed
  let middle : Reader := ofReads capacity [sent.body.octets] memory
  have missing : middle.buffer.data.length < sent.body.octets.length :=
    Nat.lt_of_lt_of_le positive vast
  obtain ⟨error, bodyRead⟩ := readBody_of_vast permitted vast missing narrow
  refine ⟨error, ?_⟩
  simp only [readRequest, readHead_of_first_read spells room, framed, bodyRead, middle]

end Reader

namespace SentRequest

/-- A request with a delete character in its target. -/
def withDelete : SentRequest :=
  { method := Bytes.ascii "GET", target := [Target.slash, 0x7F], version := .http11 }

def forRoot (before : List (Bytes × Bytes)) (body : SentBody) : SentRequest :=
  { method := Bytes.ascii "GET", target := [Target.slash], version := .http11, before, body }

def withName (name : Bytes) : SentRequest := forRoot [(name, Bytes.ascii "v")] .absent

/-- A name one character too long. -/
def longName : Bytes := List.replicate (FieldName.maximumLength + 1) 0x61

def someMemory : Memory := { size := 1 <<< 36 }

/-- A request with a body as large as that memory. -/
def withVastBody : SentRequest := forRoot [] (.sized (List.replicate someMemory.size 0))

theorem isWellFormed_withDelete : withDelete.IsWellFormed where
  method := by decide
  path := rfl
  ascii := by simp [withDelete, Target.slash]
  noFragment := by decide
  accepted := ⟨.origin [Target.slash, 0x7F] none, by decide⟩
  version := .inr rfl
  few := by decide
  free := by simp [withDelete]
  chunks := by simp [withDelete, SentBody.chunks]

theorem isFreeLine_longName : IsFreeLine (longName, Bytes.ascii "v") := by
  have length : longName.lowered.length = FieldName.maximumLength + 1 := by
    rw [Bytes.lowered, List.length_map, longName, List.length_replicate]
  refine ⟨⟨⟨?_, ?_⟩, by decide, by decide⟩, ?_, ?_⟩
  · simp [longName]
  · intro byte member
    rw [List.eq_of_mem_replicate member]
    decide
  · intro same
    rw [same] at length
    exact absurd length (by decide)
  · intro same
    rw [same] at length
    exact absurd length (by decide)

theorem isWellFormed_forRoot {before : List (Bytes × Bytes)} {body : SentBody}
    (few : (forRoot before body).lines.length ≤ HeadLines.maximumFields)
    (free : ∀ line ∈ before, IsFreeLine line) (chunks : ∀ chunk ∈ body.chunks, chunk ≠ []) :
    (forRoot before body).IsWellFormed where
  method := show IsToken (Bytes.ascii "GET") by decide
  path := rfl
  ascii := by simp [forRoot, Target.slash]
  noFragment := show Target.numberSign ∉ [Target.slash] by decide
  accepted := ⟨.origin [Target.slash] none, by show Target.parse [Target.slash] = _; decide⟩
  version := .inr rfl
  few := few
  free := by simpa [forRoot] using free
  chunks := chunks

theorem isWellFormed_withName {name : Bytes} (free : IsFreeLine (name, Bytes.ascii "v")) :
    (withName name).IsWellFormed :=
  isWellFormed_forRoot (show 1 ≤ HeadLines.maximumFields by decide) (by simpa using free)
    (by simp [SentBody.chunks])

theorem length_encode_withName (name : Bytes) :
    (withName name).encode.length = name.length + 23 := by
  have mark : (Bytes.ascii ": ").length = 2 := rfl
  have value : (Bytes.ascii "v").length = 1 := rfl
  have start : (withName name).requestLine.length = 16 := rfl
  simp only [encode, encodeHead, List.length_append, start]
  simp only [withName, forRoot, lines, SentBody.framingLines, SentBody.encode, Response.fieldLine,
    List.append_nil, List.flatMap_singleton, List.length_append, List.length_nil, mark, value]
  rw [show Bytes.lineEnd.length = 2 from rfl]
  omega

theorem isSendable_withVastBody : withVastBody.IsSendable where
  toIsWellFormed := isWellFormed_forRoot (show 1 ≤ HeadLines.maximumFields by decide) (by simp)
    (by simp [SentBody.chunks])
  noDelete := show 0x7F ∉ [Target.slash] by decide
  short := by simp [withVastBody, forRoot]

theorem length_encodeHead_withVastBody : withVastBody.encodeHead.length ≤ 64 := by
  have length : (Numeral.decimal someMemory.size).length = 11 := by decide +kernel
  simp only [withVastBody, forRoot, encodeHead, requestLine, lines, SentBody.framingLines,
    Response.fieldLine, List.length_replicate, List.nil_append, List.append_nil,
    List.flatMap_singleton, List.length_append, List.length_cons, length]
  decide

end SentRequest

namespace Reader

/-! ## All requests -/

/-- Requests that a client sends one after the other are read as the same requests in the same
order, in whatever reads they arrive and whatever room the buffer has. Then comes the ordinary end
of the stream, and the buffer is empty. -/
theorem readThroughFailure_of_sent {sents : List SentRequest} {most : Nat}
    (some : 0 < limits.head) (sendable : ∀ sent ∈ sents, sent.IsSendable)
    (within : ∀ sent ∈ sents, sent.Within limits reader.buffer.memory)
    (delivers : reader.Delivers (sents.flatMap SentRequest.encode)) (enough : sents.length < most) :
    ∃ readings after, reader.readThroughFailure limits most =
        readings ++ [(.error (.refused .closed), after)] ∧
      after.buffer.data = [] ∧
      List.Forall₂ (fun sent (reading : Reading) =>
        ∃ request, reading.1 = .ok request ∧ sent.Reads request) sents readings := by
  obtain ⟨further, rfl⟩ : ∃ further, most = further + 1 := ⟨most - 1, by omega⟩
  induction sents generalizing reader further with
  | nil =>
      obtain ⟨after, reading, nothing⟩ := readRequest_at_end some delivers
      exact ⟨[], after, by simp [readThroughFailure, reading], nothing, List.Forall₂.nil⟩
  | cons sent others inductionHypothesis =>
      rw [List.flatMap_cons] at delivers
      obtain ⟨request, middle, reading, reads, rest⟩ :=
        SentRequest.readRequest_of_sent (sendable sent List.mem_cons_self)
          (within sent List.mem_cons_self) delivers
      rw [List.length_cons] at enough
      obtain ⟨fewer, rfl⟩ : ∃ fewer, further = fewer + 1 := ⟨further - 1, by omega⟩
      have memory : middle.buffer.memory = reader.buffer.memory := by
        have kept := memory_readRequest limits reader
        rwa [reading] at kept
      rw [← memory] at within
      obtain ⟨readings, after, last, nothing, all⟩ := inductionHypothesis
        (fun other member => sendable other (List.mem_cons_of_mem _ member))
        (fun other member => within other (List.mem_cons_of_mem _ member)) rest fewer (by omega)
      refine ⟨(.ok request, middle) :: readings, after, ?_, nothing,
        List.Forall₂.cons ⟨request, rfl, reads⟩ all⟩
      rw [readThroughFailure]
      simp only [reading, last, List.cons_append]

/-- A request without a body, one with a length and one in two chunks, in reads that end in the
middle of them. -/
theorem readThroughFailure_of_sent_of_three_bodies :
    let sents : List SentRequest := [
      { method := Bytes.ascii "GET", target := Bytes.ascii "/a?b", version := .http11 },
      { method := Bytes.ascii "PUT", target := Bytes.ascii "/", version := .http10
        before := [(Bytes.ascii "X", Bytes.ascii "1")], body := .sized (Bytes.ascii "wiki")
        after := [(Bytes.ascii "x", Bytes.ascii "2")] },
      { method := Bytes.ascii "POST", target := Bytes.ascii "/c", version := .http11
        body := .chunked [Bytes.ascii "wi", Bytes.ascii "ki"] }]
    let reads : List Bytes := [
      Bytes.ascii "GET /a?b HTTP/1.1\r\n\r\nPUT / HTTP/1.0\r\nX: 1\r\nContent-Len",
      Bytes.ascii "gth: 4\r\nx: 2\r\n\r\nwi",
      Bytes.ascii "kiPOST /c HTTP/1.1\r\nTransfer-Encoding: chunked\r\n\r\n2\r\nwi\r",
      Bytes.ascii "\n2\r\nki\r\n0\r\n\r\n"]
    ∃ readings after, (ofReads 0 reads).readThroughFailure { head := 60, body := 4 } 4 =
        readings ++ [(.error (.refused .closed), after)] ∧
      after.buffer.data = [] ∧
      List.Forall₂ (fun sent (reading : Reading) =>
        ∃ request, reading.1 = .ok request ∧ sent.Reads request) sents readings := by
  intro sents reads
  have whole : sents.flatMap SentRequest.encode = reads.flatten := by decide +kernel
  have delivers : (ofReads 0 reads).Delivers (sents.flatMap SentRequest.encode) := by
    rw [whole]
    exact delivers_ofReads (by decide)
  exact readThroughFailure_of_sent (by decide) (by decide +kernel) (by decide +kernel) delivers
    (by decide)

/-- Requests that follow the grammar and keep to the bounds, and that are not read: none at all
where the bound on heads is nothing, one with a delete character in its target, one with too long
a name, and one with a body as large as the memory. -/
theorem wellFormed_not_read :
    (ofReads 8192 []).outcomes { head := 0 } 1 = [.error (.refused (.headTooLarge 0))] ∧
    (SentRequest.withDelete.IsWellFormed ∧ SentRequest.withDelete.Within {} {} ∧
      (ofReads 8192 [SentRequest.withDelete.encode]).outcomes {} 1 =
        [.error (.refused (.malformed .token))]) ∧
    ((SentRequest.withName SentRequest.longName).IsWellFormed ∧
      (SentRequest.withName SentRequest.longName).Within { head := 100000 } {} ∧
      (ofReads 8192 [(SentRequest.withName SentRequest.longName).encode]).outcomes
        { head := 100000 } 1 = [.error (.refused (.invalidHead .fieldName))]) ∧
    SentRequest.withVastBody.IsWellFormed ∧ SentRequest.withVastBody.encodeHead.length ≤ 64 ∧
      SentRequest.withVastBody.body.octets.length ≤ SentRequest.someMemory.size ∧ ∃ error,
      (ofReads 64 [SentRequest.withVastBody.encodeHead, SentRequest.withVastBody.body.octets]
        SentRequest.someMemory).outcomes { head := 64, body := SentRequest.someMemory.size } 1 =
          [.error (.fault (.reservation error))] := by
  have formedName := SentRequest.isWellFormed_withName SentRequest.isFreeLine_longName
  have lengthName : (SentRequest.withName SentRequest.longName).encode.length = 65559 := by
    rw [SentRequest.length_encode_withName, SentRequest.longName, List.length_replicate]
    decide
  have length : SentRequest.withVastBody.body.octets.length = SentRequest.someMemory.size :=
    List.length_replicate
  refine ⟨by decide +kernel, ⟨SentRequest.isWellFormed_withDelete, ?_, ?_⟩,
    ⟨formedName, ?_, ?_⟩, SentRequest.isSendable_withVastBody.toIsWellFormed,
    SentRequest.length_encodeHead_withVastBody, Nat.le_of_eq length, ?_⟩
  · exact ⟨by decide, by decide, by decide, by decide⟩
  · have barred : ¬ SentRequest.withDelete.IsSendable :=
      fun sendable => sendable.noDelete (by decide)
    exact outcomes_of_not_sendable {} 8192 SentRequest.isWellFormed_withDelete barred (by decide)
      (by decide)
  · have cut : (SentRequest.withName SentRequest.longName).encode =
        (SentRequest.withName SentRequest.longName).encodeHead := List.append_nil _
    refine ⟨?_, ?_, by decide, ?_⟩
    · rw [← cut, lengthName]
      decide
    · simp [SentRequest.withName, SentRequest.forRoot, SentBody.sizeLines]
    · rw [lengthName]
      decide
  · have barred : ¬ (SentRequest.withName SentRequest.longName).IsSendable := by
      intro sendable
      have short := sendable.short _ (List.mem_singleton.mpr rfl)
      rw [SentRequest.longName, List.length_replicate] at short
      omega
    have refused := outcomes_of_not_sendable { head := 100000 } 8192 formedName barred
      (by rw [lengthName]; decide) (by rw [lengthName]; decide)
    rwa [if_neg (by decide)] at refused
  · have narrow := SentRequest.length_encodeHead_withVastBody
    obtain ⟨error, refused⟩ := readRequest_of_vast_body
      { head := 64, body := SentRequest.someMemory.size } 64 SentRequest.someMemory
      SentRequest.isSendable_withVastBody rfl narrow (Nat.le_of_eq length) narrow
      (by rw [length]; decide) (Nat.le_of_eq length.symm) (by rw [length]; decide)
    exact ⟨error, by rw [outcomes_succ, refused]⟩

end Reader

end HttpServer
