import HttpServer.Proofs.ChunkGrammar
import HttpServer.Proofs.ContentLengths
import HttpServer.Proofs.Filling
import HttpServer.Proofs.InsertedLine
import HttpServer.Proofs.TransferCodings

/-!
# A body with its length and the same body in chunks

A body can be sent after a line with its length or in chunks. The two framings compare it with its
bound in different places: the length at once, the chunks one after the other, each before it is
waited for. They agree all the same: on the body, on its refusal, and on what is left behind it.
-/

namespace HttpServer

theorem add_lt_wordSize {start length : Nat} (near : start < addressSpace)
    (small : length ≤ maximumCollection) :
    start + length + 2 < wordSize := by
  have room : addressSpace + maximumCollection + 2 < wordSize := by decide
  omega

/-! ## The body in chunks -/

namespace Chunked

variable {limits : Limits} {passed decoded : Nat} {used : Bytes}
  {verdict : Bytes → Attempt Bytes}

theorem decidesBelow_chunk {chunk : Chunk} (within : chunk.line.octets.length ≤ limits.head)
    (fit : decoded + chunk.data.length ≤ limits.body)
    (small : chunk.data.length ≤ maximumCollection)
    (behind : Attempt.DecidesBelow (addressSpace - (passed + chunk.octets.length))
      (scanChunks limits (passed + chunk.octets.length) (decoded + chunk.data.length)) used
      verdict) :
    Attempt.DecidesBelow (addressSpace - passed) (scanChunks limits passed decoded)
      (chunk.octets ++ used) fun more => (verdict more).map (chunk.data ++ ·) := by
  have length := chunk.length_octets
  have near {front : Bytes} (few : front.length < addressSpace - passed)
      (line : chunk.line.octets.length ≤ front.length) :
      passed + chunk.octets.length < wordSize := by
    -- the size is added to an offset that memory bounds, once the size line has come
    have start : passed + chunk.line.octets.length < addressSpace := by omega
    have stop := add_lt_wordSize start small
    omega
  constructor
  · intro few more
    have line : chunk.line.octets.length ≤ (chunk.octets ++ used).length := by
      rw [List.length_append]
      omega
    have fewBehind : used.length < addressSpace - (passed + chunk.octets.length) := by
      rw [List.length_append] at few
      omega
    rw [List.append_assoc, scanChunks_chunk fit (near few line), behind.whole fewBehind]
  · intro front tail cut strict few
    rcases scanChunks_of_chunk_front within fit (near few) cut with
      ⟨wanted, -, waits⟩ | ⟨inner, rfl, cutUsed⟩
    · exact ⟨wanted, waits⟩
    · have line : chunk.line.octets.length ≤ (chunk.octets ++ inner).length := by
        rw [List.length_append]
        omega
      have fewInner : inner.length < addressSpace - (passed + chunk.octets.length) := by
        rw [List.length_append] at few
        omega
      obtain ⟨wanted, waits⟩ := behind.front inner tail cutUsed strict fewInner
      refine ⟨wanted, ?_⟩
      rw [scanChunks_chunk fit (near few line), waits]
      rfl

/-- What is decided behind chunks that fit is decided with them in front. -/
theorem decidesBelow_chunks (chunks : List Chunk) (passed decoded : Nat)
    (within : ∀ chunk ∈ chunks, chunk.line.octets.length ≤ limits.head)
    (fit : decoded + (chunks.flatMap Chunk.data).length ≤ limits.body)
    (small : (chunks.flatMap Chunk.data).length ≤ maximumCollection)
    (behind : ∀ passed, Attempt.DecidesBelow (addressSpace - passed)
      (scanChunks limits passed (decoded + (chunks.flatMap Chunk.data).length)) used verdict) :
    Attempt.DecidesBelow (addressSpace - passed) (scanChunks limits passed decoded)
      (chunks.flatMap Chunk.octets ++ used)
      fun more => (verdict more).map (chunks.flatMap Chunk.data ++ ·) := by
  induction chunks generalizing passed decoded with
  | nil =>
      have same : (fun more => (verdict more).map ([] ++ ·)) = verdict := by
        funext more
        cases verdict more <;> rfl
      rw [List.flatMap_nil, List.flatMap_nil, List.nil_append, same]
      exact behind passed
  | cons chunk others inductionHypothesis =>
      rw [List.flatMap_cons, List.length_append] at fit small
      have both : (fun more => (verdict more).map (chunk.data ++ others.flatMap Chunk.data ++ ·)) =
          fun more =>
            ((verdict more).map (others.flatMap Chunk.data ++ ·)).map (chunk.data ++ ·) := by
        funext more
        cases verdict more <;> simp [Attempt.map]
      have rest := inductionHypothesis (passed + chunk.octets.length)
        (decoded + chunk.data.length)
        (fun other member => within other (List.mem_cons_of_mem _ member)) (by omega) (by omega)
        (fun passed => by
          have here := behind passed
          rwa [List.flatMap_cons, List.length_append, ← Nat.add_assoc] at here)
      rw [List.flatMap_cons, List.flatMap_cons, both, List.append_assoc]
      exact decidesBelow_chunk (within chunk List.mem_cons_self) (by omega) (by omega) rest

theorem decidesBelow_large (bound passed : Nat) {chunk : Chunk}
    (within : chunk.line.octets.length ≤ limits.head)
    (large : limits.body < decoded + chunk.data.length) (counted : limits.body < wordSize - 1) :
    Attempt.DecidesBelow bound (scanChunks limits passed decoded) chunk.line.octets
      fun _ => .refused (.bodyTooLarge limits.body) := by
  have tooLarge : fits limits decoded chunk.data.length = false := by
    simp only [fits, decide_eq_false_iff_not]
    omega
  constructor
  · intro _ more
    rw [scanChunks_chunk_line, scanData, tooLarge]
    rfl
  · intro front tail cut strict _
    exact ⟨0, scanChunks_of_line_front cut strict within⟩

/-- A body that is longer than allowed has a first chunk that makes it so. -/
theorem exists_large_chunk {chunks : List Chunk} (room : Nat)
    (long : room < (chunks.flatMap Chunk.data).length) :
    ∃ fitting chunk others, chunks = fitting ++ chunk :: others ∧
      (fitting.flatMap Chunk.data).length ≤ room ∧
      room < (fitting.flatMap Chunk.data).length + chunk.data.length := by
  -- each chunk that fits leaves less room
  induction chunks generalizing room with
  | nil =>
      simp at long
  | cons first others inductionHypothesis =>
      by_cases large : room < first.data.length
      · exact ⟨[], first, others, rfl, Nat.zero_le _, by simpa using large⟩
      · rw [List.flatMap_cons, List.length_append] at long
        obtain ⟨fitting, chunk, behind, rfl, fit, exceeds⟩ :=
          inductionHypothesis (room - first.data.length) (by omega)
        refine ⟨first :: fitting, chunk, behind, rfl, ?_, ?_⟩
        · rw [List.flatMap_cons, List.length_append]
          omega
        · rw [List.flatMap_cons, List.length_append]
          omega

namespace Encoding

variable {encoding : Encoding}

theorem within_of_mem_chunks (within : ∀ line ∈ encoding.lines, line.length ≤ limits.head) :
    ∀ chunk ∈ encoding.chunks, chunk.line.octets.length ≤ limits.head :=
  fun chunk member =>
    within _ (List.mem_append_left _ (List.mem_map.mpr ⟨chunk, member, rfl⟩))

theorem decidesBelow_of_fit (within : ∀ line ∈ encoding.lines, line.length ≤ limits.head)
    (small : encoding.body.length ≤ maximumCollection)
    (fit : encoding.body.length ≤ limits.body) :
    Attempt.DecidesBelow addressSpace (Framing.chunked.scanBody limits) encoding.octets
      (.found encoding.body) := by
  let ending : Encoding := ⟨[], encoding.last, encoding.trailers, encoding.zero⟩
  have withinEnding : ∀ line ∈ ending.lines, line.length ≤ limits.head :=
    fun line member => within line (List.mem_append_right _ member)
  have behind (passed : Nat) : Attempt.DecidesBelow (addressSpace - passed)
      (scanChunks limits passed (0 + encoding.body.length))
      (encoding.last.octets ++ trailerOctets encoding.trailers) (.found []) := by
    have spells := spells_encoding_of_reach ending passed (0 + encoding.body.length) withinEnding
      (by show 0 + encoding.body.length + 0 ≤ limits.body; omega)
      (fun some => absurd rfl some)
    exact spells.decidesBelow _
  have decides := decidesBelow_chunks encoding.chunks 0 0 (within_of_mem_chunks within)
    (by rw [Nat.zero_add]; exact fit) small behind
  have all : encoding.chunks.flatMap Chunk.data ++ [] = encoding.body := List.append_nil _
  simp only [Attempt.map, all] at decides
  exact decides

/-- A body in chunks that goes over its bound is refused before all of it has come. -/
theorem decidesBelow_of_large (within : ∀ line ∈ encoding.lines, line.length ≤ limits.head)
    (small : encoding.body.length ≤ maximumCollection)
    (large : limits.body < encoding.body.length) :
    ∃ used rest, encoding.octets = used ++ rest ∧
      Attempt.DecidesBelow addressSpace (Framing.chunked.scanBody limits) used
        fun _ => .refused (.bodyTooLarge limits.body) := by
  obtain ⟨fitting, chunk, others, cut, fit, exceeds⟩ := exists_large_chunk limits.body large
  have withinChunks := within_of_mem_chunks within
  rw [cut] at withinChunks
  have parts : encoding.body.length =
      (fitting.flatMap Chunk.data).length + (chunk.data.length +
        (others.flatMap Chunk.data).length) := by
    rw [body, cut, List.flatMap_append, List.flatMap_cons, List.length_append, List.length_append]
  have counted : limits.body < wordSize - 1 := by
    have collection : maximumCollection < wordSize - 1 := by decide
    omega
  have exceedsHere : limits.body <
      0 + (fitting.flatMap Chunk.data).length + chunk.data.length := by omega
  have behind (passed : Nat) := decidesBelow_large (addressSpace - passed) passed
    (withinChunks chunk (List.mem_append_right _ List.mem_cons_self)) exceedsHere counted
  have decides := decidesBelow_chunks fitting 0 0
    (fun other member => withinChunks other (List.mem_append_left _ member)) (by omega) (by omega)
    behind
  refine ⟨fitting.flatMap Chunk.octets ++ chunk.line.octets,
    chunk.data ++ Bytes.lineEnd ++ others.flatMap Chunk.octets ++
      (encoding.last.octets ++ trailerOctets encoding.trailers), ?_, decides⟩
  rw [octets, cut, List.flatMap_append, List.flatMap_cons, Chunk.octets]
  simp only [List.append_assoc]

end Encoding

end Chunked

/-! ## The body after its length -/

namespace Framing

variable {limits : Limits} {body : Bytes}

theorem decidesBelow_ofLength_of_fit (fit : body.length ≤ limits.body) (bound : Nat) :
    Attempt.DecidesBelow bound ((ofLength body.length).scanBody limits) body (.found body) := by
  unfold ofLength
  split
  · rename_i none
    obtain rfl := List.eq_nil_of_length_eq_zero none
    constructor
    · intro _ more
      rfl
    · intro front tail cut strict _
      exact absurd (List.append_eq_nil_iff.mp cut.symm).2 strict
  · exact (spells_scanSized fit).decidesBelow bound

theorem decidesBelow_ofLength_of_large (large : limits.body < body.length) (bound : Nat) :
    Attempt.DecidesBelow bound ((ofLength body.length).scanBody limits) []
      fun _ => .refused (.bodyTooLarge limits.body) := by
  have some : body.length ≠ 0 := by omega
  constructor
  · intro _ more
    simp only [ofLength, some, if_false, scanBody, scanSized, large, if_true]
  · intro front tail cut strict _
    exact absurd (List.append_eq_nil_iff.mp cut.symm).2 strict

end Framing

/-! ## The heads -/

def lengthLine (body : Bytes) : Bytes × Bytes :=
  (Bytes.ascii "Content-Length", Numeral.decimal body.length)

def codingLine : Bytes × Bytes := (Bytes.ascii "Transfer-Encoding", Framing.chunkedCoding)

def lineOctets (line : Bytes × Bytes) : Bytes := Response.fieldLine line.1 line.2

theorem isWritable_lengthLine (body : Bytes) : SentRequest.IsWritable (lengthLine body) :=
  have member : lengthLine body ∈ (SentBody.sized body).framingLines := List.mem_singleton.mpr rfl
  (SentBody.isWritable_of_mem_framingLines member).1

theorem isWritable_codingLine : SentRequest.IsWritable codingLine :=
  have member : codingLine ∈ (SentBody.chunked []).framingLines := List.mem_singleton.mpr rfl
  (SentBody.isWritable_of_mem_framingLines member).1

namespace Framing

variable {head given : RequestHead}

theorem spellsLength_decimal {length : Nat} (small : length < wordSize) :
    SpellsLength (Numeral.decimal length) length := by
  have trimmed : (Numeral.decimal length).trim = Numeral.decimal length :=
    Bytes.trim_of_no_blank fun byte member => (Numeral.textual_decimal length byte member).2
  rw [spellsLength_iff, trimmed]
  exact Numeral.readNatural_decimal (by omega)

theorem ofFields_of_lengthLine {body : Bytes} (uncoded : head.fields.getAll .transferEncoding = [])
    (adds : head.AddsField given .contentLength (lengthLine body).2)
    (small : body.length < wordSize) :
    ofFields given.fields = .ok (ofLength body.length) := by
  have uncodedToo : given.fields.getAll .transferEncoding = [] := by
    rw [adds.getAll_of_ne (by decide), uncoded]
  have spelled := spellsLength_decimal small
  obtain ⟨length, spells, framed⟩ | ⟨none, -⟩ := ofFields_of_lengths uncodedToo adds.added
  · have same : Except.ok length = Except.ok body.length :=
      (spellsLength_iff.mp spells).symm.trans (spellsLength_iff.mp spelled)
    rw [framed, Except.ok.inj same]
  · exact absurd ⟨body.length, spelled⟩ none

theorem ofFields_of_codingLine
    (adds : head.AddsField given .transferEncoding codingLine.2) :
    ofFields given.fields = .ok .chunked := by
  rw [ofFields_of_codings adds.added, if_pos (by decide)]

end Framing

/-- The octets are those of this head, which has room for one more line where they are cut, and no
line of it says how a body is framed. -/
structure RequestHead.IsUnframed (head : RequestHead) (lines : HeadLines)
    (opening closing : Bytes) : Prop where
  whole : HeadLines.scan (opening ++ closing) = .found lines []
  read : RequestHead.ofLines lines = .ok head
  few : lines.fields.length < HeadLines.maximumFields
  unsized : Fields.valuesOf .contentLength lines.fields = []
  uncoded : Fields.valuesOf .transferEncoding lines.fields = []
  /-- The cut is behind a line: an empty line there would end a head. -/
  gap : ∃ before, HeadLines.scan (opening ++ Bytes.lineEnd) = .found before []

/-! ## Both requests -/

namespace Reader

variable {limits : Limits} {reader : Reader} {head : RequestHead} {framing : Framing}
  {front encoded body rest : Bytes}

/-- The reader brings the octets of a head that is not too long, those of a body and others, in
whatever reads, and is not refused memory for the request. -/
structure Brings (reader : Reader) (limits : Limits) (front encoded rest : Bytes) : Prop where
  within : front.length ≤ limits.head
  delivers : reader.Delivers (front ++ (encoded ++ rest))
  granted : reader.buffer.IsGranted
  memory : outOfMemory (reader.readRequest limits).1 = false

theorem outOfMemory_of_reservation {α : Type} {reading : Except ReadFailure α × Reader}
    {error : ReservationError} (refused : reading.1 = .error (.fault (.reservation error))) :
    outOfMemory reading.1 = true := by
  rw [refused]
  rfl

/-- Behind a head that has come, the body is awaited on what follows it. -/
theorem readBody_of_brings (spelled : head.IsSpelledBy front)
    (framed : Framing.ofFields head.fields = .ok framing)
    (brings : reader.Brings limits front encoded rest) :
    ∃ middle : Reader, middle.Delivers (encoded ++ rest) ∧ middle.buffer.IsGranted ∧
      outOfMemory (middle.readBody limits framing).1 = false ∧
      reader.readRequest limits = ((middle.readBody limits framing).1.map head.withBody,
        (middle.readBody limits framing).2) := by
  obtain ⟨within, delivers, granted, memory⟩ := brings
  have decides := (spells_of_isSpelledBy spelled within).decidesBelow addressSpace
  rcases await_of_found headEnd decides delivers.plain granted delivers.whole with
    ⟨middle, headRead, left, -⟩ | ⟨error, refused⟩
  · have plain : (reader.readHead limits).2.stream.IsPlain := isPlain_await _ _ delivers.plain
    have grantedMiddle := isGranted_readHead limits granted
    have same := readRequest_of_head headRead framed
    rw [readHead, headRead] at plain grantedMiddle
    rw [same] at memory
    refine ⟨middle, ⟨plain, left⟩, grantedMiddle, ?_, same⟩
    cases outcome : (middle.readBody limits framing).1 with
    | ok body =>
        rfl
    | error failure =>
        rw [outcome] at memory
        exact memory
  · have failed : reader.readRequest limits =
        (.error (.fault (.reservation error)), (reader.readHead limits).2) :=
      readRequest_of_head_error (Prod.ext refused rfl)
    rw [outOfMemory_of_reservation (congrArg Prod.fst failed)] at memory
    cases memory

theorem readRequest_of_found (spelled : head.IsSpelledBy front)
    (framed : Framing.ofFields head.fields = .ok framing)
    (decides : Attempt.DecidesBelow addressSpace (framing.scanBody limits) encoded (.found body))
    (brings : reader.Brings limits front encoded rest) :
    ∃ after, reader.readRequest limits = (.ok (head.withBody body), after) ∧
      after.unused = rest := by
  obtain ⟨middle, delivers, granted, memory, same⟩ := readBody_of_brings spelled framed brings
  rcases await_of_found (fun _ => .truncated) decides delivers.plain granted delivers.whole with
    ⟨after, bodyRead, left, -⟩ | ⟨error, refused⟩
  · refine ⟨after, ?_, left⟩
    rw [same, readBody, bodyRead]
    rfl
  · rw [readBody, outOfMemory_of_reservation refused] at memory
    cases memory

theorem readRequest_of_refused {used others : Bytes} {error : DecodeError}
    (spelled : head.IsSpelledBy front) (framed : Framing.ofFields head.fields = .ok framing)
    (cut : encoded = used ++ others)
    (decides : Attempt.DecidesBelow addressSpace (framing.scanBody limits) used
      fun _ => .refused error)
    (brings : reader.Brings limits front encoded rest) :
    (reader.readRequest limits).1 = .error (.refused error) := by
  obtain ⟨middle, delivers, granted, memory, same⟩ := readBody_of_brings spelled framed brings
  have there : middle.unused = used ++ (others ++ rest) := by
    rw [delivers.whole, cut, List.append_assoc]
  rcases await_of_failed (fun _ => .truncated) decides delivers.plain granted there with
    ⟨after, bodyRead⟩ | ⟨error, refused⟩
  · rw [same, readBody, bodyRead]
    rfl
  · rw [readBody, outOfMemory_of_reservation refused] at memory
    cases memory

/-- The same body, which is no longer than a collection may be, after a line with its length and in
chunks, behind heads that differ in that line only. When memory is not refused, both requests are
read with the same body and what follows them is left, or both are refused because the body is too
long. The line stands between any two lines of the head, the octets come in any reads, and each
buffer has whatever room was granted. -/
theorem readRequest_agrees_on_framings {opening closing restSized restChunked : Bytes}
    {lines : HeadLines} {encoding : Chunked.Encoding} {sized chunked : Reader}
    (unframed : head.IsUnframed lines opening closing)
    (collected : encoding.body.length ≤ maximumCollection)
    (within : ∀ line ∈ encoding.lines, line.length ≤ limits.head)
    (bringsSized : sized.Brings limits
      (opening ++ (lineOctets (lengthLine encoding.body) ++ closing)) encoding.body restSized)
    (bringsChunked : chunked.Brings limits
      (opening ++ (lineOctets codingLine ++ closing)) encoding.octets restChunked) :
    ∃ sizedHead chunkedHead : RequestHead,
      head.AddsField sizedHead .contentLength (Numeral.decimal encoding.body.length) ∧
      head.AddsField chunkedHead .transferEncoding Framing.chunkedCoding ∧
      (encoding.body.length ≤ limits.body →
        (∃ after, sized.readRequest limits = (.ok (sizedHead.withBody encoding.body), after) ∧
          after.unused = restSized) ∧
        ∃ after, chunked.readRequest limits = (.ok (chunkedHead.withBody encoding.body), after) ∧
          after.unused = restChunked) ∧
      (limits.body < encoding.body.length →
        (sized.readRequest limits).1 = .error (.refused (.bodyTooLarge limits.body)) ∧
        (chunked.readRequest limits).1 = .error (.refused (.bodyTooLarge limits.body))) := by
  obtain ⟨whole, read, few, unsized, uncoded, before, gap⟩ := unframed
  have small : encoding.body.length < wordSize := by
    have collection : maximumCollection < wordSize := by decide
    omega
  have noCoding : head.fields.getAll .transferEncoding = [] := by
    have values := RequestHead.values_of_ofLines read .transferEncoding
    rw [uncoded] at values
    exact List.map_eq_nil_iff.mp values
  have lengthNamed : (Bytes.ascii "Content-Length").lowered = FieldName.contentLength.text := by
    decide
  obtain ⟨sizedHead, spelledSized, addsLength⟩ := RequestHead.isSpelledBy_insert whole read gap few
    unsized (isWritable_lengthLine encoding.body) lengthNamed
  obtain ⟨chunkedHead, spelledChunked, addsCoding⟩ := RequestHead.isSpelledBy_insert whole read gap
    few uncoded isWritable_codingLine (by decide)
  have framedSized := Framing.ofFields_of_lengthLine noCoding addsLength small
  have framedChunked := Framing.ofFields_of_codingLine addsCoding
  refine ⟨sizedHead, chunkedHead, addsLength, addsCoding, ?_, ?_⟩
  · intro fit
    have decidesSized := Framing.decidesBelow_ofLength_of_fit fit addressSpace
    have decidesChunked := Chunked.Encoding.decidesBelow_of_fit within collected fit
    constructor
    · exact readRequest_of_found spelledSized framedSized decidesSized bringsSized
    · exact readRequest_of_found spelledChunked framedChunked decidesChunked bringsChunked
  · intro large
    have decidesSized := Framing.decidesBelow_ofLength_of_large large addressSpace
    obtain ⟨used, others, cut, decidesChunked⟩ :=
      Chunked.Encoding.decidesBelow_of_large within collected large
    constructor
    · exact readRequest_of_refused spelledSized framedSized (List.nil_append _).symm decidesSized
        bringsSized
    · exact readRequest_of_refused spelledChunked framedChunked cut decidesChunked bringsChunked

/-- Five octets in two chunks, with an extension and a trailer, where five octets are allowed and
where four are. -/
theorem readRequest_agrees_on_framings_of_two_chunks :
    let sizedReads := [Bytes.ascii "POST / HTTP/1.1\r\nHost: h\r",
      Bytes.ascii "\nContent-Length: 5\r\nAccept: a\n\nhel", Bytes.ascii "loGET"]
    let chunkedReads := [Bytes.ascii ("POST / HTTP/1.1\r\nHost: h\r\n" ++
      "Transfer-Encoding: chunked\r\nAccept: a\n\n003 ;x=y\r\nhel\r\n2\r\nlo\r\n0\r\n" ++
      "T: v\r\n\r\nPUT")]
    ((∃ request after, (ofReads 0 sizedReads).readRequest { head := 100, body := 5 } =
        (.ok request, after) ∧ request.body = Bytes.ascii "hello" ∧
          after.unused = Bytes.ascii "GET") ∧
      ∃ request after, (ofReads 8192 chunkedReads).readRequest { head := 100, body := 5 } =
        (.ok request, after) ∧ request.body = Bytes.ascii "hello" ∧
          after.unused = Bytes.ascii "PUT") ∧
    ((ofReads 0 sizedReads).readRequest { head := 100, body := 4 }).1 =
        .error (.refused (.bodyTooLarge 4)) ∧
      ((ofReads 8192 chunkedReads).readRequest { head := 100, body := 4 }).1 =
        .error (.refused (.bodyTooLarge 4)) := by
  intro sizedReads chunkedReads
  let opening := Bytes.ascii "POST / HTTP/1.1\r\nHost: h\r\n"
  let closing := Bytes.ascii "Accept: a\n\n"
  let before : HeadLines :=
    { method := Bytes.ascii "POST", target := Bytes.ascii "/", version := .http11
      fields := [(Bytes.ascii "Host", Bytes.ascii "h")] }
  let lines : HeadLines :=
    { before with fields := before.fields ++ [(Bytes.ascii "Accept", Bytes.ascii "a")] }
  let encoding : Chunked.Encoding :=
    { chunks := [
        { line := { digits := Bytes.ascii "003", blanks := Bytes.ascii " "
                    extension := some (Bytes.ascii "x=y") }
          data := Bytes.ascii "hel" },
        { line := { digits := Bytes.ascii "2" }, data := Bytes.ascii "lo" }]
      last := { digits := Bytes.ascii "0" }
      trailers := [{ text := Bytes.ascii "T: v" }] }
  let sizedFront := opening ++ (lineOctets (lengthLine encoding.body) ++ closing)
  let chunkedFront := opening ++ (lineOctets codingLine ++ closing)
  have sizedBrings (limits : Limits) (within : 100 ≤ limits.head)
      (memory : outOfMemory ((ofReads 0 sizedReads).readRequest limits).1 = false) :
      (ofReads 0 sizedReads).Brings limits sizedFront encoding.body (Bytes.ascii "GET") := by
    have whole : sizedReads.flatten = sizedFront ++ (encoding.body ++ Bytes.ascii "GET") := by
      decide +kernel
    have delivers : (ofReads 0 sizedReads).Delivers sizedReads.flatten :=
      delivers_ofReads (by decide)
    rw [whole] at delivers
    have short : sizedFront.length ≤ 100 := by decide +kernel
    exact ⟨Nat.le_trans short within, delivers, ⟨Nat.zero_le _, by decide⟩, memory⟩
  have chunkedBrings (limits : Limits) (within : 100 ≤ limits.head)
      (memory : outOfMemory ((ofReads 8192 chunkedReads).readRequest limits).1 = false) :
      (ofReads 8192 chunkedReads).Brings limits chunkedFront encoding.octets
        (Bytes.ascii "PUT") := by
    have whole : chunkedReads.flatten = chunkedFront ++ (encoding.octets ++ Bytes.ascii "PUT") := by
      decide +kernel
    have delivers : (ofReads 8192 chunkedReads).Delivers chunkedReads.flatten :=
      delivers_ofReads (by decide)
    rw [whole] at delivers
    have short : chunkedFront.length ≤ 100 := by decide +kernel
    exact ⟨Nat.le_trans short within, delivers, ⟨Nat.zero_le _, by decide⟩, memory⟩
  have someHead : (RequestHead.ofLines lines).toOption.isSome = true := by decide +kernel
  cases read : RequestHead.ofLines lines with
  | error error =>
      simp [read, Except.toOption] at someHead
  | ok head =>
      have unframed : head.IsUnframed lines opening closing :=
        ⟨by decide +kernel, read, by decide, by decide, by decide, before, by decide +kernel⟩
      have collected : encoding.body.length ≤ maximumCollection := by decide
      have within : ∀ line ∈ encoding.lines, line.length ≤ 100 := by decide
      let five : Limits := { head := 100, body := 5 }
      let four : Limits := { head := 100, body := 4 }
      have agreeFive := @readRequest_agrees_on_framings five head opening closing _ _ lines encoding
        _ _ unframed collected within (sizedBrings five (by decide) (by decide +kernel))
        (chunkedBrings five (by decide) (by decide +kernel))
      have agreeFour := @readRequest_agrees_on_framings four head opening closing _ _ lines encoding
        _ _ unframed collected within (sizedBrings four (by decide) (by decide +kernel))
        (chunkedBrings four (by decide) (by decide +kernel))
      obtain ⟨sizedHead, chunkedHead, -, -, allowed, -⟩ := agreeFive
      obtain ⟨-, -, -, -, -, refused⟩ := agreeFour
      obtain ⟨⟨afterSized, sizedRead, sizedLeft⟩, afterChunked, chunkedRead, chunkedLeft⟩ :=
        allowed (by decide)
      exact ⟨⟨⟨_, afterSized, sizedRead, rfl, sizedLeft⟩,
        ⟨_, afterChunked, chunkedRead, rfl, chunkedLeft⟩⟩, refused (by decide)⟩

end Reader

end HttpServer
