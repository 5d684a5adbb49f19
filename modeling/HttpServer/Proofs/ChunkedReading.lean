import HttpServer.Proofs.ChunkGrammar
import HttpServer.Proofs.Segmentation

/-!
# Reading chunked bodies

Behind a head that asks for chunks, a request is read exactly when the octets go on with a body in
chunks that keeps to its bound, and then the octets behind that body are left. Both directions hold
for every cut into reads and every room in the buffer, as long as all octets together fit into the
bound on heads.
-/

namespace HttpServer

/-- The octets begin with this body in chunks, which is no longer than it may be. -/
structure Chunked.Encoding.Opens (encoding : Encoding) (limits : Limits) (ahead rest : Bytes) :
    Prop where
  cut : ahead = encoding.octets ++ rest
  fit : encoding.body.length ≤ limits.body

namespace Reader

variable {limits : Limits} {reader after : Reader} {head : RequestHead} {request : Request}
  {front ahead rest : Bytes}

/-! ## What has been read is a body in chunks -/

theorem encoding_of_readRequest_ok (spelled : head.IsSpelledBy front)
    (framed : Framing.ofFields head.fields = .ok .chunked)
    (there : reader.unused = front ++ ahead)
    (gave : reader.readRequest limits = (.ok request, after)) :
    ∃ encoding : Chunked.Encoding, encoding.Opens limits ahead after.unused ∧
      request = head.withBody encoding.body := by
  obtain ⟨other, framing, body, headUsed, bodyUsed, rfl, framedOther, cut, headAgain, bodyAgain⟩ :=
    used_of_readRequest_ok gave
  have found : scanHead limits (front ++ ahead) = .found head ahead :=
    scanHead_of_isSpelledBy spelled ahead
  have again := headAgain (bodyUsed ++ after.unused)
  have whole : front ++ ahead = headUsed ++ (bodyUsed ++ after.unused) := by
    rw [← there, cut]
  rw [← whole, found] at again
  obtain ⟨rfl, rfl⟩ := Attempt.found.inj again
  rw [framed, Except.ok.injEq] at framedOther
  subst framedOther
  have scanned : Chunked.scanChunks limits 0 0 (bodyUsed ++ after.unused) =
      .found body after.unused := bodyAgain after.unused
  obtain ⟨encoding, cutBody, rfl, fit, -⟩ :=
    Chunked.encoding_of_scanChunks scanned (Nat.le_refl 0) (Nat.zero_le _)
  rw [Nat.zero_add] at fit
  exact ⟨encoding, ⟨cutBody, fit⟩, rfl⟩

/-! ## A body in chunks is read -/

/-- A body in chunks that keeps to its bound is found, when all octets fit into the bound on
heads, which is a machine word. -/
theorem spells_of_opens {encoding : Chunked.Encoding} (opens : encoding.Opens limits ahead rest)
    (within : ahead.length ≤ limits.head) (word : limits.head < wordSize) :
    Attempt.Spells 0 (Framing.chunked.scanBody limits) encoding.octets encoding.body := by
  have short : encoding.octets.length ≤ limits.head := by
    rw [opens.cut, List.length_append] at within
    omega
  apply Chunked.spells_encoding encoding 0 0
  · intro line member
    exact Nat.le_trans (encoding.length_le_of_mem_lines member) short
  · rw [Nat.zero_add]
    exact opens.fit
  · rw [Nat.zero_add]
    omega

/-- A request with a body in chunks is read, unless memory is refused. -/
theorem readRequest_of_opens {encoding : Chunked.Encoding} (spelled : head.IsSpelledBy front)
    (framed : Framing.ofFields head.fields = .ok .chunked)
    (delivers : reader.Delivers (front ++ ahead)) (within : (front ++ ahead).length ≤ limits.head)
    (word : limits.head < wordSize) (opens : encoding.Opens limits ahead rest) :
    (∃ after, reader.readRequest limits = (.ok (head.withBody encoding.body), after) ∧
      after.unused = rest) ∨
      LacksMemory reader.buffer.memory (front ++ ahead).length (reader.readRequest limits).1 := by
  rw [List.length_append] at within
  have spellsHead : Attempt.Spells 0 (scanHead limits) front head :=
    spells_of_isSpelledBy spelled (by omega)
  have spellsBody := spells_of_opens opens (by omega) word
  rw [opens.cut] at delivers
  rcases readRequest_of_spells spellsHead framed spellsBody delivers with
    ⟨after, reading, delivered⟩ | lacks
  · exact Or.inl ⟨after, reading, delivered.whole⟩
  · right
    apply lacks.of_le
    rw [opens.cut]
    simp only [List.length_append]
    omega

/-! ## Both directions -/

/-- Behind a head that asks for chunks, a request is read exactly when the octets go on with a
body in chunks that is no longer than it may be, unless memory is refused. The request then has
that body, and the octets behind it are left. The bound on heads is a machine word that all octets
together fit into. -/
theorem readRequest_chunked_iff (spelled : head.IsSpelledBy front)
    (framed : Framing.ofFields head.fields = .ok .chunked)
    (delivers : reader.Delivers (front ++ ahead)) (within : (front ++ ahead).length ≤ limits.head)
    (word : limits.head < wordSize) :
    (∀ request rest,
      (∃ after, reader.readRequest limits = (.ok request, after) ∧ after.unused = rest) ↔
        outOfMemory (reader.readRequest limits).1 = false ∧
          ∃ encoding : Chunked.Encoding, encoding.Opens limits ahead rest ∧
            request = head.withBody encoding.body) ∧
    (2 * (front ++ ahead).length + ReadBuffer.readRoom < reader.buffer.memory.size →
      ∀ (encoding : Chunked.Encoding) rest, encoding.Opens limits ahead rest →
        outOfMemory (reader.readRequest limits).1 = false) := by
  refine ⟨?_, ?_⟩
  · intro request rest
    constructor
    · rintro ⟨after, gave, rfl⟩
      refine ⟨by rw [gave]; rfl, ?_⟩
      exact encoding_of_readRequest_ok spelled framed delivers.whole gave
    · rintro ⟨memory, encoding, opens, rfl⟩
      rcases readRequest_of_opens spelled framed delivers within word opens with found | lacks
      · exact found
      · rw [outOfMemory_of_lacksMemory lacks] at memory
        cases memory
  · intro memory encoding rest opens
    rcases readRequest_of_opens spelled framed delivers within word opens with
      ⟨after, reading, -⟩ | lacks
    · rw [reading]
      rfl
    · exact absurd lacks (not_lacksMemory memory)

/-- A chunk whose octets look like the end of the body, between an extension and a trailer, in
reads that end inside line endings. -/
theorem readRequest_chunked_iff_of_misleading_data :
    let reader := ofReads 0 [
      Bytes.ascii "POST / HTTP/1.1\r\nTransfer-Encoding: chunked\r\n\r\n5;a=b\r\n0\r",
      Bytes.ascii "\n\r\n\r\n0\r\nT: v\r", Bytes.ascii "\n\r\nGET"]
    ∃ request after, reader.readRequest { head := 100, body := 5 } = (.ok request, after) ∧
      request.body = Bytes.ascii "0\r\n\r\n" ∧ after.unused = Bytes.ascii "GET" := by
  intro reader
  let lines : HeadLines :=
    { method := Bytes.ascii "POST", target := Bytes.ascii "/", version := .http11
      fields := [(Bytes.ascii "Transfer-Encoding", Bytes.ascii "chunked")] }
  let front := Bytes.ascii "POST / HTTP/1.1\r\nTransfer-Encoding: chunked\r\n\r\n"
  let encoding : Chunked.Encoding :=
    { chunks := [{ line := { digits := Bytes.ascii "5", extension := some (Bytes.ascii "a=b") }
                   data := Bytes.ascii "0\r\n\r\n" }]
      last := { digits := Bytes.ascii "0" }
      trailers := [{ text := Bytes.ascii "T: v" }] }
  let ahead := encoding.octets ++ Bytes.ascii "GET"
  have scanned : HeadLines.scan front = .found lines [] := by decide +kernel
  have asksChunks : (RequestHead.ofLines lines).map (fun head => Framing.ofFields head.fields) =
      .ok (.ok .chunked) := by decide +kernel
  have delivers : reader.Delivers (front ++ ahead) := by
    have whole : front ++ ahead = List.flatten [
        Bytes.ascii "POST / HTTP/1.1\r\nTransfer-Encoding: chunked\r\n\r\n5;a=b\r\n0\r",
        Bytes.ascii "\n\r\n\r\n0\r\nT: v\r", Bytes.ascii "\n\r\nGET"] := by decide +kernel
    rw [whole]
    exact delivers_ofReads (by decide)
  let limits : Limits := { head := 100, body := 5 }
  have within : (front ++ ahead).length ≤ limits.head := by decide +kernel
  have word : limits.head < wordSize := by decide
  have opens : encoding.Opens limits ahead (Bytes.ascii "GET") := ⟨rfl, by decide⟩
  cases read : RequestHead.ofLines lines with
  | error error =>
      simp [read, Except.map] at asksChunks
  | ok head =>
      rw [read] at asksChunks
      have framed := Except.ok.inj asksChunks
      have both := readRequest_chunked_iff ⟨lines, scanned, read⟩ framed delivers within word
      have memory := both.2 (by decide +kernel) encoding _ opens
      obtain ⟨after, reading, left⟩ := (both.1 _ _).mpr ⟨memory, encoding, opens, rfl⟩
      exact ⟨_, after, reading, rfl, left⟩

end Reader

end HttpServer
