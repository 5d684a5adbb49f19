import HttpServer.Proofs.ChunkGrammar
import HttpServer.Proofs.WrittenHead

/-!
# A written body is read back

The field lines of a written head say how its body was written, and the scan for a body in that
form waits on every front of it and finds it once it is all there. What is written for chunks is an
encoding in the grammar of chunked bodies.
-/

namespace HttpServer

namespace SentBody

theorem length_octets_le (body : SentBody) : body.octets.length ≤ body.encode.length := by
  cases body with
  | absent | sized octets =>
      exact Nat.le_refl _
  | chunked chunks =>
      show chunks.flatten.length ≤ (encodeChunks chunks).length
      rw [encodeChunks, List.length_append]
      induction chunks with
      | nil =>
          exact Nat.zero_le _
      | cons chunk others inductionHypothesis =>
          simp only [List.flatten_cons, List.flatMap_cons, List.length_append, encodeChunk] at *
          omega

end SentBody

/-! ## Chunks -/

namespace Chunked

variable {limits : Limits}

def SizeLine.ofSize (size : Nat) (small : size < wordSize) : SizeLine where
  digits := Numeral.hexadecimal size
  hexadecimal :=
    List.all_eq_true.mpr fun _ member => Numeral.isHexDigit_of_mem_hexadecimal member
  few := Numeral.length_hexadecimal_le (by decide) small

theorem SizeLine.octets_ofSize {size : Nat} (small : size < wordSize) :
    (ofSize size small).octets = SentBody.sizeLine size :=
  rfl

theorem SizeLine.size_ofSize {size : Nat} (small : size < wordSize) :
    (ofSize size small).size = size :=
  Numeral.hexValue_hexadecimal size

/-- What a client writes for chunks is an encoding of them all. -/
theorem exists_encoding {chunks : List Bytes} (some : ∀ chunk ∈ chunks, chunk ≠ [])
    (small : ∀ chunk ∈ chunks, chunk.length < wordSize) :
    ∃ encoding : Encoding, encoding.octets = SentBody.encodeChunks chunks ∧
      encoding.body = chunks.flatten ∧
      encoding.lines =
        chunks.map (fun chunk => SentBody.sizeLine chunk.length) ++ [SentBody.sizeLine 0] := by
  induction chunks with
  | nil =>
      have none : 0 < wordSize := by decide
      exact ⟨{ last := .ofSize 0 none, zero := SizeLine.size_ofSize none }, rfl, rfl, rfl⟩
  | cons data others inductionHypothesis =>
      obtain ⟨encoding, octets, body, lines⟩ := inductionHypothesis
        (fun other member => some other (List.mem_cons_of_mem _ member))
        (fun other member => small other (List.mem_cons_of_mem _ member))
      have smallData := small data List.mem_cons_self
      let chunk : Chunk :=
        { line := .ofSize data.length smallData, data, some := some data List.mem_cons_self
          same := SizeLine.size_ofSize smallData }
      refine ⟨encoding.push chunk, ?_, ?_, ?_⟩
      · rw [Encoding.octets_push, octets]
        simp only [chunk, Chunk.octets, SizeLine.octets_ofSize, SentBody.encodeChunks,
          SentBody.encodeChunk, List.flatMap_cons, List.append_assoc]
      · rw [Encoding.body_push, body]
        rfl
      · rw [Encoding.lines_push, lines]
        rfl

/-- Chunks that have been written are read back. The scan stands `passed` octets into the buffer
and never waits for more than what has been written. -/
theorem spells_encodeChunks {chunks : List Bytes} (passed decoded : Nat)
    (some : ∀ chunk ∈ chunks, chunk ≠ [])
    (within : ∀ chunk ∈ chunks, (SentBody.sizeLine chunk.length).length ≤ limits.head)
    (withinLast : (SentBody.sizeLine 0).length ≤ limits.head)
    (fit : decoded + chunks.flatten.length ≤ limits.body)
    (near : passed + (SentBody.encodeChunks chunks).length < wordSize) :
    Attempt.Spells passed (scanChunks limits passed decoded) (SentBody.encodeChunks chunks)
      chunks.flatten := by
  have small : ∀ chunk ∈ chunks, chunk.length < wordSize := by
    intro chunk member
    have inside := (List.sublist_flatten_of_mem member).length_le
    have written := (SentBody.chunked chunks).length_octets_le
    simp only [SentBody.octets, SentBody.encode] at written
    omega
  obtain ⟨encoding, octets, body, lines⟩ := exists_encoding some small
  rw [← octets] at near ⊢
  rw [← body] at fit ⊢
  refine spells_encoding encoding passed decoded ?_ fit near
  intro line member
  rw [lines, List.mem_append, List.mem_map, List.mem_singleton] at member
  rcases member with ⟨chunk, memberChunks, rfl⟩ | rfl
  · exact within chunk memberChunks
  · exact withinLast

end Chunked

/-! ## From the head to the body -/

theorem Fields.get?_of_values {fields : Fields} {name : FieldName} {values : List Bytes}
    (same : (fields.getAll name).map FieldValue.text = values) :
    (fields.get? name).map FieldValue.text = values.head? := by
  rw [get?_eq_head?, ← same, List.head?_map]

namespace SentBody

def framing : SentBody → Framing
  | .absent => .absent
  | .sized octets => if octets.length = 0 then .absent else .sized octets.length
  | .chunked _ => .chunked

theorem codings_of_framingLines (body : SentBody) :
    Fields.valuesOf .transferEncoding body.framingLines =
      match body with
      | .chunked _ => [Framing.chunkedCoding]
      | _ => [] := by
  have noCoding : ((Bytes.ascii "Content-Length").lowered == FieldName.transferEncoding.text) =
      false := by decide
  have coding : ((Bytes.ascii "Transfer-Encoding").lowered == FieldName.transferEncoding.text) =
      true := by decide
  cases body with
  | absent =>
      rfl
  | sized octets =>
      rw [framingLines, Fields.valuesOf_singleton, if_neg (by simp [noCoding])]
  | chunked chunks =>
      rw [framingLines, Fields.valuesOf_singleton, if_pos coding]

theorem lengths_of_framingLines (body : SentBody) :
    Fields.valuesOf .contentLength body.framingLines =
      match body with
      | .sized octets => [Numeral.decimal octets.length]
      | _ => [] := by
  have length : ((Bytes.ascii "Content-Length").lowered == FieldName.contentLength.text) =
      true := by decide
  have noLength : ((Bytes.ascii "Transfer-Encoding").lowered == FieldName.contentLength.text) =
      false := by decide
  cases body with
  | absent =>
      rfl
  | sized octets =>
      rw [framingLines, Fields.valuesOf_singleton, if_pos length]
  | chunked chunks =>
      rw [framingLines, Fields.valuesOf_singleton, if_neg (by simp [noLength])]

end SentBody

theorem Framing.lengthOf_decimal {value : FieldValue} {length : Nat}
    (written : value.text = Numeral.decimal length) (small : length < wordSize) :
    lengthOf value = some length := by
  have textual := Numeral.textual_decimal length
  have all : value.text.all Bytes.isTextual = true := by
    rw [written, List.all_eq_true]
    exact fun byte member => (textual byte member).1
  have text : value.textual? = some (Numeral.decimal length) := by
    rw [FieldValue.textual?, if_pos all, written]
  have trimmed : (Numeral.decimal length).trim = Numeral.decimal length :=
    Bytes.trim_of_no_blank fun byte member => (textual byte member).2
  have read : Numeral.readNatural (wordSize - 1) (Numeral.decimal length) = .ok length :=
    Numeral.readNatural_decimal (by omega)
  simp only [lengthOf, text, bind, Option.bind, trimmed, read]
  rfl

namespace SentRequest

variable {sent : SentRequest}

/-- What the lines say about the body, the line for it says alone. -/
theorem valuesOf_lines (sendable : sent.IsSendable) {name : FieldName}
    (framing : name = .contentLength ∨ name = .transferEncoding) :
    Fields.valuesOf name sent.lines = Fields.valuesOf name sent.body.framingLines := by
  have others (lines : List (Bytes × Bytes)) (free : ∀ line ∈ lines, IsFreeLine line) :
      Fields.valuesOf name lines = [] := by
    apply Fields.valuesOf_eq_nil
    intro line member
    rcases framing with rfl | rfl
    · exact (free line member).noLength
    · exact (free line member).noCoding
  rw [lines, Fields.valuesOf_append, Fields.valuesOf_append,
    others sent.before (fun line member => sendable.free line (List.mem_append_left _ member)),
    others sent.after (fun line member => sendable.free line (List.mem_append_right _ member)),
    List.nil_append, List.append_nil]

/-- The head asks for the framing in which the body was written. -/
theorem ofFields_of_readsHead {head : RequestHead} (sendable : sent.IsSendable)
    (reads : sent.ReadsHead head) (small : sent.body.octets.length < wordSize) :
    Framing.ofFields head.fields = .ok sent.body.framing := by
  have codings := Fields.get?_of_values (reads.fields .transferEncoding)
  have lengths := Fields.get?_of_values (reads.fields .contentLength)
  rw [valuesOf_lines sendable (.inr rfl), SentBody.codings_of_framingLines] at codings
  rw [valuesOf_lines sendable (.inl rfl), SentBody.lengths_of_framingLines] at lengths
  cases body : sent.body with
  | absent =>
      simp only [body, List.head?_nil, Option.map_eq_none_iff] at codings lengths
      simp only [Framing.ofFields, codings, lengths, SentBody.framing]
  | sized octets =>
      simp only [body, List.head?_nil, List.head?_cons, Option.map_eq_none_iff,
        Option.map_eq_some_iff] at codings lengths
      obtain ⟨value, found, written⟩ := lengths
      rw [body] at small
      have length := Framing.lengthOf_decimal written small
      cases size : octets.length with
      | zero =>
          rw [size] at length
          simp only [Framing.ofFields, codings, found, length, SentBody.framing, size, if_true]
      | succ less =>
          rw [size] at length
          simp only [Framing.ofFields, codings, found, length, SentBody.framing, size,
            Nat.add_one_ne_zero, if_false]
  | chunked chunks =>
      simp only [body, List.head?_cons, Option.map_eq_some_iff] at codings
      obtain ⟨value, found, written⟩ := codings
      have textual : value.textual? = some Framing.chunkedCoding := by
        rw [FieldValue.textual?, written]
        decide
      have last : Framing.endsInChunked Framing.chunkedCoding = true := by decide
      simp only [Framing.ofFields, found, textual, last, if_true, SentBody.framing]

/-- A written body that keeps to the bounds is read back. -/
theorem spells_encodeBody {limits : Limits} (sendable : sent.IsSendable)
    {memory : Memory} (within : sent.Within limits memory) :
    Attempt.Spells 0 (sent.body.framing.scanBody limits) sent.body.encode sent.body.octets := by
  have small : sent.body.encode.length < wordSize := by
    have space : addressSpace < wordSize := by decide
    have addressable := memory.addressable
    have room := within.room
    rw [encode, List.length_append] at room
    omega
  have fit := within.body
  have lines := within.sizeLines
  have chunksSome := sendable.chunks
  cases body : sent.body with
  | absent =>
      constructor
      · intro more
        rfl
      · intro front tail cut strict
        exact absurd (List.append_eq_nil_iff.mp cut.symm).2 strict
  | sized octets =>
      rw [body] at fit
      by_cases none : octets.length = 0
      · rw [List.length_eq_zero_iff] at none
        subst none
        constructor
        · intro more
          rfl
        · intro front tail cut strict
          exact absurd (List.append_eq_nil_iff.mp cut.symm).2 strict
      · have form : (SentBody.sized octets).framing = .sized octets.length := if_neg none
        rw [form]
        exact Framing.spells_scanSized fit
  | chunked chunks =>
      rw [body] at small fit lines
      rw [body] at chunksSome
      apply Chunked.spells_encodeChunks 0 0 chunksSome
      · intro chunk member
        apply lines
        exact List.mem_append_left _ (List.mem_map.mpr ⟨chunk, member, rfl⟩)
      · apply lines
        exact List.mem_append_right _ (List.mem_singleton.mpr rfl)
      · rw [Nat.zero_add]
        exact fit
      · rw [Nat.zero_add]
        exact small

end SentRequest

end HttpServer
