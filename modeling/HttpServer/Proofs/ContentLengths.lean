import HttpServer.Proofs.FieldLines
import HttpServer.Proofs.RequestOctets
import HttpServer.Proofs.Segmentation
import HttpServer.Proofs.WrittenHead

/-!
# Which line of the content lengths decides

A body without a transfer coding is as long as the first content length says. A further line is not
looked at, and a plus sign before the digits is passed over. So the body of an accepted request is
as long as its first line spells, but another line, or a reader that knows no plus sign, may find
another length.
-/

namespace HttpServer

theorem Bytes.isBlank_or_mem_trim {byte : UInt8} {bytes : Bytes} (member : byte ∈ bytes) :
    isBlank byte = true ∨ byte ∈ bytes.trim := by
  obtain ⟨front, back, whole, blankFront, blankBack⟩ := exists_blanks_trim bytes
  rw [whole, List.mem_append, List.mem_append] at member
  rcases member with inFront | inside | inBack
  · exact Or.inl (blankFront byte inFront)
  · exact Or.inr inside
  · exact Or.inl (blankBack byte inBack)

namespace Framing

/-! ## The length that a line spells -/

/-- A value stands for a length when it is, blanks around it aside, the decimal digits of a machine
word. A plus sign may open the digits. -/
def SpellsLength (value : Bytes) (length : Nat) : Prop :=
  length < wordSize ∧ (Numeral.ofDecimal? value.trim = some length ∨
    ∃ digits, value.trim = Numeral.plus :: digits ∧ Numeral.ofDecimal? digits = some length)

theorem spellsLength_iff {value : Bytes} {length : Nat} :
    SpellsLength value length ↔ Numeral.readNatural (wordSize - 1) value.trim = .ok length := by
  have word : length < wordSize ↔ length ≤ wordSize - 1 := Nat.lt_iff_le_pred (by decide)
  rw [Numeral.readNatural_eq_ok_iff, SpellsLength, word]

theorem SpellsLength.textual {value : Bytes} {length : Nat} (spells : SpellsLength value length) :
    value.all Bytes.isTextual = true := by
  have signed : ∀ byte ∈ value.trim, byte = Numeral.plus ∨ Bytes.isDigit byte = true := by
    obtain ⟨-, plain | ⟨digits, same, denotes⟩⟩ := spells
    · intro byte member
      exact Or.inr ((Numeral.ofDecimal?_eq_some_iff.mp plain).2.1 byte member)
    · rw [same]
      intro byte member
      rcases List.mem_cons.mp member with sign | member
      · exact Or.inl sign
      · exact Or.inr ((Numeral.ofDecimal?_eq_some_iff.mp denotes).2.1 byte member)
  rw [List.all_eq_true]
  intro byte member
  rcases Bytes.isBlank_or_mem_trim member with blank | inside
  · exact Bytes.isTextual_of_isBlank blank
  · rcases signed byte inside with rfl | isDigit
    · decide
    · exact (Bytes.isTextual_of_isDigit isDigit).1

theorem lengthOf_eq_some_iff {value : FieldValue} {length : Nat} :
    lengthOf value = some length ↔ SpellsLength value.text length := by
  unfold lengthOf FieldValue.textual?
  by_cases textual : value.text.all Bytes.isTextual = true
  · rw [if_pos textual, spellsLength_iff]
    show (Numeral.readNatural (wordSize - 1) value.text.trim).toOption = some length ↔ _
    cases Numeral.readNatural (wordSize - 1) value.text.trim with
    | error error =>
        simp [Except.toOption]
    | ok number =>
        simp [Except.toOption]
  · rw [if_neg textual]
    constructor
    · intro nothing
      cases nothing
    · intro spells
      exact absurd spells.textual textual

/-! ## The framing that lines of lengths give -/

/-- The framing of a body of a known length. -/
def ofLength (length : Nat) : Framing := if length = 0 then .absent else .sized length

theorem Encodes.of_length {length : Nat} {encoded body : Bytes}
    (encodes : (ofLength length).Encodes encoded body) :
    encoded = body ∧ body.length = length := by
  generalize framed : ofLength length = framing at encodes
  unfold ofLength at framed
  split at framed
  · rename_i zero
    subst framed
    cases encodes
    exact ⟨rfl, zero.symm⟩
  · subst framed
    cases encodes
    exact ⟨rfl, rfl⟩

variable {fields : Fields} {first : Bytes} {others : List Bytes}

/-- Without codings, the framing goes by the first value of the lengths, whatever the others are. -/
theorem ofFields_of_lengths (uncoded : fields.getAll .transferEncoding = [])
    (lengths : (fields.getAll .contentLength).map FieldValue.text = first :: others) :
    (∃ length, SpellsLength first length ∧ ofFields fields = .ok (ofLength length)) ∨
      (¬ ∃ length, SpellsLength first length) ∧
        ofFields fields = .error .invalidContentLength := by
  obtain ⟨value, behind, values, rfl, -⟩ := List.map_eq_cons_iff.mp lengths
  have noCoding : fields.get? .transferEncoding = none := by
    rw [Fields.get?_eq_head?, uncoded]
    rfl
  have found : fields.get? .contentLength = some value := by
    rw [Fields.get?_eq_head?, values]
    rfl
  cases spelled : lengthOf value with
  | none =>
      right
      constructor
      · rintro ⟨length, spells⟩
        rw [lengthOf_eq_some_iff.mpr spells] at spelled
        cases spelled
      · simp only [ofFields, noCoding, found, spelled]
  | some length =>
      left
      refine ⟨length, lengthOf_eq_some_iff.mp spelled, ?_⟩
      cases length with
      | zero =>
          simp only [ofFields, noCoding, found, spelled]
          rfl
      | succ fewer =>
          simp only [ofFields, noCoding, found, spelled]
          rfl

theorem scanBody_ofLength_ne {limits : Limits} {length : Nat} {bytes : Bytes} :
    (ofLength length).scanBody limits bytes ≠ .failed (.refused .invalidContentLength) := by
  unfold ofLength
  split
  · simp [scanBody]
  · simp only [scanBody, scanSized, Attempt.refused]
    split
    · simp
    · split <;> simp

end Framing

namespace Reader

/-- A request without codings but with lengths has the body that its first length asks for, which is
what stands behind its head; and behind a complete head it is refused for its lengths when the
first of them spells none. -/
theorem readRequest_of_lengths (limits : Limits) (reader : Reader) :
    (∀ request after first others, reader.readRequest limits = (.ok request, after) →
      request.fields.getAll .transferEncoding = [] →
      (request.fields.getAll .contentLength).map FieldValue.text = first :: others →
      ∃ front, request.toRequestHead.IsSpelledBy front ∧
        reader.unused = front ++ (request.body ++ after.unused) ∧
        Framing.SpellsLength first request.body.length) ∧
    ∀ head middle first others, reader.readHead limits = (.ok head, middle) →
      head.fields.getAll .transferEncoding = [] →
      (head.fields.getAll .contentLength).map FieldValue.text = first :: others →
      (reader.readRequest limits = (.error (.refused .invalidContentLength), middle) ↔
        ¬ ∃ length, Framing.SpellsLength first length) := by
  constructor
  · intro request after first others gave uncoded lengths
    obtain ⟨head, middle, framing, body, headReading, framed, bodyReading, rfl⟩ :=
      parts_of_readRequest_ok gave
    obtain ⟨front, spelled, cutHead⟩ := isSpelledBy_of_readHead headReading
    obtain ⟨encoded, encodes, cutBody⟩ := encodes_of_readBody bodyReading
    obtain ⟨length, spells, same⟩ | ⟨-, refused⟩ := Framing.ofFields_of_lengths uncoded lengths
    · obtain rfl : framing = Framing.ofLength length := Except.ok.inj (framed.symm.trans same)
      obtain ⟨rfl, rfl⟩ := encodes.of_length
      exact ⟨front, spelled, by rw [cutHead, cutBody]; rfl, spells⟩
    · cases framed.symm.trans refused
  · intro head middle first others headReading uncoded lengths
    obtain ⟨length, spells, framed⟩ | ⟨none, refused⟩ :=
      Framing.ofFields_of_lengths uncoded lengths
    · constructor
      · intro gave
        exfalso
        rw [readRequest_of_head headReading framed] at gave
        -- a body of a known length may be refused or not arrive, but never for its length
        rcases bodyReading : middle.readBody limits (Framing.ofLength length) with
          ⟨failure | body, last⟩
        · have same : failure = .refused .invalidContentLength := by
            simpa [bodyReading, Except.map] using congrArg Prod.fst gave
          subst same
          obtain failed | ⟨wanted, -, ⟨error, fault⟩ | ended | ⟨kind, broken⟩⟩ :=
            await_error_cases bodyReading
          · exact Framing.scanBody_ofLength_ne failed
          · cases fault
          · cases ended
          · cases broken
        · have none := congrArg Prod.fst gave
          simp [bodyReading, Except.map] at none
      · intro none
        exact absurd ⟨length, spells⟩ none
    · constructor
      · intro _
        exact none
      · intro _
        exact readRequest_of_framing_error headReading refused

/-- Two lengths, of which the first alone decides, and a length that none can be read from. -/
theorem readRequest_of_lengths_of_two_lines :
    let agreed := ofReads 8192 [Bytes.ascii ("POST / HTTP/1.1\r\nContent-Length: 2\r\n" ++
      "Content-Length: 3\r\n\r\nabc")]
    let refused := ofReads 8192 [Bytes.ascii "POST / HTTP/1.1\r\nContent-Length: 2x\r\n\r\nabc"]
    (∃ request after front, agreed.readRequest {} = (.ok request, after) ∧
      agreed.unused = front ++ (request.body ++ after.unused) ∧ request.body.length = 2) ∧
      ∃ middle, refused.readRequest {} = (.error (.refused .invalidContentLength), middle) := by
  intro agreed refused
  constructor
  · have some : (agreed.readRequest {}).1.toOption.any (fun request =>
        request.fields.getAll .transferEncoding = [] ∧
          (request.fields.getAll .contentLength).map FieldValue.text =
            [Bytes.ascii "2", Bytes.ascii "3"] ∧ request.body.length = 2) = true := by
      decide +kernel
    rcases gave : agreed.readRequest {} with ⟨failure | request, after⟩
    · simp [gave, Except.toOption] at some
    · simp only [gave, Except.toOption, Option.any_some, decide_eq_true_eq] at some
      obtain ⟨uncoded, lengths, two⟩ := some
      obtain ⟨front, -, cut, -⟩ :=
        (readRequest_of_lengths {} agreed).1 request after _ _ gave uncoded lengths
      exact ⟨request, after, front, rfl, cut, two⟩
  · have some : (refused.readHead {}).1.toOption.any (fun head =>
        head.fields.getAll .transferEncoding = [] ∧
          (head.fields.getAll .contentLength).map FieldValue.text = [Bytes.ascii "2x"]) = true := by
      decide +kernel
    rcases headReading : refused.readHead {} with ⟨failure | head, middle⟩
    · simp [headReading, Except.toOption] at some
    · simp only [headReading, Except.toOption, Option.any_some, decide_eq_true_eq] at some
      refine ⟨middle, ?_⟩
      apply ((readRequest_of_lengths {} refused).2 head middle _ _ headReading some.1 some.2).mpr
      rintro ⟨length, spells⟩
      rw [Framing.spellsLength_iff] at spells
      have wrong : Numeral.readNatural (wordSize - 1) (Bytes.ascii "2x").trim =
          .error .invalidDigit := by rfl
      rw [wrong] at spells
      cases spells

/-- Requests that are accepted with a body of two octets. The lines of the first one disagree, and
the line of the second one is not made of digits. -/
theorem accepted_lengths_disagree :
    let accepted (lines : String) : Option (List Bytes × Bytes) :=
      let reader := ofReads 8192 [Bytes.ascii ("POST / HTTP/1.1\r\n" ++ lines ++ "\r\nabc")]
      let request := (reader.readRequest {}).1.toOption.filter fun request =>
        (request.fields.getAll .transferEncoding).isEmpty
      request.map fun request =>
        ((request.fields.getAll .contentLength).map FieldValue.text, request.body)
    (accepted "Content-Length: 2\r\nContent-Length: 3\r\n" =
        some ([Bytes.ascii "2", Bytes.ascii "3"], Bytes.ascii "ab") ∧
      ¬ ∃ number, ∀ value ∈ [Bytes.ascii "2", Bytes.ascii "3"],
        Numeral.ofDecimal? value.trim = some number) ∧
    accepted "Content-Length: +2\r\n" = some ([Bytes.ascii "+2"], Bytes.ascii "ab") ∧
      Numeral.ofDecimal? (Bytes.ascii "+2").trim = none := by
  intro accepted
  refine ⟨⟨?_, ?_⟩, ?_, ?_⟩
  · decide +kernel
  · rintro ⟨number, denotes⟩
    have two : Numeral.ofDecimal? (Bytes.ascii "2").trim = some 2 := by decide
    have three : Numeral.ofDecimal? (Bytes.ascii "3").trim = some 3 := by decide
    have first := denotes _ List.mem_cons_self
    have second := denotes (Bytes.ascii "3") (by simp)
    rw [two] at first
    rw [three, ← first] at second
    cases second
  · decide +kernel
  · decide

end Reader

end HttpServer
