import HttpServer.Proofs.ReceivedResponses
import HttpServer.Proofs.WrittenHead

/-!
# The length that a head declares

The lines of a head are the fields of its response without transfer codings, and the length of the
body where a body is allowed and no length has been set. A length that has been set is written as
it is. So a head declares the length of the body that follows it exactly when nobody has set one, or
has set that one and no other.
-/

namespace HttpServer

/-- The field lines of a response, and what follows its head. -/
def Received.headLines? (bytes : Bytes) : Option (List (Bytes × Bytes) × Bytes) := do
  let (_, rest) ← Bytes.splitLine? bytes
  fieldLines? rest

namespace Response

variable {response : Response}

theorem headLines?_encode (response : Response) (headOnly : Bool) :
    Received.headLines? (response.encode headOnly) =
      some (response.headLines, if response.writesBody headOnly then response.body else []) := by
  have line := Bytes.splitLine?_append (carriageReturn_not_mem_statusText response)
  have plain : ∀ line ∈ response.headLines, IsPlain line :=
    fun line member => isPlain_of_mem_headLines member
  rw [encode_eq, Received.headLines?, line]
  exact Received.fieldLines?_flatMap plain _

/-- No head has a line for transfer codings. -/
theorem valuesOf_transferEncoding (response : Response) :
    Fields.valuesOf .transferEncoding response.headLines = [] := by
  apply Fields.valuesOf_eq_nil
  intro line member
  rcases List.mem_append.mp member with ofFields | added
  · obtain ⟨field, kept, rfl⟩ := List.mem_map.mp ofFields
    have differs : field.1 ≠ FieldName.transferEncoding := by
      simpa using (List.mem_filter.mp kept).2
    rw [FieldName.lowered_text]
    exact fun same => differs (FieldName.eq_of_text_eq same)
  · split at added
    · rw [List.mem_singleton.mp added]
      show FieldName.contentLength.text.lowered ≠ FieldName.transferEncoding.text
      decide
    · cases added

/-- The lengths on a head are those that have been set, and the length of the body where it had to
be added. -/
theorem valuesOf_contentLength (response : Response) :
    Fields.valuesOf .contentLength response.headLines =
      (response.fields.getAll .contentLength).map FieldValue.text ++
        if response.needsLength then [Numeral.decimal response.body.length] else [] := by
  rw [headLines, Fields.valuesOf_append, valuesOf_fieldLines response.fields (by decide)]
  congr 1
  split
  · rfl
  · rfl

theorem needsLength_eq_true_iff :
    response.needsLength = true ↔
      response.status.allowsBody = true ∧ response.fields.getAll .contentLength = [] := by
  rw [needsLength, Bool.and_eq_true, Bool.not_eq_true', Fields.contains_eq_false_iff]

/-- The text, blanks around it aside, is the number in decimal digits. -/
def States (text : Bytes) (number : Nat) : Prop := Numeral.ofDecimal? text.trim = some number

theorem states_decimal (number : Nat) : States (Numeral.decimal number) number := by
  have trimmed : (Numeral.decimal number).trim = Numeral.decimal number :=
    Bytes.trim_of_no_blank fun byte member => (Numeral.textual_decimal number byte member).2
  rw [States, trimmed]
  exact Numeral.ofDecimal?_decimal number

/-- No length has been set, or just one has been and it is that of the body. -/
def LeavesLength (response : Response) : Prop :=
  response.fields.getAll .contentLength = [] ∨
    ∃ value, response.fields.getAll .contentLength = [value] ∧
      States value.text response.body.length

/-- Where a body is allowed, its length is declared just once if and only if it is left to be added
or has been set so. -/
theorem declared_iff (allowed : response.status.allowsBody = true) :
    (∃ text, Fields.valuesOf .contentLength response.headLines = [text] ∧
      States text response.body.length) ↔ response.LeavesLength := by
  rw [valuesOf_contentLength, LeavesLength]
  by_cases unset : response.fields.getAll .contentLength = []
  · rw [unset, if_pos (needsLength_eq_true_iff.mpr ⟨allowed, unset⟩)]
    constructor
    · intro _
      exact Or.inl rfl
    · intro _
      exact ⟨_, rfl, states_decimal _⟩
  · have notAdded : ¬ response.needsLength = true :=
      fun needed => unset (needsLength_eq_true_iff.mp needed).2
    rw [if_neg notAdded, List.append_nil]
    constructor
    · rintro ⟨text, one, states⟩
      obtain ⟨value, values, rfl⟩ := List.map_eq_singleton_iff.mp one
      exact Or.inr ⟨value, values, states⟩
    · rintro (none | ⟨value, values, states⟩)
      · exact absurd none unset
      · exact ⟨value.text, by rw [values, List.map_singleton], states⟩

/-- Whatever fields, status and body a response has: its lines are read back from what is written,
with the body behind them where one is written. Every length that has been set is on a line as it
is, and none is added to it; the length of the body is added where a body is allowed and none has
been set. So a body is written behind a head that declares its length just once, and rightly, if and
only if no length has been set, or just that one. No head has a line for transfer codings; and where
no body is allowed, none has a length that nobody set. -/
theorem write_declares_length (response : Response) (headOnly : Bool) :
    ∃ lines, Received.headLines? (response.write headOnly {}).2.wire =
        some (lines, if response.writesBody headOnly then response.body else []) ∧
      Fields.valuesOf .transferEncoding lines = [] ∧
      Fields.valuesOf .contentLength lines =
        (response.fields.getAll .contentLength).map FieldValue.text ++
          (if response.status.allowsBody = true ∧ response.fields.getAll .contentLength = [] then
            [Numeral.decimal response.body.length] else []) ∧
      (response.writesBody headOnly = true →
        ((∃ text, Fields.valuesOf .contentLength lines = [text] ∧
          States text response.body.length) ↔ response.LeavesLength)) ∧
      (response.status.allowsBody = false → response.fields.getAll .contentLength = [] →
        Fields.valuesOf .contentLength lines = []) := by
  have written : (response.write headOnly {}).2.wire = response.encode headOnly := by
    rw [write_of_unbounded response headOnly rfl]
    rfl
  refine ⟨response.headLines, ?_, valuesOf_transferEncoding response, ?_, ?_, ?_⟩
  · rw [written]
    exact headLines?_encode response headOnly
  · simp only [valuesOf_contentLength, needsLength_eq_true_iff]
  · intro writes
    rw [writesBody, Bool.and_eq_true] at writes
    exact declared_iff writes.2
  · intro forbidden unset
    have notAdded : ¬ response.needsLength = true := by
      rw [needsLength_eq_true_iff, forbidden]
      simp
    rw [valuesOf_contentLength, unset, if_neg notAdded]
    rfl

/-- A length that is not that of the body, one that is said twice, and one where no body is
allowed. -/
theorem declared_lengths_differ :
    let text (digits : String) (legal : FieldValue.isLegal (Bytes.ascii digits) = true) :
      FieldValue := ⟨Bytes.ascii digits, legal⟩
    let set (response : Response) (value : FieldValue) : Response :=
      { response with fields := response.fields.append .contentLength value }
    let lengths (response : Response) : Option (List Bytes) :=
      (Received.headLines? (response.write false {}).2.wire).map fun found =>
        Fields.valuesOf .contentLength found.1
    let hello := Response.text .ok (Bytes.ascii "hello")
    let three := text "3" (by decide)
    let five := text "5" (by decide)
    (set hello three).writesBody false = true ∧ hello.body.length = 5 ∧
      lengths (set hello three) = some [Bytes.ascii "3"] ∧
      lengths (set (set hello five) five) = some [Bytes.ascii "5", Bytes.ascii "5"] ∧
      lengths (set { status := .noContent } three) = some [Bytes.ascii "3"] := by
  decide +kernel

end Response

end HttpServer
