import HttpServer.Request.HeadLines

/-!
# The values of field lines

Adding a value to a name adds it behind the values of that name and touches no other. So the fields
that lines spell give every name the values of its lines, in the order of the lines, wherever the
name was first met and in whatever letter case it was written.
-/

namespace HttpServer.Fields

variable {fields : Fields} {name other : FieldName}

theorem get?_eq_head? (fields : Fields) (name : FieldName) :
    fields.get? name = (fields.getAll name).head? := by
  unfold get? getAll
  cases fields.entries.find? fun field => field.name == name with
  | none =>
      rfl
  | some field =>
      rfl

theorem getAll_extend {field : Field} (absent : fields.contains field.name = false) :
    (fields.extend field absent).getAll other =
      if field.name = other then field.values else fields.getAll other := by
  simp only [getAll, extend, List.find?_append]
  by_cases same : field.name = other
  · subst same
    have none : (fields.entries.find? fun entry => entry.name == field.name) = none := by
      rw [List.find?_eq_none]
      exact List.any_eq_false.mp absent
    simp [none]
  · cases fields.entries.find? fun entry => entry.name == other with
    | none =>
        simp [same]
    | some found =>
        simp [same]

theorem getAll_modify {change : Field → Field} {kept : ∀ field, (change field).name = field.name} :
    (fields.modify name change kept).getAll other =
      match fields.entries.find? fun entry => entry.name == other with
      | some field => if field.name = name then (change field).values else field.values
      | none => [] := by
  have sameName (field : Field) :
      (if field.name = name then change field else field).name = field.name := by
    split
    · exact kept field
    · rfl
  have sameTest : ((fun entry : Field => entry.name == other) ∘
      fun field => if field.name = name then change field else field) =
        fun entry => entry.name == other := by
    funext field
    simp only [Function.comp, sameName]
  simp only [getAll, modify, List.find?_map, sameTest]
  cases fields.entries.find? fun entry => entry.name == other with
  | none =>
      rfl
  | some field =>
      simp only [Option.map_some]
      split <;> rfl

theorem getAll_append (fields : Fields) (name : FieldName) (value : FieldValue)
    (other : FieldName) :
    (fields.append name value).getAll other =
      if name = other then fields.getAll other ++ [value] else fields.getAll other := by
  unfold append
  split
  · rename_i absent
    rw [getAll_extend]
    by_cases same : name = other
    · subst same
      have none : (fields.entries.find? fun entry => entry.name == name) = none := by
        rw [List.find?_eq_none]
        exact List.any_eq_false.mp absent
      simp [getAll, none, Field.values]
    · simp [same]
  · rename_i present
    rw [getAll_modify]
    unfold getAll
    cases found : fields.entries.find? fun entry => entry.name == other with
    | none =>
        have differs : name ≠ other := by
          rintro rfl
          rw [List.find?_eq_none] at found
          exact present (List.any_eq_false.mpr found)
        simp [differs]
    | some field =>
        have sameName : field.name = other := by simpa using List.find?_some found
        simp only [sameName, eq_comm (a := other)]
        split <;> simp [Field.values]

/-! ## Lines -/

/-- A line that gives a value to a name. -/
def IsLine (line : Bytes × Bytes) : Prop :=
  FieldName.isLegal line.1.lowered = true ∧ FieldValue.isLegal line.2 = true

/-- The values that lines give to a name. -/
def valuesOf (name : FieldName) (lines : List (Bytes × Bytes)) : List Bytes :=
  (lines.filter fun line => line.1.lowered == name.text).map Prod.snd

theorem valuesOf_append (name : FieldName) (first second : List (Bytes × Bytes)) :
    valuesOf name (first ++ second) = valuesOf name first ++ valuesOf name second := by
  simp only [valuesOf, List.filter_append, List.map_append]

theorem valuesOf_singleton (name : FieldName) (line : Bytes × Bytes) :
    valuesOf name [line] = if line.1.lowered == name.text then [line.2] else [] := by
  cases same : line.1.lowered == name.text with
  | true =>
      simp [valuesOf, same]
  | false =>
      simp [valuesOf, same]

theorem valuesOf_eq_nil {name : FieldName} {lines : List (Bytes × Bytes)}
    (others : ∀ line ∈ lines, line.1.lowered ≠ name.text) :
    valuesOf name lines = [] := by
  rw [valuesOf, List.map_eq_nil_iff, List.filter_eq_nil_iff]
  intro line member
  simpa using others line member

theorem appendLine_of_isLine {line : Bytes × Bytes} (legal : IsLine line) (fields : Fields) :
    ∃ appended, fields.appendLine line = .ok appended ∧
      ∀ name, (appended.getAll name).map FieldValue.text =
        (fields.getAll name).map FieldValue.text ++ valuesOf name [line] := by
  obtain ⟨nameLegal, valueLegal⟩ := legal
  refine ⟨fields.append ⟨line.1.lowered, nameLegal⟩ ⟨line.2, valueLegal⟩, ?_, ?_⟩
  · simp only [appendLine, FieldName.parse, FieldValue.parse, nameLegal, valueLegal, dif_pos]
  · rintro ⟨text, legal⟩
    rw [getAll_append]
    by_cases same : line.1.lowered = text
    · subst same
      simp [valuesOf]
    · simp [valuesOf, same]

theorem foldlM_appendLine {lines : List (Bytes × Bytes)} (legal : ∀ line ∈ lines, IsLine line)
    (fields : Fields) :
    ∃ spelled, lines.foldlM appendLine fields = .ok spelled ∧
      ∀ name, (spelled.getAll name).map FieldValue.text =
        (fields.getAll name).map FieldValue.text ++ valuesOf name lines := by
  induction lines generalizing fields with
  | nil =>
      exact ⟨fields, rfl, fun name => (List.append_nil _).symm⟩
  | cons line others inductionHypothesis =>
      obtain ⟨appended, added, first⟩ := appendLine_of_isLine (legal line List.mem_cons_self) fields
      obtain ⟨spelled, folded, rest⟩ :=
        inductionHypothesis (fun line member => legal line (List.mem_cons_of_mem _ member)) appended
      refine ⟨spelled, ?_, ?_⟩
      · rw [List.foldlM_cons, added]
        exact folded
      · intro name
        rw [rest, first, List.append_assoc]
        rw [← valuesOf_append]
        rfl

theorem isLine_of_appendLine {line : Bytes × Bytes} {appended : Fields}
    (added : fields.appendLine line = .ok appended) :
    IsLine line := by
  unfold appendLine FieldName.parse FieldValue.parse at added
  by_cases nameLegal : FieldName.isLegal line.1.lowered = true
  · by_cases valueLegal : FieldValue.isLegal line.2 = true
    · exact ⟨nameLegal, valueLegal⟩
    · simp [nameLegal, valueLegal] at added
  · simp [nameLegal] at added

theorem isLine_of_foldlM {lines : List (Bytes × Bytes)} {spelled : Fields}
    (folded : lines.foldlM appendLine fields = .ok spelled) :
    ∀ line ∈ lines, IsLine line := by
  induction lines generalizing fields with
  | nil =>
      simp
  | cons line others inductionHypothesis =>
      rw [List.foldlM_cons] at folded
      cases added : fields.appendLine line with
      | error error =>
          simp [added, bind, Except.bind] at folded
      | ok appended =>
          rw [added] at folded
          intro other member
          rcases List.mem_cons.mp member with rfl | memberOthers
          · exact isLine_of_appendLine added
          · exact inductionHypothesis folded other memberOthers

/-- A name that cannot name a field spoils all lines. -/
theorem foldlM_appendLine_of_illegal {lines : List (Bytes × Bytes)}
    (legal : ∀ line ∈ lines, FieldValue.isLegal line.2 = true)
    (illegal : ∃ line ∈ lines, FieldName.isLegal line.1.lowered = false) (fields : Fields) :
    lines.foldlM appendLine fields = .error .fieldName := by
  induction lines generalizing fields with
  | nil =>
      simp at illegal
  | cons line others inductionHypothesis =>
      rw [List.foldlM_cons]
      cases nameLegal : FieldName.isLegal line.1.lowered with
      | false =>
          simp only [appendLine, FieldName.parse, nameLegal, Bool.false_eq_true, dif_neg,
            not_false_eq_true]
          rfl
      | true =>
          obtain ⟨appended, added, -⟩ :=
            appendLine_of_isLine ⟨nameLegal, legal line List.mem_cons_self⟩ fields
          obtain ⟨bad, member, badName⟩ := illegal
          have behind : bad ∈ others := by
            rcases List.mem_cons.mp member with rfl | memberOthers
            · simp [badName] at nameLegal
            · exact memberOthers
          have legalOthers : ∀ other ∈ others, FieldValue.isLegal other.2 = true :=
            fun other member => legal other (List.mem_cons_of_mem _ member)
          rw [added]
          exact inductionHypothesis legalOthers ⟨bad, behind, badName⟩ appended

end HttpServer.Fields

namespace HttpServer.RequestHead

/-- Lines spell a head when their target is one and their fields can be collected. -/
theorem ofLines_eq_ok_iff {lines : HeadLines} {head : RequestHead} :
    ofLines lines = .ok head ↔
      ∃ target fields, Target.parse lines.target = .ok target ∧
        lines.fields.foldlM Fields.appendLine .empty = .ok fields ∧
        head = { method := lines.method, target, version := lines.version, fields } := by
  unfold ofLines
  cases Target.parse lines.target with
  | error error =>
      show Except.error (HeadError.target error) = .ok head ↔ _
      simp
  | ok target =>
      cases lines.fields.foldlM Fields.appendLine .empty with
      | error error =>
          show Except.error error = .ok head ↔ _
          simp
      | ok fields =>
          show Except.ok (RequestHead.mk lines.method target lines.version fields) = .ok head ↔ _
          simp [eq_comm]

theorem values_of_ofLines {lines : HeadLines} {head : RequestHead}
    (read : ofLines lines = .ok head) (name : FieldName) :
    (head.fields.getAll name).map FieldValue.text = Fields.valuesOf name lines.fields := by
  obtain ⟨target, fields, -, folded, rfl⟩ := ofLines_eq_ok_iff.mp read
  obtain ⟨spelled, again, values⟩ :=
    Fields.foldlM_appendLine (Fields.isLine_of_foldlM folded) .empty
  rw [folded, Except.ok.injEq] at again
  subst again
  exact values name

end HttpServer.RequestHead
