import HttpServer.Proofs.FieldLines
import HttpServer.Proofs.WrittenHead

/-!
# One more line in a head

A field line that is written between two lines of a head is found there, whatever octets stand
before it and behind it. What the head says is then what it said before, and the one field more.
-/

namespace HttpServer

/-! ## Where a line ends -/

/-- The end of a line: a line feed, and a carriage return before it or not. -/
def lineEnding (bare : Bool) : Bytes := if bare then [Bytes.lineFeed] else Bytes.lineEnd

namespace Scan

variable {ε α β γ : Type}

/-- What follows an item is behind a line feed. -/
def EndsLine (scan : Bytes → Scan ε α) : Prop :=
  ∀ bytes rest item, scan bytes = .found item rest → Bytes.lineFeed :: rest <:+ bytes

theorem EndsLine.map {scan : Bytes → Scan ε α} (ends : EndsLine scan) (change : α → β) :
    EndsLine (fun bytes => (scan bytes).map change) := by
  intro bytes rest item found
  cases verdict : scan bytes with
  | found inner after =>
      simp only [verdict, Scan.map, Scan.found.injEq] at found
      obtain ⟨-, rfl⟩ := found
      exact ends _ _ _ verdict
  | partly =>
      simp [verdict, Scan.map] at found
  | wrong error =>
      simp [verdict, Scan.map] at found

theorem EndsLine.andThen {scan : Bytes → Scan ε α} {next : α → Bytes → Scan ε β}
    (settled : Settled scan) (ends : ∀ item, EndsLine (next item)) :
    EndsLine (fun bytes => (scan bytes).andThen next) := by
  intro bytes rest item found
  cases verdict : scan bytes with
  | found inner after =>
      simp only [verdict, Scan.andThen] at found
      obtain ⟨used, cut, -⟩ := settled.found verdict
      have suffix : after <:+ bytes := ⟨used, cut.symm⟩
      exact (ends inner _ _ _ found).trans suffix
  | partly =>
      simp [verdict, Scan.andThen] at found
  | wrong error =>
      simp [verdict, Scan.andThen] at found

theorem andThen_andThen (scan : Scan ε α) (next : α → Bytes → Scan ε β)
    (last : β → Bytes → Scan ε γ) :
    (scan.andThen next).andThen last =
      scan.andThen fun item rest => (next item rest).andThen last := by
  cases scan <;> rfl

theorem map_andThen (scan : Scan ε α) (change : α → β) (next : β → Bytes → Scan ε γ) :
    (scan.map change).andThen next = scan.andThen fun item rest => next (change item) rest := by
  cases scan <;> rfl

theorem map_map (scan : Scan ε α) (first : α → β) (second : β → γ) :
    (scan.map first).map second = scan.map fun item => second (first item) := by
  cases scan <;> rfl

end Scan

/-- Behind an empty line that ends some octets, a line that ends before it ends outside it. -/
theorem Bytes.cut_before_lineEnd {opening used rest : Bytes}
    (cut : opening ++ lineEnd = used ++ rest) (ends : lineFeed :: rest <:+ opening ++ lineEnd)
    (some : rest ≠ []) :
    ∃ middle, opening = used ++ middle ∧ rest = middle ++ lineEnd := by
  rcases front_cases cut with ⟨middle, -, cutOpening⟩ | ⟨inside, cutUsed, cutEnd⟩
  · refine ⟨middle, cutOpening, ?_⟩
    rw [cutOpening, List.append_assoc] at cut
    exact (List.append_cancel_left cut).symm
  · -- the line ends inside the empty line, so it ends before its first octet
    match inside, cutEnd with
    | [], same =>
        exact ⟨[], by simp [cutUsed], by simpa using same.symm⟩
    | [first], same =>
        have feed : rest = [lineFeed] := (List.cons.inj same).2.symm
        obtain ⟨front, suffix⟩ := ends
        rw [feed] at suffix
        have tails := List.append_inj_right' suffix rfl
        exact absurd tails (by decide)
    | first :: second :: others, same =>
        have nothing : [] = others ++ rest := (List.cons.inj (List.cons.inj same).2).2
        exact absurd (List.append_eq_nil_iff.mp nothing.symm).2 some

namespace HeadLines

open Scan

variable {opening closing more : Bytes} {before lines : HeadLines}

/-- Where the end of a line is found, it stands there. -/
theorem lineEnding_of_scanLineEnd {error : HeadLinesError} {bytes rest : Bytes}
    (found : scanLineEnd error bytes = .found () rest) :
    ∃ bare, bytes = lineEnding bare ++ rest := by
  unfold scanLineEnd at found
  split at found
  · cases found
  · rename_i first tail
    split at found
    · rename_i feed
      obtain ⟨-, rfl⟩ := Scan.found.inj found
      exact ⟨true, by rw [beq_iff_eq.mp feed]; rfl⟩
    · split at found
      · rename_i carriage
        split at found
        · cases found
        · split at found
          · rename_i feed
            obtain ⟨-, rfl⟩ := Scan.found.inj found
            exact ⟨false, by rw [beq_iff_eq.mp carriage, beq_iff_eq.mp feed]; rfl⟩
          · cases found
      · cases found

theorem endsLine_scanLineEnd (error : HeadLinesError) : EndsLine (scanLineEnd error) := by
  intro bytes rest item found
  obtain ⟨bare, rfl⟩ := lineEnding_of_scanLineEnd found
  cases bare with
  | true =>
      exact List.suffix_rfl
  | false =>
      exact List.suffix_cons _ _

theorem length_le_of_scanLineEnd {error : HeadLinesError} {bytes rest : Bytes}
    (found : scanLineEnd error bytes = .found () rest) :
    bytes.length ≤ rest.length + 2 := by
  obtain ⟨bare, rfl⟩ := lineEnding_of_scanLineEnd found
  cases bare with
  | true =>
      exact Nat.le_succ _
  | false =>
      exact Nat.le_refl _

theorem endsLine_scanField : EndsLine scanField := by
  intro bytes rest line found
  unfold scanField at found
  simp only at found
  split at found
  · simp at found
  · rename_i mark tail stopped
    have suffix : tail <:+ bytes := by
      have whole := List.dropWhile_suffix (l := bytes) Bytes.isToken
      rw [stopped] at whole
      exact (List.suffix_cons mark tail).trans whole
    split at found
    · have ends := (endsLine_scanLineEnd .fieldValue).map (fun _ =>
        (bytes.takeWhile Bytes.isToken,
          Bytes.trimRight ((tail.dropWhile Bytes.isBlank).takeWhile Bytes.isFieldValue)))
        _ _ _ found
      have inner := (List.dropWhile_suffix (l := tail.dropWhile Bytes.isBlank)
        Bytes.isFieldValue).trans (List.dropWhile_suffix Bytes.isBlank)
      exact ends.trans (inner.trans suffix)
    · simp at found

/-! ## Field lines before a gap -/

/-- Field lines begin with an empty line, which ends them, or with a line that there is room for. -/
theorem scanFields_cases {room : Nat} {bytes rest : Bytes} {found : List (Bytes × Bytes)}
    (scanned : scanFields room bytes = .found found rest) :
    (found = [] ∧ bytes.length ≤ rest.length + 2 ∧
      ∀ other, scanFields other bytes = .found [] rest) ∨
    ∃ line others further after, found = line :: others ∧ room = further + 1 ∧
      scanField bytes = .found line after ∧ scanFields further after = .found others rest := by
  cases bytes with
  | nil =>
      rw [scanFields.eq_def] at scanned
      simp at scanned
  | cons first tail =>
      by_cases ends : (first == Bytes.lineFeed || first == Bytes.carriageReturn) = true
      · left
        have same (other : Nat) : scanFields other (first :: tail) = .found found rest := by
          rw [← scanned, scanFields_cons, scanFields_cons, if_pos ends, if_pos ends]
        rw [scanFields_cons, if_pos ends] at scanned
        cases verdict : scanLineEnd .newLine (first :: tail) with
        | found nothing after =>
            simp only [verdict, Scan.map, Scan.found.injEq] at scanned
            obtain ⟨rfl, rfl⟩ := scanned
            exact ⟨rfl, length_le_of_scanLineEnd verdict, same⟩
        | partly =>
            simp [verdict, Scan.map] at scanned
        | wrong error =>
            simp [verdict, Scan.map] at scanned
      · right
        rw [scanFields_cons, if_neg ends] at scanned
        cases verdict : scanField (first :: tail) with
        | found line after =>
            simp only [verdict, Scan.andThen] at scanned
            cases room with
            | zero =>
                simp [furtherFields] at scanned
            | succ further =>
                simp only [furtherFields] at scanned
                cases others : scanFields further after with
                | found lines behind =>
                    simp only [others, Scan.map, Scan.found.injEq] at scanned
                    obtain ⟨rfl, rfl⟩ := scanned
                    exact ⟨line, lines, further, after, rfl, rfl, rfl, others⟩
                | partly =>
                    simp [others, Scan.map] at scanned
                | wrong error =>
                    simp [others, Scan.map] at scanned
        | partly =>
            simp [verdict, Scan.andThen] at scanned
        | wrong error =>
            simp [verdict, Scan.andThen] at scanned

theorem ne_nil_of_scanFields {room : Nat} {bytes rest : Bytes} {found : List (Bytes × Bytes)}
    (scanned : scanFields room bytes = .found found rest) :
    bytes ≠ [] := by
  rintro rfl
  rw [scanFields.eq_def] at scanned
  simp at scanned

/-- Field lines are found in whatever room is enough for them. -/
theorem scanFields_of_room {room other : Nat} {bytes rest : Bytes} {found : List (Bytes × Bytes)}
    (scanned : scanFields room bytes = .found found rest) (enough : found.length ≤ other) :
    scanFields other bytes = .found found rest := by
  induction found generalizing room other bytes with
  | nil =>
      rcases scanFields_cases scanned with ⟨-, -, same⟩ | ⟨_, _, _, _, lines, -⟩
      · exact same other
      · cases lines
  | cons line others inductionHypothesis =>
      rcases scanFields_cases scanned with ⟨none, -⟩ | ⟨_, _, further, after, lines, -, first, rest⟩
      · cases none
      · obtain ⟨rfl, rfl⟩ := List.cons.inj lines
        obtain ⟨less, rfl⟩ : ∃ less, other = less + 1 :=
          ⟨other - 1, by rw [List.length_cons] at enough; omega⟩
        have again := inductionHypothesis rest (Nat.le_of_succ_le_succ enough)
        rw [scanFields_of_scanField first, again]
        rfl

/-- Field lines that an empty line may follow are found before whatever else follows them. -/
theorem scanFields_gap {room : Nat} {opening : Bytes} {before : List (Bytes × Bytes)}
    (ended : scanFields room (opening ++ Bytes.lineEnd) = .found before []) (more : Bytes) :
    before.length ≤ room ∧
      scanFields room (opening ++ more) =
        (scanFields (room - before.length) more).map (before ++ ·) := by
  induction before generalizing room opening with
  | nil =>
      have nothing : opening = [] := by
        rcases scanFields_cases ended with ⟨-, short, -⟩ | ⟨_, _, _, _, lines, -⟩
        · rw [List.length_append, show Bytes.lineEnd.length = 2 from rfl, List.length_nil] at short
          exact List.eq_nil_of_length_eq_zero (by omega)
        · cases lines
      refine ⟨Nat.zero_le _, ?_⟩
      rw [nothing, List.nil_append, List.length_nil, Nat.sub_zero]
      cases scanFields room more <;> rfl
  | cons line others inductionHypothesis =>
      rcases scanFields_cases ended with ⟨none, -⟩ | ⟨_, _, further, after, lines, rfl, first, rest⟩
      · cases none
      · obtain ⟨rfl, rfl⟩ := List.cons.inj lines
        obtain ⟨used, cut, again⟩ := settled_scanField.found first
        obtain ⟨middle, rfl, rfl⟩ :=
          Bytes.cut_before_lineEnd cut (endsLine_scanField _ _ _ first) (ne_nil_of_scanFields rest)
        obtain ⟨few, behind⟩ := inductionHypothesis rest
        refine ⟨Nat.succ_le_succ few, ?_⟩
        rw [List.append_assoc, scanFields_of_scanField (again (middle ++ more)), behind,
          Scan.map_map, List.length_cons, Nat.add_sub_add_right]
        rfl

/-! ## The request line before a gap -/

/-- A request line, as a head without fields. -/
def scanRequestLine (bytes : Bytes) : Scanned HeadLines :=
  (scanMethod bytes).andThen fun method rest =>
  (scanTarget rest).andThen fun target rest =>
  (scanVersion rest).andThen fun version rest =>
  (scanLineEnd .newLine rest).map fun _ => { method, target, version, fields := [] }

/-- What stands before the field lines. -/
def scanToFields (bytes : Bytes) : Scanned HeadLines :=
  (skipBlankLines bytes).andThen fun _ rest => scanRequestLine rest

theorem scan_eq (bytes : Bytes) :
    scan bytes = (scanToFields bytes).andThen fun line rest =>
      (scanFields maximumFields rest).map fun fields => { line with fields } := by
  simp only [scan, scanToFields, scanRequestLine, Scan.andThen_andThen, Scan.map_andThen]

theorem settled_scanRequestLine : Settled scanRequestLine := by
  apply settled_scanMethod.andThen
  intro method
  apply settled_scanTarget.andThen
  intro target
  apply settled_scanVersion.andThen
  intro version
  exact (settled_scanLineEnd .newLine).map _

theorem settled_scanToFields : Settled scanToFields :=
  settled_afterBlankLines settled_scanRequestLine rfl

theorem endsLine_scanRequestLine : EndsLine scanRequestLine := by
  apply EndsLine.andThen settled_scanMethod
  intro method
  apply EndsLine.andThen settled_scanTarget
  intro target
  apply EndsLine.andThen settled_scanVersion
  intro version
  exact (endsLine_scanLineEnd .newLine).map _

theorem endsLine_scanToFields : EndsLine scanToFields := by
  intro bytes rest line found
  cases blankness : skipBlankLines bytes with
  | found nothing after =>
      obtain ⟨blank, first, tail, cut, -, -⟩ := skipBlankLines_found blankness
      have suffix : after <:+ bytes := ⟨blank, cut.symm⟩
      have scanned : scanRequestLine after = .found line rest := by
        rw [← found, scanToFields, blankness]
        rfl
      exact (endsLine_scanRequestLine _ _ _ scanned).trans suffix
  | partly =>
      simp [scanToFields, blankness, Scan.andThen] at found
  | wrong error =>
      simp [scanToFields, blankness, Scan.andThen] at found

/-- What an empty line may follow is found before whatever else follows it. -/
theorem scan_gap (ended : scan (opening ++ Bytes.lineEnd) = .found before []) (more : Bytes) :
    before.fields.length ≤ maximumFields ∧
      scan (opening ++ more) =
        (scanFields (maximumFields - before.fields.length) more).map fun fields =>
          { before with fields := before.fields ++ fields } := by
  rw [scan_eq] at ended
  cases requestLine : scanToFields (opening ++ Bytes.lineEnd) with
  | partly =>
      simp [requestLine, Scan.andThen] at ended
  | wrong error =>
      simp [requestLine, Scan.andThen] at ended
  | found line rest =>
      simp only [requestLine, Scan.andThen] at ended
      cases scanned : scanFields maximumFields rest with
      | partly =>
          simp [scanned, Scan.map] at ended
      | wrong error =>
          simp [scanned, Scan.map] at ended
      | found fields behind =>
          simp only [scanned, Scan.map, Scan.found.injEq] at ended
          obtain ⟨rfl, rfl⟩ := ended
          obtain ⟨used, cut, again⟩ := settled_scanToFields.found requestLine
          obtain ⟨middle, rfl, rfl⟩ := Bytes.cut_before_lineEnd cut
            (endsLine_scanToFields _ _ _ requestLine) (ne_nil_of_scanFields scanned)
          obtain ⟨few, found⟩ := scanFields_gap scanned more
          refine ⟨few, ?_⟩
          rw [List.append_assoc, scan_eq, again, Scan.andThen, found, Scan.map_map]

/-- A line between two lines of a head that has room for it is found between them. -/
theorem scan_insert (whole : scan (opening ++ closing) = .found lines [])
    (ended : scan (opening ++ Bytes.lineEnd) = .found before [])
    (few : lines.fields.length < maximumFields) {line : Bytes × Bytes}
    (writable : SentRequest.IsWritable line) :
    ∃ after, lines.fields = before.fields ++ after ∧
      scan (opening ++ (Response.fieldLine line.1 line.2 ++ closing)) =
        .found { lines with fields := before.fields ++ line :: after } [] := by
  obtain ⟨-, found⟩ := scan_gap ended closing
  rw [whole] at found
  cases scanned : scanFields (maximumFields - before.fields.length) closing with
  | partly =>
      simp [scanned, Scan.map] at found
  | wrong error =>
      simp [scanned, Scan.map] at found
  | found after rest =>
      simp only [scanned, Scan.map, Scan.found.injEq] at found
      obtain ⟨rfl, rfl⟩ := found
      refine ⟨after, rfl, ?_⟩
      rw [List.length_append] at few
      obtain ⟨room, more⟩ : ∃ room, maximumFields - before.fields.length = room + 1 :=
        ⟨maximumFields - before.fields.length - 1, by omega⟩
      have behind : scanFields room closing = .found after [] :=
        scanFields_of_room scanned (by omega)
      rw [(scan_gap ended _).2, more, scanFields_fieldLine writable.token writable.legal
        writable.trimmed, behind]
      rfl

end HeadLines

/-! ## The field that a line adds -/

namespace Fields

variable {fields plain given : Fields} {name other : FieldName}

/-- The entries of all other names. -/
def without (fields : Fields) (name : FieldName) : List Field :=
  fields.entries.filter fun field => field.name != name

theorem contains_eq_of_without (same : fields.without name = plain.entries)
    (differs : other ≠ name) :
    fields.contains other = plain.contains other := by
  rw [contains, contains, ← same, without, List.any_filter]
  congr 1
  funext field
  by_cases here : field.name = other
  · subst here
    simp [differs]
  · simp [here]

theorem without_append_of_ne (same : fields.without name = plain.entries) (differs : other ≠ name)
    (value : FieldValue) :
    (fields.append other value).without name = (plain.append other value).entries := by
  have present := contains_eq_of_without same differs
  unfold append
  by_cases absent : plain.contains other = false
  · have absentToo : fields.contains other = false := by rw [present, absent]
    rw [dif_pos absent, dif_pos absentToo]
    simp [without, extend, differs, ← same]
  · have presentToo : ¬ fields.contains other = false := by rw [present]; exact absent
    rw [dif_neg absent, dif_neg presentToo]
    simp only [without, modify, ← same, List.filter_map]
    congr 2
    funext field
    simp only [Function.comp]
    split <;> rfl

theorem without_append_self (fields : Fields) (name : FieldName) (value : FieldValue) :
    (fields.append name value).without name = fields.without name := by
  unfold append
  split
  · simp [without, extend]
  · simp only [without, modify, List.filter_map]
    have sameTest : (fun field : Field => field.name != name) ∘ (fun field =>
        if field.name = name then { field with others := field.others ++ [value] } else field) =
          fun field => field.name != name := by
      funext field
      simp only [Function.comp]
      split <;> rfl
    rw [sameTest]
    conv => rhs; rw [← List.map_id (fields.entries.filter fun field => field.name != name)]
    apply List.map_congr_left
    intro field member
    have differs : field.name ≠ name := by simpa using (List.mem_filter.mp member).2
    rw [if_neg differs]
    rfl

theorem without_eq_of_getAll (none : fields.getAll name = []) :
    fields.without name = fields.entries := by
  rw [without, List.filter_eq_self]
  intro field member
  rw [bne_iff_ne]
  intro same
  cases found : fields.entries.find? fun field => field.name == name with
  | none =>
      rw [List.find?_eq_none] at found
      exact found field member (by simp [same])
  | some entry =>
      simp [getAll, found, Field.values] at none

theorem without_appendLine {line : Bytes × Bytes} {appended : Fields}
    (same : fields.without name = plain.entries) (differs : line.1.lowered ≠ name.text)
    (added : plain.appendLine line = .ok appended) :
    ∃ given, fields.appendLine line = .ok given ∧ given.without name = appended.entries := by
  obtain ⟨nameLegal, valueLegal⟩ := isLine_of_appendLine added
  simp only [appendLine, FieldName.parse, FieldValue.parse, nameLegal, valueLegal, dif_pos,
    Except.ok.injEq] at added ⊢
  subst added
  have other : (⟨line.1.lowered, nameLegal⟩ : FieldName) ≠ name :=
    fun equal => differs (congrArg FieldName.text equal)
  exact ⟨_, rfl, without_append_of_ne same other _⟩

theorem without_foldlM {lines : List (Bytes × Bytes)} {spelled : Fields}
    (same : fields.without name = plain.entries)
    (differ : ∀ line ∈ lines, line.1.lowered ≠ name.text)
    (folded : lines.foldlM appendLine plain = .ok spelled) :
    ∃ given, lines.foldlM appendLine fields = .ok given ∧ given.without name = spelled.entries := by
  induction lines generalizing fields plain with
  | nil =>
      exact ⟨fields, rfl, by rw [same, Except.ok.inj folded]⟩
  | cons line others inductionHypothesis =>
      rw [List.foldlM_cons] at folded
      cases added : plain.appendLine line with
      | error error =>
          simp [added, bind, Except.bind] at folded
      | ok appended =>
          rw [added] at folded
          obtain ⟨between, addedToo, sameBetween⟩ :=
            without_appendLine same (differ line List.mem_cons_self) added
          obtain ⟨given, foldedToo, sameGiven⟩ := inductionHypothesis sameBetween
            (fun other member => differ other (List.mem_cons_of_mem _ member)) folded
          exact ⟨given, by rw [List.foldlM_cons, addedToo]; exact foldedToo, sameGiven⟩

theorem valuesOf_eq_nil_iff {lines : List (Bytes × Bytes)} :
    valuesOf name lines = [] ↔ ∀ line ∈ lines, line.1.lowered ≠ name.text := by
  simp [valuesOf]

theorem without_foldlM_insert {before after : List (Bytes × Bytes)} {line : Bytes × Bytes}
    {spelled : Fields} (free : valuesOf name (before ++ after) = [])
    (legal : IsLine line) (named : line.1.lowered = name.text)
    (folded : (before ++ after).foldlM appendLine .empty = .ok spelled) :
    ∃ given, (before ++ line :: after).foldlM appendLine .empty = .ok given ∧
      given.without name = spelled.entries := by
  have differ := valuesOf_eq_nil_iff.mp free
  rw [List.foldlM_append] at folded
  cases front : before.foldlM appendLine .empty with
  | error error =>
      simp [front, bind, Except.bind] at folded
  | ok middle =>
      rw [front] at folded
      obtain ⟨nameLegal, valueLegal⟩ := legal
      have sameName : (⟨line.1.lowered, nameLegal⟩ : FieldName) = name := by
        obtain ⟨text, textLegal⟩ := name
        simp only at named
        subst named
        rfl
      have appended : middle.appendLine line = .ok (middle.append name ⟨line.2, valueLegal⟩) := by
        simp only [appendLine, FieldName.parse, FieldValue.parse, nameLegal, valueLegal, dif_pos,
          sameName]
      -- the name is new where its line stands, so its entry is all that the line adds
      have new : middle.getAll name = [] := by
        obtain ⟨again, foldedAgain, values⟩ := foldlM_appendLine (isLine_of_foldlM front) .empty
        obtain rfl := Except.ok.inj (front.symm.trans foldedAgain)
        rw [valuesOf_append, List.append_eq_nil_iff] at free
        have none := values name
        rw [free.1] at none
        exact List.map_eq_nil_iff.mp none
      have same : (middle.append name ⟨line.2, valueLegal⟩).without name = middle.entries := by
        rw [without_append_self, without_eq_of_getAll new]
      obtain ⟨given, foldedGiven, sameGiven⟩ := without_foldlM same
        (fun other member => differ other (List.mem_append_right _ member)) folded
      refine ⟨given, ?_, sameGiven⟩
      rw [List.foldlM_append, front]
      show (line :: after).foldlM appendLine middle = _
      rw [List.foldlM_cons, appended]
      exact foldedGiven

end Fields

/-- The second head says what the first one says, and one field more. -/
structure RequestHead.AddsField (head given : RequestHead) (name : FieldName) (text : Bytes) :
    Prop where
  method : given.method = head.method
  target : given.target = head.target
  version : given.version = head.version
  others : given.fields.without name = head.fields.entries
  added : (given.fields.getAll name).map FieldValue.text = [text]

namespace RequestHead

theorem AddsField.getAll_of_ne {head given : RequestHead} {name other : FieldName} {text : Bytes}
    (adds : head.AddsField given name text) (differs : other ≠ name) :
    given.fields.getAll other = head.fields.getAll other := by
  have sameTest : (fun field : Field =>
      decide ((field.name != name) = true ∧ (field.name == other) = true)) =
        fun field => field.name == other := by
    funext field
    by_cases same : field.name = other
    · subst same
      simp [differs]
    · simp [same]
  simp only [Fields.getAll, ← adds.others, Fields.without, List.find?_filter, sameTest]

variable {lines : HeadLines} {head : RequestHead} {name : FieldName} {line : Bytes × Bytes}
  {before after : List (Bytes × Bytes)}

/-- A line of a name that no other line has adds one field to what the lines spell. -/
theorem addsField_of_ofLines (read : ofLines lines = .ok head)
    (cut : lines.fields = before ++ after) (free : Fields.valuesOf name lines.fields = [])
    (legal : Fields.IsLine line) (named : line.1.lowered = name.text) :
    ∃ given, ofLines { lines with fields := before ++ line :: after } = .ok given ∧
      head.AddsField given name line.2 := by
  obtain ⟨target, fields, parsed, folded, rfl⟩ := ofLines_eq_ok_iff.mp read
  rw [cut] at free folded
  obtain ⟨given, foldedGiven, others⟩ :=
    Fields.without_foldlM_insert free legal named folded
  have readGiven : ofLines { lines with fields := before ++ line :: after } =
      .ok ⟨lines.method, target, lines.version, given⟩ :=
    ofLines_eq_ok_iff.mpr ⟨target, given, parsed, foldedGiven, rfl⟩
  refine ⟨_, readGiven, rfl, rfl, rfl, others, ?_⟩
  rw [values_of_ofLines readGiven]
  rw [Fields.valuesOf_append, List.append_eq_nil_iff] at free
  show Fields.valuesOf name (before ++ ([line] ++ after)) = _
  rw [Fields.valuesOf_append, Fields.valuesOf_append, free.1, free.2,
    Fields.valuesOf_singleton, named, if_pos (beq_self_eq_true _)]
  rfl

variable {opening closing : Bytes} {beforeGap : HeadLines}

/-- A line of a name that no other line has, written between two lines of a head, adds one field
to the head. -/
theorem isSpelledBy_insert (whole : HeadLines.scan (opening ++ closing) = .found lines [])
    (read : ofLines lines = .ok head)
    (ended : HeadLines.scan (opening ++ Bytes.lineEnd) = .found beforeGap [])
    (few : lines.fields.length < HeadLines.maximumFields)
    (free : Fields.valuesOf name lines.fields = []) (writable : SentRequest.IsWritable line)
    (named : line.1.lowered = name.text) :
    ∃ given : RequestHead,
      given.IsSpelledBy (opening ++ (Response.fieldLine line.1 line.2 ++ closing)) ∧
        head.AddsField given name line.2 := by
  obtain ⟨after, cut, found⟩ := HeadLines.scan_insert whole ended few writable
  have legal : Fields.IsLine line := ⟨by rw [named]; exact name.legal, writable.legal⟩
  obtain ⟨given, readGiven, adds⟩ := addsField_of_ofLines read cut free legal named
  exact ⟨given, ⟨_, found, readGiven⟩, adds⟩

end RequestHead

end HttpServer
