import HttpServer.Proofs.FramingAgreement

/-!
# Field lines as they are sent

A client may write a field line with any blanks around the value and end it in a line feed alone.
Such lines are found one after the other, and a request that has been read has the values they were
sent with, each without the blanks around it and under its name in small letters.
-/

namespace HttpServer

theorem Bytes.isLegal_of_isFieldValue {bytes : Bytes}
    (values : ∀ byte ∈ bytes, isFieldValue byte = true) :
    FieldValue.isLegal bytes = true := by
  rw [FieldValue.isLegal, List.all_eq_true]
  intro byte member
  have allowed := values byte member
  simp only [isFieldValue, Bool.or_eq_true, Bool.and_eq_true, beq_iff_eq, bne_iff_ne, ne_eq,
    decide_eq_true_eq, UInt8.le_iff_toNat_le, ← UInt8.toNat_inj] at allowed ⊢
  simp only [UInt8.reduceToNat] at allowed ⊢
  omega

theorem Bytes.isFieldValue_of_isBlank {byte : UInt8} (blank : isBlank byte = true) :
    isFieldValue byte = true := by
  simp only [isBlank, Bool.or_eq_true, beq_iff_eq] at blank
  rcases blank with rfl | rfl
  · rfl
  · rfl

theorem FieldName.length_le_of_isLegal_lowered {text : Bytes}
    (legal : isLegal text.lowered = true) :
    text.length ≤ maximumLength := by
  simp only [isLegal, Bool.and_eq_true, decide_eq_true_eq, Bytes.lowered, List.length_map] at legal
  exact legal.1.2

/-- A field line: a token, a colon, and whatever a value may hold. -/
structure SentLine where
  name : Bytes
  content : Bytes
  bare : Bool := false
  token : SentRequest.IsToken name := by decide +kernel
  legal : ∀ byte ∈ content, Bytes.isFieldValue byte = true := by decide +kernel

namespace SentLine

def octets (line : SentLine) : Bytes :=
  line.name ++ Target.colon :: (line.content ++ lineEnding line.bare)

def field (line : SentLine) : Bytes × Bytes := (line.name, line.content.trim)

end SentLine

/-! ## Finding the lines -/

namespace HeadLines

theorem scanLineEnd_lineEnding (error : HeadLinesError) (bare : Bool) (rest : Bytes) :
    scanLineEnd error (lineEnding bare ++ rest) = .found () rest := by
  cases bare with
  | true =>
      rfl
  | false =>
      rfl

/-- A line ending begins with an octet that no value holds and that is no blank. -/
theorem lineEnding_cases (bare : Bool) :
    ∃ mark tail, lineEnding bare = mark :: tail ∧ Bytes.isFieldValue mark = false ∧
      Bytes.isBlank mark = false ∧
      (mark == Bytes.lineFeed || mark == Bytes.carriageReturn) = true := by
  cases bare with
  | true =>
      exact ⟨Bytes.lineFeed, [], rfl, rfl, rfl, rfl⟩
  | false =>
      exact ⟨Bytes.carriageReturn, [Bytes.lineFeed], rfl, rfl, rfl, rfl⟩

theorem scanField_octets (line : SentLine) (rest : Bytes) :
    scanField (line.octets ++ rest) = .found line.field rest := by
  obtain ⟨mark, tail, ending, noValue, noBlank, -⟩ := lineEnding_cases line.bare
  have stopName : Bytes.isToken Target.colon = false := by decide
  have some : line.name.isEmpty = false := by simpa using line.token.1
  have cut : line.octets ++ rest =
      line.name ++ Target.colon :: (line.content ++ (lineEnding line.bare ++ rest)) := by
    simp only [SentLine.octets, List.append_assoc, List.cons_append]
  have inner : (line.content ++ (lineEnding line.bare ++ rest)).dropWhile Bytes.isBlank =
      line.content.dropWhile Bytes.isBlank ++ mark :: (tail ++ rest) := by
    rw [ending, List.cons_append, List.dropWhile_append]
    split
    · rename_i nothing
      rw [List.isEmpty_iff.mp nothing, List.dropWhile_cons_of_neg (by simp [noBlank])]
      rfl
    · rfl
  have passing : ∀ byte ∈ line.content.dropWhile Bytes.isBlank, Bytes.isFieldValue byte = true :=
    fun byte member => line.legal byte ((List.dropWhile_suffix _).mem member)
  have ends := scanLineEnd_lineEnding .fieldValue line.bare rest
  rw [ending, List.cons_append] at ends
  rw [cut]
  simp only [scanField, Bytes.takeWhile_append_mark line.token.2 stopName,
    Bytes.dropWhile_append_mark line.token.2 stopName, some, beq_self_eq_true, Bool.not_false,
    Bool.and_self, if_true, inner, Bytes.takeWhile_append_mark passing noValue,
    Bytes.dropWhile_append_mark passing noValue, ends]
  rfl

theorem scanFields_octets (lines : List SentLine) (bare : Bool) (room : Nat) (rest : Bytes) :
    scanFields room (lines.flatMap SentLine.octets ++ (lineEnding bare ++ rest)) =
      if lines.length ≤ room then .found (lines.map SentLine.field) rest
      else .wrong .tooManyFields := by
  induction lines generalizing room with
  | nil =>
      obtain ⟨mark, tail, ending, -, -, ends⟩ := lineEnding_cases bare
      have whole := scanLineEnd_lineEnding .newLine bare rest
      rw [ending, List.cons_append] at whole
      rw [List.flatMap_nil, List.nil_append, ending, List.cons_append, scanFields_cons,
        if_pos ends, whole]
      rfl
  | cons line others inductionHypothesis =>
      rw [List.flatMap_cons, List.append_assoc]
      have found := scanField_octets line
        (others.flatMap SentLine.octets ++ (lineEnding bare ++ rest))
      rw [scanFields_eq_furtherFields found]
      cases room with
      | zero =>
          rfl
      | succ further =>
          simp only [furtherFields, inductionHypothesis, List.length_cons,
            Nat.add_le_add_iff_right]
          split
          · rfl
          · rfl

/-! ## Nothing else is found -/

/-- A value that begins behind all blanks has none at its front. -/
theorem dropWhile_takeWhile_of_blanks (bytes : Bytes) (test : UInt8 → Bool) :
    ((bytes.dropWhile Bytes.isBlank).takeWhile test).dropWhile Bytes.isBlank =
      (bytes.dropWhile Bytes.isBlank).takeWhile test := by
  cases stopped : bytes.dropWhile Bytes.isBlank with
  | nil =>
      rfl
  | cons first others =>
      have visible := Bytes.not_test_of_dropWhile stopped
      rw [List.takeWhile_cons]
      split
      · exact List.dropWhile_cons_of_neg (by simp [visible])
      · rfl

theorem line_of_scanField {bytes rest : Bytes} {field : Bytes × Bytes}
    (found : scanField bytes = .found field rest) :
    ∃ line : SentLine, bytes = line.octets ++ rest ∧ line.field = field := by
  unfold scanField at found
  simp only at found
  split at found
  · cases found
  · rename_i mark tail stopped
    split at found
    · rename_i opens
      rw [Bool.and_eq_true, beq_iff_eq, Bool.not_eq_true', List.isEmpty_eq_false_iff] at opens
      obtain ⟨rfl, some⟩ := opens
      cases ending : scanLineEnd .fieldValue
          ((tail.dropWhile Bytes.isBlank).dropWhile Bytes.isFieldValue) with
      | partly | wrong =>
          simp [ending, Scan.map] at found
      | found nothing behind =>
          simp only [ending, Scan.map, Scan.found.injEq] at found
          obtain ⟨rfl, rfl⟩ := found
          obtain ⟨bare, ends⟩ := lineEnding_of_scanLineEnd ending
          have named : SentRequest.IsToken (bytes.takeWhile Bytes.isToken) :=
            ⟨some, fun _ member => List.mem_takeWhile_imp member⟩
          have legal : ∀ byte ∈ tail.takeWhile Bytes.isBlank ++
              (tail.dropWhile Bytes.isBlank).takeWhile Bytes.isFieldValue,
              Bytes.isFieldValue byte = true := by
            intro byte member
            rcases List.mem_append.mp member with blank | inside
            · exact Bytes.isFieldValue_of_isBlank (List.mem_takeWhile_imp blank)
            · exact List.mem_takeWhile_imp inside
          refine ⟨⟨_, _, bare, named, legal⟩, ?_, ?_⟩
          · conv => lhs; rw [Bytes.takeWhile_append_of_stopped stopped,
              ← List.takeWhile_append_dropWhile (p := Bytes.isBlank) (l := tail),
              ← List.takeWhile_append_dropWhile (p := Bytes.isFieldValue)
                (l := tail.dropWhile Bytes.isBlank), ends]
            simp only [SentLine.octets, List.append_assoc, List.cons_append]
          · rw [SentLine.field, Bytes.trim,
              List.dropWhile_append_of_pos fun _ member => List.mem_takeWhile_imp member,
              dropWhile_takeWhile_of_blanks]
    · cases found

theorem lineEnding_of_scanFields {bytes rest : Bytes}
    (found : scanFields 0 bytes = .found [] rest) :
    ∃ bare, bytes = lineEnding bare ++ rest := by
  cases bytes with
  | nil =>
      exact absurd rfl (ne_nil_of_scanFields found)
  | cons first tail =>
      rw [scanFields_cons] at found
      split at found
      · cases ending : scanLineEnd .newLine (first :: tail) with
        | partly | wrong =>
            simp [ending, Scan.map] at found
        | found nothing after =>
            simp only [ending, Scan.map, Scan.found.injEq, true_and] at found
            rw [← found]
            exact lineEnding_of_scanLineEnd ending
      · cases line : scanField (first :: tail) with
        | found | partly | wrong =>
            simp [line, Scan.andThen, furtherFields] at found

/-- Where field lines are found, they stand there, and an empty line behind them. -/
theorem lines_of_scanFields {room : Nat} {bytes rest : Bytes} {fields : List (Bytes × Bytes)}
    (found : scanFields room bytes = .found fields rest) :
    ∃ (lines : List SentLine) (bare : Bool),
      bytes = lines.flatMap SentLine.octets ++ (lineEnding bare ++ rest) ∧
        lines.map SentLine.field = fields := by
  induction fields generalizing room bytes with
  | nil =>
      rcases scanFields_cases found with ⟨-, -, again⟩ | ⟨_, _, _, _, lines, -⟩
      · obtain ⟨bare, cut⟩ := lineEnding_of_scanFields (again 0)
        exact ⟨[], bare, cut, rfl⟩
      · cases lines
  | cons field others inductionHypothesis =>
      rcases scanFields_cases found with ⟨none, -⟩ | ⟨_, _, _, after, fields, -, first, behind⟩
      · cases none
      · obtain ⟨rfl, rfl⟩ := List.cons.inj fields
        obtain ⟨line, cut, rfl⟩ := line_of_scanField first
        obtain ⟨lines, bare, cutAfter, same⟩ := inductionHypothesis behind
        refine ⟨line :: lines, bare, ?_, ?_⟩
        · rw [cut, cutAfter, List.flatMap_cons, List.append_assoc]
        · rw [List.map_cons, same]

end HeadLines

/-! ## Whole heads -/

/-- The head of a request: what stands before the field lines and asks for a target, the field
lines, and the empty line that ends the head. -/
structure SentHead where
  opening : Bytes
  asks : HeadLines
  lines : List SentLine
  bare : Bool := false
  begins : HeadLines.scanToFields opening = .found asks [] := by decide +kernel

namespace SentHead

def octets (head : SentHead) : Bytes :=
  head.opening ++ (head.lines.flatMap SentLine.octets ++ lineEnding head.bare)

/-- What stands behind the colon in the lines of a name, in order. -/
def contents (head : SentHead) (name : FieldName) : List Bytes :=
  (head.lines.filter fun line => line.name.lowered == name.text).map SentLine.content

/-- The target and the names are accepted, and there are not too many lines. -/
structure IsAcceptable (head : SentHead) : Prop where
  few : head.lines.length ≤ HeadLines.maximumFields
  target : ∃ target, Target.parse head.asks.target = .ok target
  short : ∀ line ∈ head.lines, line.name.length ≤ FieldName.maximumLength

variable {head : SentHead}

theorem valuesOf_fields (head : SentHead) (name : FieldName) :
    Fields.valuesOf name (head.lines.map SentLine.field) =
      (head.contents name).map Bytes.trim := by
  rw [Fields.valuesOf, contents, List.filter_map, List.map_map, List.map_map]
  rfl

theorem scan_octets (head : SentHead) (rest : Bytes) :
    HeadLines.scan (head.octets ++ rest) =
      if head.lines.length ≤ HeadLines.maximumFields then
        .found { head.asks with fields := head.lines.map SentLine.field } rest
      else .wrong .tooManyFields := by
  obtain ⟨used, cut, again⟩ := HeadLines.settled_scanToFields.found head.begins
  rw [List.append_nil] at cut
  rw [octets, cut, List.append_assoc, List.append_assoc, HeadLines.scan_eq, again, Scan.andThen,
    HeadLines.scanFields_octets]
  split
  · rfl
  · rfl

theorem lines_of_isSpelledBy {given : RequestHead} (spelled : given.IsSpelledBy head.octets) :
    head.lines.length ≤ HeadLines.maximumFields ∧
      RequestHead.ofLines { head.asks with fields := head.lines.map SentLine.field } =
        .ok given := by
  obtain ⟨lines, scanned, read⟩ := spelled
  have sent := head.scan_octets []
  rw [List.append_nil, scanned] at sent
  split at sent
  · rename_i few
    obtain ⟨rfl, -⟩ := Scan.found.inj sent
    exact ⟨few, read⟩
  · cases sent

/-- A head is acceptable exactly if it is decoded. -/
theorem isAcceptable_iff :
    head.IsAcceptable ↔ ∃ given : RequestHead, given.IsSpelledBy head.octets := by
  constructor
  · rintro ⟨few, ⟨target, parsed⟩, short⟩
    have legal : ∀ field ∈ head.lines.map SentLine.field, Fields.IsLine field := by
      intro field member
      obtain ⟨line, lineMember, rfl⟩ := List.mem_map.mp member
      refine ⟨FieldName.isLegal_lowered line.token (short line lineMember), ?_⟩
      exact Bytes.isLegal_of_isFieldValue fun byte inside =>
        line.legal byte (Bytes.mem_of_mem_trim inside)
    obtain ⟨fields, folded, -⟩ := Fields.foldlM_appendLine legal .empty
    have scanned := head.scan_octets []
    rw [List.append_nil, if_pos few] at scanned
    exact ⟨_, _, scanned, RequestHead.ofLines_eq_ok_iff.mpr ⟨target, fields, parsed, folded, rfl⟩⟩
  · rintro ⟨given, spelled⟩
    obtain ⟨few, read⟩ := lines_of_isSpelledBy spelled
    obtain ⟨target, fields, parsed, folded, -⟩ := RequestHead.ofLines_eq_ok_iff.mp read
    refine ⟨few, ⟨target, parsed⟩, ?_⟩
    intro line member
    have legal := (Fields.isLine_of_foldlM folded _ (List.mem_map_of_mem member)).1
    exact FieldName.length_le_of_isLegal_lowered legal

theorem exists_head_of_isSpelledBy {given : RequestHead} {octets : Bytes}
    (spelled : given.IsSpelledBy octets) :
    ∃ head : SentHead, head.octets = octets := by
  obtain ⟨lines, scanned, -⟩ := spelled
  rw [HeadLines.scan_eq] at scanned
  cases opens : HeadLines.scanToFields octets with
  | partly | wrong =>
      simp [opens, Scan.andThen] at scanned
  | found asks rest =>
      obtain ⟨opening, cut, again⟩ := HeadLines.settled_scanToFields.found opens
      have begins := again []
      rw [List.append_nil] at begins
      cases fields : HeadLines.scanFields HeadLines.maximumFields rest with
      | partly | wrong =>
          simp [opens, fields, Scan.andThen, Scan.map] at scanned
      | found given after =>
          simp only [opens, fields, Scan.andThen, Scan.map, Scan.found.injEq] at scanned
          obtain ⟨-, rfl⟩ := scanned
          obtain ⟨lines, bare, whole, -⟩ := HeadLines.lines_of_scanFields fields
          refine ⟨⟨opening, asks, lines, bare, begins⟩, ?_⟩
          rw [SentHead.octets, cut, whole, List.append_nil]

/-- The octets that are decoded are those of the acceptable heads. -/
theorem exists_isSpelledBy_iff {octets : Bytes} :
    (∃ given : RequestHead, given.IsSpelledBy octets) ↔
      ∃ head : SentHead, head.octets = octets ∧ head.IsAcceptable := by
  constructor
  · rintro ⟨given, spelled⟩
    obtain ⟨head, rfl⟩ := exists_head_of_isSpelledBy spelled
    exact ⟨head, rfl, isAcceptable_iff.mpr ⟨given, spelled⟩⟩
  · rintro ⟨head, rfl, acceptable⟩
    exact isAcceptable_iff.mp acceptable

theorem values_of_isSpelledBy {given : RequestHead} (spelled : given.IsSpelledBy head.octets)
    (name : FieldName) :
    (given.fields.getAll name).map FieldValue.text = (head.contents name).map Bytes.trim := by
  rw [RequestHead.values_of_ofLines (lines_of_isSpelledBy spelled).2, valuesOf_fields]

/-- Fields without a coding and without a length ask for no body. -/
theorem framing_of_isSpelledBy {given : RequestHead} (spelled : given.IsSpelledBy head.octets)
    (uncoded : head.contents .transferEncoding = []) (unsized : head.contents .contentLength = []) :
    Framing.ofFields given.fields = .ok .absent := by
  have none {name : FieldName} (absent : head.contents name = []) :
      given.fields.get? name = none := by
    have values := values_of_isSpelledBy spelled name
    rw [absent, List.map_nil, List.map_eq_nil_iff] at values
    rw [Fields.get?_eq_head?, values, List.head?_nil]
  rw [Framing.ofFields, none uncoded, none unsized]

/-- An acceptable head that asks for no body is a request, where it comes whole. -/
theorem IsAcceptable.readRequest {limits : Limits} {reader : Reader} {rest : Bytes}
    (acceptable : head.IsAcceptable) (uncoded : head.contents .transferEncoding = [])
    (unsized : head.contents .contentLength = [])
    (brings : reader.Brings limits head.octets [] rest) :
    ∃ request after, reader.readRequest limits = (.ok request, after) ∧ after.unused = rest := by
  obtain ⟨given, spelled⟩ := isAcceptable_iff.mp acceptable
  have none : Attempt.DecidesBelow addressSpace (Framing.absent.scanBody limits) [] (.found []) :=
    @Framing.decidesBelow_ofLength_of_fit limits [] (Nat.zero_le _) addressSpace
  obtain ⟨after, gave, left⟩ := Reader.readRequest_of_found spelled
    (framing_of_isSpelledBy spelled uncoded unsized) none brings
  exact ⟨_, after, gave, left⟩

/-- Some reader was given the head, with whatever follows it, and read the request off it. -/
def IsReadAs (head : SentHead) (request : Request) : Prop :=
  ∃ (limits : Limits) (reader after : Reader) (rest : Bytes),
    reader.unused = head.octets ++ rest ∧ reader.readRequest limits = (.ok request, after)

theorem IsReadAs.isSpelledBy {request : Request} (read : head.IsReadAs request) :
    request.toRequestHead.IsSpelledBy head.octets := by
  obtain ⟨limits, reader, after, rest, whole, gave⟩ := read
  obtain ⟨given, framing, body, headUsed, bodyUsed, rfl, -, cut, found, -⟩ :=
    Reader.used_of_readRequest_ok gave
  have spelled := found []
  rw [List.append_nil] at spelled
  obtain ⟨lines, scanned, ofLines⟩ := Reader.isSpelledBy_of_scanHead spelled
  have sent := head.scan_octets rest
  rw [← whole, cut, HeadLines.scan_append scanned] at sent
  split at sent
  · -- the head ends where the octets end that were used for it
    obtain ⟨-, same⟩ := Scan.found.inj sent
    rw [whole, ← same] at cut
    rw [List.append_cancel_right cut]
    exact ⟨lines, scanned, ofLines⟩
  · cases sent

end SentHead

end HttpServer
