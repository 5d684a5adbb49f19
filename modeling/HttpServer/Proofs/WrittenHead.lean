import HttpServer.Proofs.HeadScan
import HttpServer.Proofs.SentRequest
import HttpServer.Proofs.WrittenNumbers

/-!
# A written head is read back

Each part of a written head is found by the scan for it, whatever follows. The lines found are the
lines written, and the head they spell has the method, target, version and field values that were
sent.
-/

namespace HttpServer

/-! ## Octet classes -/

namespace Bytes

theorem ne_of_test {test : UInt8 → Bool} {byte : UInt8} (mark : UInt8)
    (passes : test byte = true) (fails : test mark = false) :
    byte ≠ mark := by
  rintro rfl
  simp [passes] at fails

/-- Making a token character small leaves a token character that is not a capital letter. -/
theorem isToken_toLower {byte : UInt8} (token : isToken byte = true) :
    isToken (toLower byte) = true ∧ isUpper (toLower byte) = false := by
  unfold toLower
  by_cases upper : isUpper byte = true
  · rw [if_pos upper]
    have lower : isLower (byte + 0x20) = true := by
      simp only [isUpper, isLower, Bool.and_eq_true, decide_eq_true_eq, UInt8.le_iff_toNat_le,
        UInt8.toNat_add] at upper ⊢
      simp only [UInt8.reduceToNat] at upper ⊢
      omega
    refine ⟨by simp [isToken, isAlphanumeric, lower], ?_⟩
    simp only [isUpper, isLower, Bool.and_eq_true, Bool.and_eq_false_iff, decide_eq_true_eq,
      decide_eq_false_iff_not, UInt8.le_iff_toNat_le] at lower ⊢
    simp only [UInt8.reduceToNat] at lower ⊢
    omega
  · rw [if_neg upper]
    exact ⟨token, by simpa using upper⟩

theorem isTarget_of_visible {byte : UInt8} (visible : 0x21 ≤ byte ∧ byte ≤ 0x7E) :
    isTarget byte = true := by
  simp [isTarget, visible]

theorem isFieldValue_of_legal {text : Bytes} (legal : FieldValue.isLegal text = true) :
    ∀ byte ∈ text, isFieldValue byte = true := by
  intro byte member
  have allowed := List.all_eq_true.mp legal byte member
  simp only [isFieldValue, Bool.or_eq_true, Bool.and_eq_true, beq_iff_eq, bne_iff_ne, ne_eq,
    decide_eq_true_eq, UInt8.le_iff_toNat_le, ← UInt8.toNat_inj] at allowed ⊢
  simp only [UInt8.reduceToNat] at allowed ⊢
  omega

theorem length_trimRight_le (bytes : Bytes) : (trimRight bytes).length ≤ bytes.length := by
  have short := (List.dropWhile_suffix (l := bytes.reverse) isBlank).length_le
  rwa [List.length_reverse, ← List.length_reverse] at short

/-- A run that trimming leaves alone has no blanks at either end. -/
theorem ends_of_trim {bytes : Bytes} (trimmed : bytes.trim = bytes) :
    bytes.dropWhile isBlank = bytes ∧ trimRight bytes = bytes := by
  have front : bytes.dropWhile isBlank = bytes := by
    apply (List.dropWhile_suffix isBlank).eq_of_length_le
    have short := length_trimRight_le (bytes.dropWhile isBlank)
    rw [← trim, trimmed] at short
    exact short
  refine ⟨front, ?_⟩
  rwa [trim, front] at trimmed

/-- A run is what trimming leaves of it, between blanks. -/
theorem exists_blanks_trim (bytes : Bytes) :
    ∃ front back, bytes = front ++ (bytes.trim ++ back) ∧
      (∀ byte ∈ front, isBlank byte = true) ∧ ∀ byte ∈ back, isBlank byte = true := by
  have cutBack (run : Bytes) :
      run = trimRight run ++ (run.reverse.takeWhile isBlank).reverse := by
    rw [trimRight, ← List.reverse_append, List.takeWhile_append_dropWhile, List.reverse_reverse]
  refine ⟨bytes.takeWhile isBlank, ((bytes.dropWhile isBlank).reverse.takeWhile isBlank).reverse,
    ?_, fun _ member => List.mem_takeWhile_imp member,
    fun _ member => List.mem_takeWhile_imp (List.mem_reverse.mp member)⟩
  rw [trim, ← cutBack, List.takeWhile_append_dropWhile]

theorem mem_of_mem_trim {byte : UInt8} {bytes : Bytes} (member : byte ∈ bytes.trim) :
    byte ∈ bytes := by
  obtain ⟨front, back, whole, -, -⟩ := exists_blanks_trim bytes
  rw [whole]
  exact List.mem_append_right _ (List.mem_append_left _ member)

theorem trim_of_no_blank {bytes : Bytes} (visible : ∀ byte ∈ bytes, isBlank byte = false) :
    bytes.trim = bytes := by
  have noFront (run : Bytes) (none : ∀ byte ∈ run, isBlank byte = false) :
      run.dropWhile isBlank = run := by
    cases run with
    | nil =>
        rfl
    | cons first others =>
        exact List.dropWhile_cons_of_neg (by simp [none first List.mem_cons_self])
  have noBack := noFront bytes.reverse (fun byte member =>
    visible byte (List.mem_reverse.mp member))
  rw [trim, noFront bytes visible, trimRight, noBack, List.reverse_reverse]

theorem isTextual_of_isBlank {byte : UInt8} (blank : isBlank byte = true) :
    isTextual byte = true := by
  simp only [isBlank, Bool.or_eq_true, beq_iff_eq] at blank
  rcases blank with rfl | rfl
  · rfl
  · rfl

theorem isTextual_of_isDigit {byte : UInt8} (isDigit : Bytes.isDigit byte = true) :
    isTextual byte = true ∧ isBlank byte = false := by
  simp only [Bytes.isDigit, isTextual, isBlank, Bool.and_eq_true, Bool.or_eq_true,
    Bool.or_eq_false_iff, beq_iff_eq, beq_eq_false_iff_ne, ne_eq, decide_eq_true_eq,
    UInt8.le_iff_toNat_le, ← UInt8.toNat_inj] at isDigit ⊢
  simp only [UInt8.reduceToNat] at isDigit ⊢
  omega

theorem isLegal_of_isTextual {bytes : Bytes} (textual : ∀ byte ∈ bytes, isTextual byte = true) :
    FieldValue.isLegal bytes = true := by
  rw [FieldValue.isLegal, List.all_eq_true]
  intro byte member
  have allowed := textual byte member
  simp only [isTextual, Bool.or_eq_true, Bool.and_eq_true, beq_iff_eq, bne_iff_ne, ne_eq,
    decide_eq_true_eq, UInt8.le_iff_toNat_le, ← UInt8.toNat_inj] at allowed ⊢
  simp only [UInt8.reduceToNat] at allowed ⊢
  omega

end Bytes

theorem Numeral.textual_decimal (number : Nat) :
    ∀ byte ∈ decimal number, Bytes.isTextual byte = true ∧ Bytes.isBlank byte = false :=
  fun _ member => Bytes.isTextual_of_isDigit (isDigit_of_mem_decimal member)

/-! ## Scans of what has been written -/

namespace HeadLines

theorem skipBlankLines_of_token {bytes : Bytes} (token : SentRequest.IsToken bytes)
    (rest : Bytes) :
    skipBlankLines (bytes ++ rest) = .found () (bytes ++ rest) := by
  obtain ⟨some, characters⟩ := token
  cases bytes with
  | nil =>
      exact absurd rfl some
  | cons first others =>
      have token := characters first List.mem_cons_self
      have noFeed := Bytes.ne_of_test Bytes.lineFeed token (by decide)
      have noCarriage := Bytes.ne_of_test Bytes.carriageReturn token (by decide)
      rw [List.cons_append, skipBlankLines.eq_def]
      simp [noFeed, noCarriage]

theorem scanMethod_append {method : Bytes} (token : SentRequest.IsToken method) (rest : Bytes) :
    scanMethod (method ++ Bytes.space :: rest) = .found method rest := by
  have some : method.isEmpty = false := by simpa using token.1
  have stop : Bytes.isToken Bytes.space = false := by decide
  simp only [scanMethod, Bytes.takeWhile_append_mark token.2 stop,
    Bytes.dropWhile_append_mark token.2 stop, some, beq_self_eq_true, Bool.not_false,
    Bool.and_self, if_true]

theorem scanTarget_append {target : Bytes} (some : target ≠ [])
    (visible : ∀ byte ∈ target, 0x21 ≤ byte ∧ byte ≤ 0x7E) (rest : Bytes) :
    scanTarget (target ++ Bytes.space :: rest) = .found target rest := by
  have passing : ∀ byte ∈ target, Bytes.isTarget byte = true :=
    fun byte member => Bytes.isTarget_of_visible (visible byte member)
  have stop : Bytes.isTarget Bytes.space = false := by decide
  have wellFormed : Utf8.isWellFormed target = true := by
    apply Utf8.isWellFormed_of_ascii
    intro byte member
    exact UInt8.lt_of_le_of_lt (visible byte member).2 (by decide)
  have notEmpty : target.isEmpty = false := by simpa using some
  simp only [scanTarget, Bytes.takeWhile_append_mark passing stop,
    Bytes.dropWhile_append_mark passing stop, notEmpty, wellFormed, beq_self_eq_true,
    Bool.not_false, Bool.and_self, if_true]

theorem scanTarget_of_delete {target : Bytes} (printable : ∀ byte ∈ target, 0x21 ≤ byte)
    (delete : 0x7F ∈ target) (rest : Bytes) :
    scanTarget (target ++ rest) = .wrong .token := by
  cases stopped : target.dropWhile Bytes.isTarget with
  | nil =>
      have passes := List.dropWhile_eq_nil_iff.mp stopped 0x7F delete
      simp [Bytes.isTarget] at passes
  | cons mark tail =>
      have cut := Bytes.takeWhile_append_of_stopped stopped
      have stop := Bytes.not_test_of_dropWhile stopped
      have passing : ∀ byte ∈ target.takeWhile Bytes.isTarget, Bytes.isTarget byte = true :=
        fun _ member => List.mem_takeWhile_imp member
      have member : mark ∈ target := by
        rw [cut]
        simp
      have noSpace : (mark == Bytes.space) = false := by
        rw [beq_eq_false_iff_ne]
        rintro rfl
        exact absurd (printable _ member) (by decide)
      rw [cut, List.append_assoc, List.cons_append]
      simp only [scanTarget, Bytes.takeWhile_append_mark passing stop,
        Bytes.dropWhile_append_mark passing stop, noSpace, Bool.false_and, Bool.false_eq_true,
        if_false]

theorem scanVersion_wireText {version : Version} (known : version = .http10 ∨ version = .http11)
    (rest : Bytes) :
    scanVersion (version.wireText ++ rest) = .found version rest := by
  rcases known with rfl | rfl
  · rw [scanVersion_append (by decide)]
    rfl
  · rw [scanVersion_append (by decide)]
    rfl

theorem scanLineEnd_append (error : HeadLinesError) (rest : Bytes) :
    scanLineEnd error (Bytes.lineEnd ++ rest) = .found () rest :=
  rfl

theorem scanField_append {name value : Bytes} (token : SentRequest.IsToken name)
    (legal : FieldValue.isLegal value = true) (trimmed : value.trim = value) (rest : Bytes) :
    scanField (Response.fieldLine name value ++ rest) = .found (name, value) rest := by
  have cut : Response.fieldLine name value ++ rest =
      name ++ Target.colon :: (Bytes.space :: (value ++ (Bytes.lineEnd ++ rest))) := by
    simp [Response.fieldLine, show Bytes.ascii ": " = [Target.colon, Bytes.space] by decide]
  obtain ⟨noFront, noBack⟩ := Bytes.ends_of_trim trimmed
  have passing := Bytes.isFieldValue_of_legal legal
  have content : (Bytes.space :: (value ++ (Bytes.lineEnd ++ rest))).dropWhile Bytes.isBlank =
      value ++ (Bytes.lineEnd ++ rest) := by
    rw [List.dropWhile_cons_of_pos (by decide)]
    cases value with
    | nil =>
        rfl
    | cons first others =>
        have visible : Bytes.isBlank first = false := by
          by_contra blank
          rw [Bool.not_eq_false] at blank
          rw [List.dropWhile_cons_of_pos blank] at noFront
          have short := (List.dropWhile_suffix (l := others) Bytes.isBlank).length_le
          rw [noFront, List.length_cons] at short
          omega
        exact List.dropWhile_cons_of_neg (by simp [visible])
  have stop : Bytes.isFieldValue Bytes.carriageReturn = false := by decide
  have whole : value ++ (Bytes.lineEnd ++ rest) =
      value ++ Bytes.carriageReturn :: (Bytes.lineFeed :: rest) := rfl
  have stopName : Bytes.isToken Target.colon = false := by decide
  have some : name.isEmpty = false := by simpa using token.1
  rw [cut]
  simp only [scanField, Bytes.takeWhile_append_mark token.2 stopName,
    Bytes.dropWhile_append_mark token.2 stopName, some, beq_self_eq_true, Bool.not_false,
    Bool.and_self, if_true, content]
  rw [whole, Bytes.takeWhile_append_mark passing stop, Bytes.dropWhile_append_mark passing stop,
    noBack]
  rfl

theorem isToken_of_scanField {first : UInt8} {tail rest : Bytes} {line : Bytes × Bytes}
    (found : scanField (first :: tail) = .found line rest) :
    Bytes.isToken first = true := by
  by_contra other
  have stopped : (first :: tail).dropWhile Bytes.isToken = first :: tail :=
    List.dropWhile_cons_of_neg other
  have nothing : (first :: tail).takeWhile Bytes.isToken = [] :=
    List.takeWhile_cons_of_neg other
  simp [scanField, stopped, nothing] at found

/-- Behind a field line further lines are read in the room that is left. -/
theorem scanFields_eq_furtherFields {room : Nat} {bytes rest : Bytes} {line : Bytes × Bytes}
    (found : scanField bytes = .found line rest) :
    scanFields room bytes = furtherFields room line rest := by
  cases bytes with
  | nil =>
      simp [scanField] at found
  | cons first tail =>
      have token := isToken_of_scanField found
      have noFeed : (first == Bytes.lineFeed) = false :=
        beq_eq_false_iff_ne.mpr (Bytes.ne_of_test _ token (by decide))
      have noCarriage : (first == Bytes.carriageReturn) = false :=
        beq_eq_false_iff_ne.mpr (Bytes.ne_of_test _ token (by decide))
      rw [scanFields_cons, found, noFeed, noCarriage]
      rfl

/-- A field line takes one place of the room for lines. -/
theorem scanFields_of_scanField {room : Nat} {bytes rest : Bytes} {line : Bytes × Bytes}
    (found : scanField bytes = .found line rest) :
    scanFields (room + 1) bytes = (scanFields room rest).map (line :: ·) :=
  scanFields_eq_furtherFields found

theorem scanFields_fieldLine {name value : Bytes} (token : SentRequest.IsToken name)
    (legal : FieldValue.isLegal value = true) (trimmed : value.trim = value) (room : Nat)
    (rest : Bytes) :
    scanFields (room + 1) (Response.fieldLine name value ++ rest) =
      (scanFields room rest).map ((name, value) :: ·) :=
  scanFields_of_scanField (scanField_append token legal trimmed rest)

/-- Written field lines are found as they were meant, as long as there is room for them. -/
theorem scanFields_append {lines : List (Bytes × Bytes)} {room : Nat}
    (written : ∀ line ∈ lines, SentRequest.IsWritable line) (few : lines.length ≤ room)
    (rest : Bytes) :
    scanFields room (lines.flatMap (fun line => Response.fieldLine line.1 line.2) ++
      (Bytes.lineEnd ++ rest)) = .found lines rest := by
  induction lines generalizing room with
  | nil =>
      rw [List.flatMap_nil, List.nil_append, show Bytes.lineEnd ++ rest =
        Bytes.carriageReturn :: (Bytes.lineFeed :: rest) from rfl, scanFields_cons]
      rfl
  | cons line others inductionHypothesis =>
      obtain ⟨further, rfl⟩ : ∃ further, room = further + 1 :=
        ⟨room - 1, by rw [List.length_cons] at few; omega⟩
      obtain ⟨token, legal, trimmed⟩ := written line List.mem_cons_self
      have again := inductionHypothesis
        (fun other member => written other (List.mem_cons_of_mem _ member))
        (Nat.le_of_succ_le_succ few)
      rw [List.flatMap_cons, List.append_assoc, scanFields_fieldLine token legal trimmed, again]
      rfl

end HeadLines

/-! ## The head that the lines spell -/

/-- Where there is no fragment, the path and the query with its mark are the whole text. -/
theorem Target.render_of_parsePathAndQuery {text path : Bytes} {query : Option Bytes}
    (noFragment : numberSign ∉ text) (parsed : parsePathAndQuery text = .ok (path, query)) :
    path ++ renderQuery query = text := by
  unfold parsePathAndQuery at parsed
  simp only at parsed
  split at parsed
  · split at parsed
    · rename_i mark rest stopped
      have whole := Bytes.takeWhile_append_of_stopped stopped
      have stops := Bytes.not_test_of_dropWhile stopped
      split at parsed
      · rename_i opens
        split at parsed
        · simp only [Except.ok.injEq, Prod.mk.injEq] at parsed
          obtain ⟨rfl, rfl⟩ := parsed
          have all : rest.takeWhile (· != numberSign) = rest := by
            rw [List.takeWhile_eq_self_iff]
            intro byte member
            rw [bne_iff_ne]
            rintro rfl
            apply noFragment
            rw [whole]
            simp [member]
          rw [beq_iff_eq.mp opens] at whole
          rw [all, renderQuery]
          exact whole.symm
        · simp at parsed
      · rename_i noQuery
        have fragment : mark = numberSign := by
          simp only [Bool.and_eq_false_iff, bne_eq_false_iff_eq] at stops
          rcases stops with opens | fragment
          · exact absurd (beq_iff_eq.mpr opens) noQuery
          · exact fragment
        exfalso
        apply noFragment
        rw [whole, fragment]
        simp
    · rename_i stopped
      simp only [Except.ok.injEq, Prod.mk.injEq] at parsed
      obtain ⟨rfl, rfl⟩ := parsed
      have whole := List.takeWhile_append_dropWhile (p := fun byte : UInt8 =>
        byte != questionMark && byte != numberSign) (l := text)
      rwa [stopped] at whole
  · simp at parsed

theorem Target.isPrintable_of_isPath {byte : UInt8} (passes : isPath byte = true) :
    0x21 ≤ byte := by
  simp only [isPath, Bool.or_eq_true, Bool.and_eq_true, beq_iff_eq, decide_eq_true_eq,
    UInt8.le_iff_toNat_le, ← UInt8.toNat_inj] at passes ⊢
  simp only [UInt8.reduceToNat] at passes ⊢
  omega

theorem Target.isPrintable_of_isQuery {byte : UInt8} (passes : isQuery byte = true) :
    0x21 ≤ byte := by
  simp only [isQuery, Bool.or_eq_true, Bool.and_eq_true, beq_iff_eq, decide_eq_true_eq,
    UInt8.le_iff_toNat_le, ← UInt8.toNat_inj] at passes ⊢
  simp only [UInt8.reduceToNat] at passes ⊢
  omega

theorem Target.isPrintable_of_parsePathAndQuery {text path : Bytes} {query : Option Bytes}
    (parsed : parsePathAndQuery text = .ok (path, query)) :
    ∀ byte ∈ path ++ renderQuery query, 0x21 ≤ byte := by
  unfold parsePathAndQuery at parsed
  simp only at parsed
  split at parsed
  · rename_i inPath
    have pathPrintable : ∀ byte ∈ text.takeWhile fun byte =>
        byte != questionMark && byte != numberSign, 0x21 ≤ byte :=
      fun byte member => isPrintable_of_isPath (List.all_eq_true.mp inPath byte member)
    split at parsed
    · split at parsed
      · split at parsed
        · rename_i inQuery
          simp only [Except.ok.injEq, Prod.mk.injEq] at parsed
          obtain ⟨rfl, rfl⟩ := parsed
          intro byte member
          rcases List.mem_append.mp member with memberPath | memberQuery
          · exact pathPrintable byte memberPath
          · rcases List.mem_cons.mp memberQuery with rfl | memberRest
            · decide
            · exact isPrintable_of_isQuery (List.all_eq_true.mp inQuery byte memberRest)
        · simp at parsed
      · simp only [Except.ok.injEq, Prod.mk.injEq] at parsed
        obtain ⟨rfl, rfl⟩ := parsed
        rwa [renderQuery, List.append_nil]
    · simp only [Except.ok.injEq, Prod.mk.injEq] at parsed
      obtain ⟨rfl, rfl⟩ := parsed
      rwa [renderQuery, List.append_nil]
  · simp at parsed

/-- What begins with a slash is a path with an optional query. -/
theorem Target.eq_origin_of_parse {text : Bytes} {target : Target}
    (path : text.head? = some slash) (parsed : parse text = .ok target) :
    ∃ path query, parsePathAndQuery text = .ok (path, query) ∧ target = .origin path query := by
  cases text with
  | nil =>
      simp at path
  | cons first others =>
      simp only [List.head?_cons, Option.some.injEq] at path
      subst path
      unfold parse at parsed
      split at parsed
      · simp at parsed
      · simp only [beq_self_eq_true, if_true] at parsed
        cases read : parsePathAndQuery (slash :: others) with
        | error error =>
            simp [read, Except.map] at parsed
        | ok found =>
            simp only [read, Except.map, Except.ok.injEq] at parsed
            exact ⟨found.1, found.2, rfl, parsed.symm⟩

namespace SentRequest.IsWellFormed

variable {sent : SentRequest}

theorem render_target (formed : sent.IsWellFormed) {target : Target}
    (parsed : Target.parse sent.target = .ok target) :
    target.render = sent.target := by
  obtain ⟨path, query, read, rfl⟩ := Target.eq_origin_of_parse formed.path parsed
  exact Target.render_of_parsePathAndQuery formed.noFragment read

theorem isPrintable (formed : sent.IsWellFormed) : ∀ byte ∈ sent.target, 0x21 ≤ byte := by
  obtain ⟨target, parsed⟩ := formed.accepted
  obtain ⟨path, query, read, rfl⟩ := Target.eq_origin_of_parse formed.path parsed
  have printable := Target.isPrintable_of_parsePathAndQuery read
  rwa [Target.render_of_parsePathAndQuery formed.noFragment read] at printable

theorem isVisible (formed : sent.IsWellFormed) (noDelete : 0x7F ∉ sent.target) :
    ∀ byte ∈ sent.target, 0x21 ≤ byte ∧ byte ≤ 0x7E := by
  intro byte member
  refine ⟨formed.isPrintable byte member, ?_⟩
  have small := formed.ascii byte member
  have other : byte ≠ 0x7F := by
    rintro rfl
    exact noDelete member
  rw [ne_eq, ← UInt8.toNat_inj] at other
  rw [UInt8.lt_iff_toNat_lt] at small
  rw [UInt8.le_iff_toNat_le]
  simp only [UInt8.reduceToNat] at other small ⊢
  omega

end SentRequest.IsWellFormed

theorem FieldName.isLegal_lowered {text : Bytes} (token : SentRequest.IsToken text)
    (short : text.length ≤ maximumLength) :
    isLegal text.lowered = true := by
  have some : text.lowered.isEmpty = false := by
    simpa [Bytes.lowered] using token.1
  have characters : text.lowered.all (fun byte => Bytes.isToken byte && !Bytes.isUpper byte) =
      true := by
    rw [List.all_eq_true]
    intro byte member
    obtain ⟨written, writtenMember, rfl⟩ := List.mem_map.mp member
    obtain ⟨character, small⟩ := Bytes.isToken_toLower (token.2 written writtenMember)
    simp [character, small]
  have length : text.lowered.length ≤ maximumLength := by
    rwa [Bytes.lowered, List.length_map]
  simp [isLegal, some, characters, length]

/-! ## The line that says how the body is sent -/

namespace SentBody

theorem isWritable_of_mem_framingLines {body : SentBody} {line : Bytes × Bytes}
    (member : line ∈ body.framingLines) :
    SentRequest.IsWritable line ∧ line.1.length ≤ FieldName.maximumLength := by
  cases body with
  | absent =>
      simp [framingLines] at member
  | sized octets =>
      rw [framingLines, List.mem_singleton] at member
      subst member
      have textual := Numeral.textual_decimal octets.length
      have token : SentRequest.IsToken (Bytes.ascii "Content-Length") := by decide
      have short : (Bytes.ascii "Content-Length").length ≤ FieldName.maximumLength := by decide
      refine ⟨⟨token, ?_, ?_⟩, short⟩
      · exact Bytes.isLegal_of_isTextual fun byte member => (textual byte member).1
      · exact Bytes.trim_of_no_blank fun byte member => (textual byte member).2
  | chunked chunks =>
      rw [framingLines, List.mem_singleton] at member
      subst member
      exact ⟨⟨by decide, by decide, by decide⟩, by decide⟩

end SentBody

namespace SentRequest

variable {sent : SentRequest}

/-- A line is one of the body or another one. -/
theorem mem_lines_cases {line : Bytes × Bytes} (member : line ∈ sent.lines) :
    line ∈ sent.before ++ sent.after ∨ line ∈ sent.body.framingLines := by
  simp only [lines, List.mem_append] at member ⊢
  rcases member with (before | framing) | after
  · exact Or.inl (Or.inl before)
  · exact Or.inr framing
  · exact Or.inl (Or.inr after)

theorem isWritable_of_mem_lines (formed : sent.IsWellFormed) {line : Bytes × Bytes}
    (member : line ∈ sent.lines) :
    IsWritable line := by
  rcases mem_lines_cases member with memberOther | memberFraming
  · exact (formed.free line memberOther).toIsWritable
  · exact (SentBody.isWritable_of_mem_framingLines memberFraming).1

theorem short_of_mem_lines (sendable : sent.IsSendable) {line : Bytes × Bytes}
    (member : line ∈ sent.lines) :
    line.1.length ≤ FieldName.maximumLength := by
  rcases mem_lines_cases member with memberOther | memberFraming
  · exact sendable.short line memberOther
  · exact (SentBody.isWritable_of_mem_framingLines memberFraming).2

theorem encodeHead_append (sent : SentRequest) (rest : Bytes) :
    sent.encodeHead ++ rest = sent.method ++ Bytes.space :: (sent.target ++
      Bytes.space :: (sent.version.wireText ++ (Bytes.lineEnd ++
        (sent.lines.flatMap (fun line => Response.fieldLine line.1 line.2) ++
          (Bytes.lineEnd ++ rest))))) := by
  simp [encodeHead, requestLine]

theorem scan_encodeHead (formed : sent.IsWellFormed)
    (noDelete : 0x7F ∉ sent.target) (rest : Bytes) :
    HeadLines.scan (sent.encodeHead ++ rest) =
      .found ⟨sent.method, sent.target, sent.version, sent.lines⟩ rest := by
  have written : ∀ line ∈ sent.lines, IsWritable line :=
    fun line member => isWritable_of_mem_lines formed member
  have visible := formed.isVisible noDelete
  have some : sent.target ≠ [] := by
    intro nothing
    have path := formed.path
    simp [nothing] at path
  rw [encodeHead_append, HeadLines.scan, HeadLines.skipBlankLines_of_token formed.method]
  simp only [Scan.andThen, HeadLines.scanMethod_append formed.method,
    HeadLines.scanTarget_append some visible, HeadLines.scanVersion_wireText formed.version,
    HeadLines.scanLineEnd_append, HeadLines.scanFields_append written formed.few, Scan.map]

/-- The head that has been read is the one that was sent. -/
structure ReadsHead (sent : SentRequest) (head : RequestHead) : Prop where
  method : head.method = sent.method
  target : head.target.render = sent.target
  version : head.version = sent.version
  fields : ∀ name, (head.fields.getAll name).map FieldValue.text = Fields.valuesOf name sent.lines

theorem ofLines_of_sendable (sendable : sent.IsSendable) :
    ∃ head, RequestHead.ofLines ⟨sent.method, sent.target, sent.version, sent.lines⟩ = .ok head ∧
      sent.ReadsHead head := by
  obtain ⟨target, parsed⟩ := sendable.accepted
  have legal : ∀ line ∈ sent.lines, Fields.IsLine line := by
    intro line member
    have writable := isWritable_of_mem_lines sendable.toIsWellFormed member
    have short := short_of_mem_lines sendable member
    exact ⟨FieldName.isLegal_lowered writable.token short, writable.legal⟩
  obtain ⟨fields, spelled, values⟩ := Fields.foldlM_appendLine legal .empty
  refine ⟨⟨sent.method, target, sent.version, fields⟩, ?_, rfl, ?_, rfl, values⟩
  · exact RequestHead.ofLines_eq_ok_iff.mpr ⟨target, fields, parsed, spelled, rfl⟩
  · exact sendable.render_target parsed

/-- A written head that is not longer than the bound on heads is read back. -/
theorem spells_encodeHead {limits : Limits} (sendable : sent.IsSendable)
    (within : sent.encodeHead.length ≤ limits.head) :
    ∃ head, sent.ReadsHead head ∧
      Attempt.Spells 0 (Reader.scanHead limits) sent.encodeHead head := by
  obtain ⟨head, read, reads⟩ := ofLines_of_sendable sendable
  have scanned := scan_encodeHead sendable.toIsWellFormed sendable.noDelete []
  rw [List.append_nil] at scanned
  exact ⟨head, reads, Reader.spells_of_isSpelledBy ⟨_, scanned, read⟩ within⟩

/-! ## Heads that are refused -/

theorem scan_encodeHead_of_delete (formed : sent.IsWellFormed) (delete : 0x7F ∈ sent.target)
    (rest : Bytes) :
    HeadLines.scan (sent.encodeHead ++ rest) = .wrong .token := by
  rw [encodeHead_append, HeadLines.scan, HeadLines.skipBlankLines_of_token formed.method]
  simp only [Scan.andThen, HeadLines.scanMethod_append formed.method,
    HeadLines.scanTarget_of_delete formed.isPrintable delete]

/-- A head with too long a name is not accepted. -/
theorem ofLines_of_long_name (formed : sent.IsWellFormed)
    (long : ∃ line ∈ sent.lines, FieldName.maximumLength < line.1.length) :
    RequestHead.ofLines ⟨sent.method, sent.target, sent.version, sent.lines⟩ =
      .error .fieldName := by
  obtain ⟨target, parsed⟩ := formed.accepted
  obtain ⟨line, member, tooLong⟩ := long
  have illegal : FieldName.isLegal line.1.lowered = false := by
    have length : line.1.lowered.length = line.1.length := List.length_map ..
    simp only [FieldName.isLegal, length, Nat.not_le.mpr tooLong, decide_false, Bool.and_false,
      Bool.false_and]
  have spoiled := Fields.foldlM_appendLine_of_illegal
    (fun line member => (isWritable_of_mem_lines formed member).legal) ⟨line, member, illegal⟩
    .empty
  simp only [RequestHead.ofLines, parsed, Except.mapError, spoiled, bind, Except.bind]

end SentRequest

end HttpServer
