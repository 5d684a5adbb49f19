import HttpServer.Proofs.ChunkGrammar
import HttpServer.Proofs.FieldLines
import HttpServer.Proofs.Serving
import HttpServer.Proofs.WrittenNumbers
import HttpServer.Response.Framing

/-!
# Responses are received as they were written

A client reads a status line, field lines up to the first empty one, and as many octets of body as
the length field says, or none where none can follow. Whatever responses are written one after the
other, this gives them back: no line ending stands inside a line of a head, no colon inside a name,
and the length is there whenever a body is.
-/

namespace HttpServer

/-! ## A client -/

namespace Bytes

def splitLine? (bytes : Bytes) : Option (Bytes × Bytes) :=
  (afterLine bytes).map fun rest =>
    (bytes.take (bytes.length - (rest.length + lineEnd.length)), rest)

theorem length_of_splitLine? {bytes line rest : Bytes}
    (found : splitLine? bytes = some (line, rest)) :
    rest.length < bytes.length := by
  obtain ⟨other, after, same⟩ := Option.map_eq_some_iff.mp found
  obtain ⟨-, rfl⟩ := Prod.mk.inj same
  have shorter := length_of_afterLine after
  omega

end Bytes

/-- A response as its client receives it. -/
structure Received where
  status : Nat
  lines : List (Bytes × Bytes)
  body : Bytes
deriving DecidableEq

namespace Received

/-- The number on a status line. -/
def statusOf? (line : Bytes) : Option Nat :=
  if (line.take 9 = Bytes.ascii "HTTP/1.0 " ∨ line.take 9 = Bytes.ascii "HTTP/1.1 ") ∧
      (line.drop 12).head? = some Bytes.space then
    Numeral.ofDecimal? ((line.drop 9).take 3)
  else none

/-- The name on a field line, which a colon and a space end, and the value. -/
def fieldOf? (line : Bytes) : Option (Bytes × Bytes) :=
  match line.dropWhile (· != Target.colon) with
  | _ :: blank :: value =>
    if blank = Bytes.space then some (line.takeWhile (· != Target.colon), value) else none
  | _ => none

/-- The field lines up to the first empty line, and what follows it. -/
def fieldLines? (bytes : Bytes) : Option (List (Bytes × Bytes) × Bytes) :=
  match _found : Bytes.splitLine? bytes with
  | none => none
  | some ([], rest) => some ([], rest)
  | some (first :: others, rest) =>
    match fieldOf? (first :: others), fieldLines? rest with
    | some field, some (behind, after) => some (field :: behind, after)
    | _, _ => none
termination_by bytes.length
decreasing_by exact Bytes.length_of_splitLine? _found

/-- Whether a body follows the head of a response with this status. -/
def bodyFollows (headOnly : Bool) (status : Nat) : Bool :=
  !headOnly && !(status < 200 || status == 204 || status == 304)

/-- The first response of what has come, and what follows it. -/
def ofOctets? (headOnly : Bool) (bytes : Bytes) : Option (Received × Bytes) := do
  let (line, rest) ← Bytes.splitLine? bytes
  let status ← statusOf? line
  let (lines, rest) ← fieldLines? rest
  if bodyFollows headOnly status then
    match Fields.valuesOf .contentLength lines with
    | [text] =>
      let length ← Numeral.ofDecimal? text
      if length ≤ rest.length then
        some ({ status, lines, body := rest.take length }, rest.drop length)
      else none
    | _ => none
  else some ({ status, lines, body := [] }, rest)

/-- The responses to requests of which it is known whether they asked for the head only, and what
follows the last of them. -/
def allOfOctets? : List Bool → Bytes → Option (List Received × Bytes)
  | [], bytes => some ([], bytes)
  | headOnly :: others, bytes => do
    let (first, rest) ← ofOctets? headOnly bytes
    let (behind, rest) ← allOfOctets? others rest
    some (first :: behind, rest)

end Received

/-- A response as its client is to receive it: the fields in order without transfer codings, with
the length of the body where one is allowed and no length has been set, and the body where one is
written. -/
def Response.received (response : Response) (headOnly : Bool) : Received where
  status := response.status.code
  lines :=
    (response.fields.lines.filter fun line => line.1 != FieldName.transferEncoding).map
        (fun line => (line.1.text, line.2.text))
      ++ if Received.bodyFollows false response.status.code ∧
          response.fields.getAll .contentLength = [] then
          [(FieldName.contentLength.text, Numeral.decimal response.body.length)]
        else []
  body := if Received.bodyFollows headOnly response.status.code then response.body else []

/-! ## Lines -/

namespace Bytes

theorem isLine_of_not_mem {text : Bytes} (plain : carriageReturn ∉ text) : IsLine text := by
  induction text with
  | nil =>
      exact isLine_nil
  | cons first others inductionHypothesis =>
      rw [List.mem_cons, not_or] at plain
      apply isLine_cons.mpr
      refine ⟨inductionHypothesis plain.2, ?_⟩
      rintro ⟨rfl, -⟩
      exact plain.1 rfl

theorem splitLine?_append {text : Bytes} (plain : carriageReturn ∉ text) (rest : Bytes) :
    splitLine? (text ++ (lineEnd ++ rest)) = some (text, rest) := by
  have length : (text ++ (lineEnd ++ rest)).length - (rest.length + lineEnd.length) =
      text.length := by
    simp only [List.length_append]
    omega
  rw [splitLine?, afterLine_append (isLine_of_not_mem plain), Option.map_some, length,
    List.take_left]

end Bytes

/-- A name and a value that a field line can be read back from. -/
structure Response.IsPlain (line : Bytes × Bytes) : Prop where
  some : line.1 ≠ []
  noColon : Target.colon ∉ line.1
  name : Bytes.carriageReturn ∉ line.1
  value : Bytes.carriageReturn ∉ line.2

/-- A field line without its ending. -/
def Response.fieldText (line : Bytes × Bytes) : Bytes := line.1 ++ Bytes.ascii ": " ++ line.2

namespace Response

theorem fieldLine_eq (line : Bytes × Bytes) :
    fieldLine line.1 line.2 = fieldText line ++ Bytes.lineEnd :=
  rfl

theorem IsPlain.text_ne_nil {line : Bytes × Bytes} (plain : IsPlain line) :
    fieldText line ≠ [] := by
  simp [fieldText, plain.some]

theorem IsPlain.carriageReturn_not_mem {line : Bytes × Bytes} (plain : IsPlain line) :
    Bytes.carriageReturn ∉ fieldText line := by
  simp only [fieldText, List.mem_append, not_or]
  exact ⟨⟨plain.name, by decide⟩, plain.value⟩

end Response

namespace Received

theorem fieldOf?_of_isPlain {line : Bytes × Bytes} (plain : Response.IsPlain line) :
    fieldOf? (Response.fieldText line) = some line := by
  have passing : ∀ byte ∈ line.1, (byte != Target.colon) = true := by
    intro byte member
    rw [bne_iff_ne]
    rintro rfl
    exact plain.noColon member
  have whole : Response.fieldText line =
      line.1 ++ Target.colon :: (Bytes.space :: line.2) := by
    rw [Response.fieldText, List.append_assoc]
    rfl
  rw [whole, fieldOf?, Bytes.dropWhile_append_mark passing (by decide),
    Bytes.takeWhile_append_mark passing (by decide)]
  rfl

theorem fieldLines?_eq (bytes : Bytes) :
    fieldLines? bytes =
      match Bytes.splitLine? bytes with
      | none => none
      | some ([], rest) => some ([], rest)
      | some (first :: others, rest) =>
        match fieldOf? (first :: others), fieldLines? rest with
        | some field, some (behind, after) => some (field :: behind, after)
        | _, _ => none := by
  rw [fieldLines?]
  split <;> rename_i found <;> rw [found]

theorem fieldLines?_lineEnd (rest : Bytes) :
    fieldLines? (Bytes.lineEnd ++ rest) = some ([], rest) := by
  have found : Bytes.splitLine? (Bytes.lineEnd ++ rest) = some ([], rest) :=
    Bytes.splitLine?_append List.not_mem_nil rest
  rw [fieldLines?_eq, found]

theorem fieldLines?_cons {line : Bytes × Bytes} (plain : Response.IsPlain line) (rest : Bytes) :
    fieldLines? (Response.fieldLine line.1 line.2 ++ rest) =
      (fieldLines? rest).map fun found => (line :: found.1, found.2) := by
  have found := Bytes.splitLine?_append plain.carriageReturn_not_mem rest
  have field := fieldOf?_of_isPlain plain
  rw [Response.fieldLine_eq, List.append_assoc, fieldLines?_eq, found]
  cases text : Response.fieldText line with
  | nil =>
      exact absurd text plain.text_ne_nil
  | cons first others =>
      rw [text] at field
      simp only [field]
      cases fieldLines? rest with
      | none =>
          rfl
      | some behind =>
          rfl

theorem fieldLines?_flatMap {lines : List (Bytes × Bytes)}
    (plain : ∀ line ∈ lines, Response.IsPlain line) (rest : Bytes) :
    fieldLines? (lines.flatMap (fun line => Response.fieldLine line.1 line.2) ++
      (Bytes.lineEnd ++ rest)) = some (lines, rest) := by
  induction lines with
  | nil =>
      exact fieldLines?_lineEnd rest
  | cons line others inductionHypothesis =>
      have plainOthers : ∀ line ∈ others, Response.IsPlain line :=
        fun other member => plain other (List.mem_cons_of_mem _ member)
      rw [List.flatMap_cons, List.append_assoc, fieldLines?_cons (plain line List.mem_cons_self),
        inductionHypothesis plainOthers]
      rfl

end Received

/-! ## The lines of a head -/

theorem FieldName.mem_text {name : FieldName} {byte : UInt8} (member : byte ∈ name.text) :
    Bytes.isToken byte = true ∧ Bytes.isUpper byte = false := by
  have legal := name.legal
  simp only [isLegal, Bool.and_eq_true, List.all_eq_true, Bool.not_eq_true'] at legal
  exact legal.2 byte member

theorem FieldName.lowered_text (name : FieldName) : name.text.lowered = name.text := by
  have same : ∀ byte ∈ name.text, Bytes.toLower byte = id byte := by
    intro byte member
    simp [Bytes.toLower, (mem_text member).2]
  rw [Bytes.lowered, List.map_congr_left same, List.map_id]

theorem FieldName.eq_of_text_eq {first second : FieldName} (same : first.text = second.text) :
    first = second := by
  cases first
  cases second
  cases same
  rfl

theorem FieldName.text_ne_nil (name : FieldName) : name.text ≠ [] := by
  have legal := name.legal
  simp only [isLegal, Bool.and_eq_true, Bool.not_eq_true', List.isEmpty_eq_false_iff] at legal
  exact legal.1.1

theorem FieldValue.carriageReturn_not_mem (value : FieldValue) :
    Bytes.carriageReturn ∉ value.text := by
  intro member
  have legal := List.all_eq_true.mp value.legal _ member
  exact absurd legal (by decide)

namespace Response

theorem isPlain_field (name : FieldName) {value : Bytes} (plain : Bytes.carriageReturn ∉ value) :
    IsPlain (name.text, value) where
  some := name.text_ne_nil
  noColon member := absurd (FieldName.mem_text member).1 (by decide)
  name member := absurd (FieldName.mem_text member).1 (by decide)
  value := plain

theorem carriageReturn_not_mem_decimal (number : Nat) :
    Bytes.carriageReturn ∉ Numeral.decimal number :=
  fun member => absurd (Numeral.isDigit_of_mem_decimal member) (by decide)

theorem isPlain_of_mem_headLines {response : Response} {line : Bytes × Bytes}
    (member : line ∈ response.headLines) :
    IsPlain line := by
  rcases List.mem_append.mp member with ofFields | added
  · obtain ⟨field, -, rfl⟩ := List.mem_map.mp ofFields
    exact isPlain_field field.1 field.2.carriageReturn_not_mem
  · split at added
    · rw [List.mem_singleton.mp added]
      exact isPlain_field .contentLength (carriageReturn_not_mem_decimal _)
    · cases added

/-! ## The status line -/

theorem carriageReturn_not_mem_reasonText (status : Status) :
    Bytes.carriageReturn ∉ status.reasonText := by
  unfold Status.reasonText Status.reason?
  split <;> decide

theorem length_digits (status : Status) : status.digits.length = 3 := by
  obtain ⟨least, most⟩ := status.threeDigits
  rw [Status.digits, Numeral.decimal, if_neg (by omega), List.length_append, Numeral.decimal,
    if_neg (by omega), List.length_append, Numeral.decimal, if_pos (by omega)]
  rfl

/-- The status line without its ending. -/
def statusText (response : Response) : Bytes :=
  (response.version.wireText ++ [Bytes.space]) ++
    (response.status.digits ++ (Bytes.space :: response.status.reasonText))

theorem statusLine_eq (response : Response) :
    response.statusLine = response.statusText ++ Bytes.lineEnd := by
  simp only [statusLine, statusText, List.append_assoc, List.cons_append, List.nil_append]

theorem carriageReturn_not_mem_statusText (response : Response) :
    Bytes.carriageReturn ∉ response.statusText := by
  have version : Bytes.carriageReturn ∉ response.version.wireText ++ [Bytes.space] := by
    cases response.version <;> decide
  simp only [statusText, List.mem_append, List.mem_cons, not_or]
  exact ⟨by simpa using version, carriageReturn_not_mem_decimal _, by decide,
    carriageReturn_not_mem_reasonText _⟩

theorem statusOf?_statusText (response : Response) :
    Received.statusOf? response.statusText = some response.status.code := by
  have version : (response.version.wireText ++ [Bytes.space]).length = 9 ∧
      (response.version.wireText ++ [Bytes.space] = Bytes.ascii "HTTP/1.0 " ∨
        response.version.wireText ++ [Bytes.space] = Bytes.ascii "HTTP/1.1 ") := by
    cases response.version <;> decide
  have digits := length_digits response.status
  have front : response.statusText.take 9 = response.version.wireText ++ [Bytes.space] :=
    List.take_left' version.1
  have behind : response.statusText.drop 9 =
      response.status.digits ++ (Bytes.space :: response.status.reasonText) :=
    List.drop_left' version.1
  have last : response.statusText.drop 12 = Bytes.space :: response.status.reasonText := by
    rw [show 12 = 9 + 3 from rfl, ← List.drop_drop, behind, List.drop_left' digits]
  rw [Received.statusOf?, front, behind, last, List.take_left' digits,
    if_pos ⟨version.2, rfl⟩]
  exact Numeral.ofDecimal?_decimal response.status.code

/-! ## The first empty line -/

theorem splitHead?_append {text : Bytes} (plain : Bytes.carriageReturn ∉ text) (rest : Bytes) :
    splitHead? (text ++ rest) =
      (splitHead? rest).map fun found => (text ++ found.1, found.2) := by
  induction text with
  | nil =>
      exact Option.map_id'.symm
  | cons first others inductionHypothesis =>
      rw [List.mem_cons, not_or] at plain
      have noEnd : headEnd.isPrefixOf (first :: (others ++ rest)) = false := by
        have differs : (Bytes.carriageReturn == first) = false := by
          rw [beq_eq_false_iff_ne]
          exact plain.1
        show (Bytes.carriageReturn == first && _) = false
        rw [differs, Bool.false_and]
      rw [List.cons_append, splitHead?, noEnd, if_neg Bool.false_ne_true,
        inductionHypothesis plain.2, Option.map_map]
      rfl

theorem splitHead?_lineEnd {text : Bytes} (some : text ≠ [])
    (plain : Bytes.carriageReturn ∉ text) (rest : Bytes) :
    splitHead? (Bytes.lineEnd ++ (text ++ rest)) =
      (splitHead? rest).map fun found => (Bytes.lineEnd ++ (text ++ found.1), found.2) := by
  cases text with
  | nil =>
      exact absurd rfl some
  | cons first others =>
      have differs : (Bytes.carriageReturn == first) = false := by
        rw [beq_eq_false_iff_ne]
        rintro rfl
        exact plain List.mem_cons_self
      have behind := splitHead?_append plain rest
      -- the line ending is not the first half of an empty line, nor does its second octet begin one
      have noEnd : headEnd.isPrefixOf
          (Bytes.carriageReturn :: Bytes.lineFeed :: (first :: others ++ rest)) = false := by
        show (_ && (_ && (Bytes.carriageReturn == first && _))) = false
        rw [differs, Bool.false_and, Bool.and_false, Bool.and_false]
      have noFeed : headEnd.isPrefixOf (Bytes.lineFeed :: (first :: others ++ rest)) = false :=
        rfl
      show splitHead? (Bytes.carriageReturn :: Bytes.lineFeed :: (first :: others ++ rest)) = _
      rw [splitHead?, noEnd, if_neg Bool.false_ne_true, splitHead?, noFeed,
        if_neg Bool.false_ne_true, behind, Option.map_map, Option.map_map]
      rfl

theorem splitHead?_lines {lines : List (Bytes × Bytes)} (plain : ∀ line ∈ lines, IsPlain line)
    (rest : Bytes) :
    splitHead? (Bytes.lineEnd ++
      (lines.flatMap (fun line => fieldLine line.1 line.2) ++ (Bytes.lineEnd ++ rest))) =
      some (Bytes.lineEnd ++
        (lines.flatMap (fun line => fieldLine line.1 line.2) ++ Bytes.lineEnd), rest) := by
  induction lines with
  | nil =>
      rfl
  | cons line others inductionHypothesis =>
      have plainLine := plain line List.mem_cons_self
      have plainOthers : ∀ line ∈ others, IsPlain line :=
        fun other member => plain other (List.mem_cons_of_mem _ member)
      have cut (behind : Bytes) :
          (line :: others).flatMap (fun line => fieldLine line.1 line.2) ++ behind =
            fieldText line ++ (Bytes.lineEnd ++
              (others.flatMap (fun line => fieldLine line.1 line.2) ++ behind)) := by
        simp only [List.flatMap_cons, fieldLine_eq, List.append_assoc]
      rw [cut, cut, splitHead?_lineEnd plainLine.text_ne_nil plainLine.carriageReturn_not_mem,
        inductionHypothesis plainOthers]
      rfl

theorem encode_eq (response : Response) (headOnly : Bool) :
    response.encode headOnly = response.statusText ++ (Bytes.lineEnd ++
      (response.headLines.flatMap (fun line => fieldLine line.1 line.2) ++
        (Bytes.lineEnd ++ (response.received headOnly).body))) := by
  simp only [encode, encodeHead, statusLine_eq, List.append_assoc]
  rfl

theorem splitHead?_encode (response : Response) (headOnly : Bool) :
    splitHead? (response.encode headOnly) =
      some (response.encodeHead, (response.received headOnly).body) := by
  rw [encode_eq, splitHead?_append (carriageReturn_not_mem_statusText response),
    splitHead?_lines fun line member => isPlain_of_mem_headLines member]
  simp only [encodeHead, statusLine_eq, List.append_assoc, Option.map_some]

end Response

/-! ## The length of the body -/

namespace Fields

theorem contains_eq_false_iff {fields : Fields} {name : FieldName} :
    fields.contains name = false ↔ fields.getAll name = [] := by
  unfold contains getAll
  rw [List.any_eq_false, ← List.find?_eq_none]
  cases fields.entries.find? fun field => field.name == name with
  | none =>
      simp
  | some field =>
      simp [Field.values]

theorem values_of_lines (fields : Fields) (name : FieldName) :
    (fields.lines.filter fun line => line.1 == name).map Prod.snd = fields.getAll name := by
  obtain ⟨entries, distinct⟩ := fields
  unfold lines getAll
  simp only
  induction entries with
  | nil =>
      rfl
  | cons field others inductionHypothesis =>
      rw [List.map_cons, List.nodup_cons] at distinct
      have behind := inductionHypothesis distinct.2
      have ofField : (field.lines.filter fun line => line.1 == name).map Prod.snd =
          if field.name = name then field.values else [] := by
        rw [Field.lines, List.filter_map, List.map_map]
        by_cases same : field.name = name
        · rw [if_pos same, List.filter_eq_self.mpr (by simp [same])]
          exact List.map_id _
        · rw [if_neg same, List.filter_eq_nil_iff.mpr (by simp [same]), List.map_nil]
      rw [List.flatMap_cons, List.filter_append, List.map_append, ofField, behind, List.find?_cons]
      by_cases same : field.name = name
      · -- the names are distinct, so no later entry has lines of this name
        subst same
        have none : (others.find? fun other => other.name == field.name) = none := by
          rw [List.find?_eq_none]
          intro other member equal
          exact distinct.1 (List.mem_map.mpr ⟨other, member, beq_iff_eq.mp equal⟩)
        simp [none]
      · have differs : (field.name == name) = false := beq_eq_false_iff_ne.mpr same
        rw [if_neg same, differs, List.nil_append]

end Fields

namespace Response

theorem valuesOf_fieldLines (fields : Fields) {name : FieldName}
    (kept : name ≠ FieldName.transferEncoding) :
    Fields.valuesOf name ((fields.lines.filter fun line =>
      line.1 != FieldName.transferEncoding).map fun line => (line.1.text, line.2.text)) =
      (fields.getAll name).map FieldValue.text := by
  have sameTest : ∀ line ∈ fields.lines,
      (((fun line : Bytes × Bytes => line.1.lowered == name.text) ∘
        fun line : FieldName × FieldValue => (line.1.text, line.2.text)) line &&
          line.1 != FieldName.transferEncoding) = (line.1 == name) := by
    rintro ⟨other, value⟩ -
    show ((other.text.lowered == name.text) && (other != FieldName.transferEncoding)) =
      (other == name)
    rw [FieldName.lowered_text]
    by_cases same : other = name
    · subst same
      simp [kept]
    · have differs : other.text ≠ name.text := fun text => same (FieldName.eq_of_text_eq text)
      rw [beq_eq_false_iff_ne.mpr differs, beq_eq_false_iff_ne.mpr same, Bool.false_and]
  rw [← Fields.values_of_lines, Fields.valuesOf, List.filter_map, List.map_map, List.filter_filter,
    List.filter_congr sameTest, List.map_map]
  rfl

theorem headLines_eq (response : Response) (headOnly : Bool) :
    response.headLines = (response.received headOnly).lines := by
  have needs : response.needsLength = true ↔
      Received.bodyFollows false response.status.code = true ∧
        response.fields.getAll .contentLength = [] := by
    rw [needsLength, Bool.and_eq_true, Bool.not_eq_true', Fields.contains_eq_false_iff]
    rfl
  rw [headLines, received]
  simp only [needs]

variable {response : Response}

/-- No length has been set, or the length of the body has been set once. -/
def HasOwnLength (response : Response) : Prop :=
  response.fields.getAll .contentLength = [] ∨
    ∃ value, response.fields.getAll .contentLength = [value] ∧
      value.text = Numeral.decimal response.body.length

/-- A head behind which a body follows says once how long the body is. -/
theorem valuesOf_headLines (lengths : response.HasOwnLength)
    (follows : Received.bodyFollows false response.status.code = true) :
    Fields.valuesOf .contentLength response.headLines = [Numeral.decimal response.body.length] := by
  rw [headLines_eq response false, received, Fields.valuesOf_append,
    valuesOf_fieldLines response.fields (by decide)]
  rcases lengths with none | ⟨value, one, text⟩
  · rw [none, if_pos ⟨follows, rfl⟩]
    rfl
  · rw [one, if_neg (by simp)]
    simp [text, Fields.valuesOf]

/-- A response is received as it was written, and what follows it is left. -/
theorem ofOctets?_encode (lengths : response.HasOwnLength) (headOnly : Bool) (rest : Bytes) :
    Received.ofOctets? headOnly (response.encode headOnly ++ rest) =
      some (response.received headOnly, rest) := by
  have line := Bytes.splitLine?_append (carriageReturn_not_mem_statusText response)
  have plain : ∀ line ∈ response.headLines, IsPlain line :=
    fun line member => isPlain_of_mem_headLines member
  have head := Received.fieldLines?_flatMap plain
  rw [encode_eq]
  simp only [List.append_assoc]
  rw [Received.ofOctets?, line]
  simp only [bind, Option.bind, statusOf?_statusText, head]
  -- only where a body follows is the length looked at, and there it is said just once
  by_cases follows : Received.bodyFollows headOnly response.status.code = true
  · have allowed : Received.bodyFollows false response.status.code = true := by
      simp only [Received.bodyFollows, Bool.and_eq_true] at follows ⊢
      exact ⟨rfl, follows.2⟩
    have body : (response.received headOnly).body = response.body := if_pos follows
    have enough : response.body.length ≤ (response.body ++ rest).length := by
      rw [List.length_append]
      exact Nat.le_add_right _ _
    rw [if_pos follows, valuesOf_headLines lengths allowed]
    simp only [Numeral.ofDecimal?_decimal, body, if_pos enough, List.take_left, List.drop_left]
    rw [headLines_eq response headOnly, ← body]
    rfl
  · have body : (response.received headOnly).body = [] := if_neg follows
    rw [if_neg follows, headLines_eq response headOnly, body, List.nil_append, ← body]
    rfl

/-! ## All responses -/

/-- Responses written one after the other are received as they were written, in order, and nothing
else is, whatever they answer. The first empty line of each ends its head. -/
theorem allOfOctets?_of_write (replies : List (Response × Bool))
    (lengths : ∀ reply ∈ replies, reply.1.HasOwnLength) :
    Received.allOfOctets? (replies.map Prod.snd)
        (replies.flatMap fun reply => (reply.1.write reply.2 {}).2.wire) =
      some (replies.map fun reply => reply.1.received reply.2, []) ∧
    ∀ reply ∈ replies, splitHead? (reply.1.write reply.2 {}).2.wire =
      some (reply.1.encodeHead, (reply.1.received reply.2).body) := by
  have written (reply : Response × Bool) :
      (reply.1.write reply.2 {}).2.wire = reply.1.encode reply.2 := by
    rw [write_of_unbounded reply.1 reply.2 rfl]
    rfl
  constructor
  · induction replies with
    | nil =>
        rfl
    | cons reply others inductionHypothesis =>
        have behind := inductionHypothesis
          (fun other member => lengths other (List.mem_cons_of_mem _ member))
        rw [List.map_cons, List.flatMap_cons, List.map_cons, written, Received.allOfOctets?,
          ofOctets?_encode (lengths reply List.mem_cons_self)]
        simp only [bind, Option.bind, behind]
  · intro reply _
    rw [written]
    exact splitHead?_encode reply.1 reply.2

/-- A body that looks like a response, a length without its body, and a status that allows none. -/
theorem allOfOctets?_of_write_of_misleading_body :
    let length : FieldValue := ⟨Bytes.ascii "3", by decide⟩
    let replies : List (Response × Bool) := [
      ({ body := Bytes.ascii "HTTP/1.1 200 OK\r\n\r\n" }, false),
      ({ status := .notFound, version := .http10, body := Bytes.ascii "abc"
         fields := (Fields.empty.insert .transferEncoding length).insert .contentLength length },
        true),
      ({ status := .noContent, body := Bytes.ascii "abc" }, false)]
    Received.allOfOctets? [false, true, false]
        (replies.flatMap fun reply => (reply.1.write reply.2 {}).2.wire) =
      some ([
        { status := 200, lines := [(Bytes.ascii "content-length", Bytes.ascii "19")]
          body := Bytes.ascii "HTTP/1.1 200 OK\r\n\r\n" },
        { status := 404, lines := [(Bytes.ascii "content-length", Bytes.ascii "3")], body := [] },
        { status := 204, lines := [], body := [] }], []) := by
  intro length replies
  have lengths : ∀ reply ∈ replies, reply.1.HasOwnLength := by
    intro reply member
    simp only [replies, List.mem_cons, List.not_mem_nil, or_false] at member
    rcases member with rfl | rfl | rfl
    · exact Or.inl rfl
    · exact Or.inr ⟨length, by decide, by decide +kernel⟩
    · exact Or.inl rfl
  have received := (allOfOctets?_of_write replies lengths).1
  have same : (replies.map fun reply => reply.1.received reply.2) = [
      { status := 200, lines := [(Bytes.ascii "content-length", Bytes.ascii "19")]
        body := Bytes.ascii "HTTP/1.1 200 OK\r\n\r\n" },
      { status := 404, lines := [(Bytes.ascii "content-length", Bytes.ascii "3")], body := [] },
      { status := 204, lines := [], body := [] }] := by
    decide +kernel
  rw [same] at received
  exact received

end Response

end HttpServer
