import HttpServer.Proofs.FieldLines
import HttpServer.Proofs.Segmentation

/-!
# Which line of the transfer codings decides

The codings of a body are one list, however many field lines it is written in, and the last coding
of it is on the last line. The framing looks at the first line only. So a head with one such line
is framed as the whole list says, and a head with more of them may be framed otherwise.
-/

namespace HttpServer

theorem Bytes.splitAtEach_eq_splitOn (separator : UInt8) (bytes : Bytes) :
    splitAtEach separator bytes = bytes.splitOn separator := by
  induction bytes with
  | nil =>
      rfl
  | cons byte others inductionHypothesis =>
      have some := splitAtEach_ne_nil separator others
      rw [List.splitOn_cons_eq_if_modifyHead, ← inductionHypothesis]
      unfold splitAtEach at some ⊢
      rw [List.foldr_cons]
      generalize List.foldr _ _ others = pieces at some ⊢
      cases pieces with
      | nil =>
          exact absurd rfl some
      | cons piece rest =>
          rw [List.modifyHead_cons]

theorem Bytes.splitAtCommas_eq_splitOn (bytes : Bytes) :
    splitAtCommas bytes = bytes.splitOn comma :=
  splitAtEach_eq_splitOn comma bytes

namespace Framing

/-! ## The whole list of codings -/

/-- Whether the values of all lines, joined in order, name chunked as the last coding, and all of
them are textual. -/
def asksChunked (values : List Bytes) : Bool :=
  values.all (fun value => value.all Bytes.isTextual) &&
    endsInChunked ([Bytes.comma].intercalate values)

theorem endsInChunked_append (front last : Bytes) :
    endsInChunked (front ++ Bytes.comma :: last) = endsInChunked last := by
  have some := Bytes.splitAtCommas_ne_nil last
  have pieces : Bytes.splitAtCommas (front ++ Bytes.comma :: last) =
      Bytes.splitAtCommas front ++ Bytes.splitAtCommas last := by
    simp only [Bytes.splitAtCommas_eq_splitOn, List.splitOn_append_cons_self]
  rw [endsInChunked, pieces, List.getLast?_append, List.getLast?_eq_some_getLast some,
    Option.some_or, ← List.getLast?_eq_some_getLast some]
  rfl

/-- The last coding of all lines is on the last line. -/
theorem endsInChunked_intercalate {values : List Bytes} (some : values ≠ []) :
    endsInChunked ([Bytes.comma].intercalate values) = endsInChunked (values.getLast some) := by
  induction values with
  | nil =>
      exact absurd rfl some
  | cons value others inductionHypothesis =>
      cases others with
      | nil =>
          rw [List.intercalate_singleton]
          rfl
      | cons second rest =>
          have someOthers : second :: rest ≠ [] := List.cons_ne_nil _ _
          rw [List.intercalate_cons_cons, List.append_assoc, List.singleton_append,
            endsInChunked_append, inductionHypothesis someOthers, List.getLast_cons someOthers]

theorem asksChunked_eq {values : List Bytes} (some : values ≠ []) :
    asksChunked values =
      (values.all (fun value => value.all Bytes.isTextual) &&
        endsInChunked (values.getLast some)) := by
  rw [asksChunked, endsInChunked_intercalate some]

/-! ## The first line of codings -/

/-- The framing goes by the first value of the codings, whatever the other values are and whatever
length is given. -/
theorem ofFields_of_codings {fields : Fields} {first : Bytes} {others : List Bytes}
    (codings : (fields.getAll .transferEncoding).map FieldValue.text = first :: others) :
    ofFields fields =
      if asksChunked [first] then .ok .chunked else .error .unsupportedTransferEncoding := by
  obtain ⟨value, behind, values, rfl, -⟩ := List.map_eq_cons_iff.mp codings
  have found : fields.get? .transferEncoding = some value := by
    rw [Fields.get?_eq_head?, values]
    rfl
  have asks : asksChunked [value.text] =
      (value.text.all Bytes.isTextual && endsInChunked value.text) := by
    rw [asksChunked_eq (List.cons_ne_nil _ _), List.all_cons, List.all_nil, Bool.and_true]
    rfl
  rw [asks]
  cases textual : value.text.all Bytes.isTextual with
  | false =>
      have text : value.textual? = none := by
        rw [FieldValue.textual?, if_neg (by simp [textual])]
      simp only [ofFields, found, text, Bool.false_and, Bool.false_eq_true, if_false]
  | true =>
      have text : value.textual? = some value.text := by
        rw [FieldValue.textual?, if_pos textual]
      simp only [ofFields, found, text, Bool.true_and]

end Framing

namespace Reader

variable {limits : Limits} {reader middle : Reader} {head : RequestHead} {lines : HeadLines}
  {first : Bytes} {others : List Bytes}

/-- Behind a head with codings, the body is read in chunks when the first line of them asks for
chunks, and the request is refused when it does not. The whole list of codings asks for chunks when
all its lines are textual and the last one ends in chunked. -/
theorem readRequest_of_codings (read : RequestHead.ofLines lines = .ok head)
    (codings : Fields.valuesOf .transferEncoding lines.fields = first :: others)
    (headReading : reader.readHead limits = (.ok head, middle)) :
    reader.readRequest limits =
      (if Framing.asksChunked [first] then
        ((middle.readBody limits .chunked).1.map head.withBody,
          (middle.readBody limits .chunked).2)
      else (.error (.refused .unsupportedTransferEncoding), middle)) ∧
    Framing.asksChunked (first :: others) =
      ((first :: others).all (fun value => value.all Bytes.isTextual) &&
        Framing.endsInChunked ((first :: others).getLast (List.cons_ne_nil first others))) := by
  have values := RequestHead.values_of_ofLines read .transferEncoding
  rw [codings] at values
  have framed := Framing.ofFields_of_codings values
  refine ⟨?_, Framing.asksChunked_eq _⟩
  by_cases asks : Framing.asksChunked [first] = true
  · rw [if_pos asks] at framed ⊢
    exact readRequest_of_head headReading framed
  · rw [if_neg asks] at framed ⊢
    exact readRequest_of_framing_error headReading framed

/-- Two lines of codings, of which the second one alone asks for chunks. -/
theorem readRequest_of_codings_of_two_lines :
    let reader := ofReads 8192 [Bytes.ascii ("POST / HTTP/1.1\r\nTransfer-Encoding: gzip\r\n" ++
      "Transfer-Encoding: chunked\r\n\r\n0\r\n\r\n")]
    Framing.asksChunked [Bytes.ascii "gzip", Bytes.ascii "chunked"] = true ∧
      ∃ after, reader.readRequest {} =
        (.error (.refused .unsupportedTransferEncoding), after) := by
  intro reader
  let lines : HeadLines :=
    { method := Bytes.ascii "POST", target := Bytes.ascii "/", version := .http11
      fields := [(Bytes.ascii "Transfer-Encoding", Bytes.ascii "gzip"),
        (Bytes.ascii "Transfer-Encoding", Bytes.ascii "chunked")] }
  have codings : Fields.valuesOf .transferEncoding lines.fields =
      Bytes.ascii "gzip" :: [Bytes.ascii "chunked"] := by decide +kernel
  have sameHead : (reader.readHead {}).1.toOption = (RequestHead.ofLines lines).toOption := by
    decide +kernel
  have someHead : (RequestHead.ofLines lines).toOption.isSome = true := by decide +kernel
  cases read : RequestHead.ofLines lines with
  | error error =>
      simp [read, Except.toOption] at someHead
  | ok head =>
      rcases headReading : reader.readHead {} with ⟨failure | other, middle⟩
      · simp [headReading, read, Except.toOption] at sameHead
      · simp only [headReading, read, Except.toOption, Option.some.injEq] at sameHead
        subst sameHead
        have both := readRequest_of_codings read codings headReading
        have asksNot : ¬ Framing.asksChunked [Bytes.ascii "gzip"] = true := by decide +kernel
        rw [if_neg asksNot] at both
        refine ⟨?_, middle, both.1⟩
        rw [both.2]
        decide +kernel

/-- The same codings on two lines and on one. On one line their last element decides; on two lines
the first line decides, though it is not the last. -/
theorem framing_depends_on_lines :
    let request (codings : String) (body : String) : Reader :=
      ofReads 8192 [Bytes.ascii ("POST / HTTP/1.1\r\n" ++ codings ++ "\r\n" ++ body)]
    let outcome (reader : Reader) : Except ReadFailure Bytes :=
      (reader.readRequest {}).1.map fun request => request.body
    (Framing.asksChunked [Bytes.ascii "gzip", Bytes.ascii "chunked"] = true ∧
      outcome (request "Transfer-Encoding: gzip, chunked\r\n" "2\r\nhi\r\n0\r\n\r\n") =
        .ok (Bytes.ascii "hi") ∧
      outcome (request "Transfer-Encoding: gzip\r\nTransfer-Encoding: chunked\r\n"
        "2\r\nhi\r\n0\r\n\r\n") = .error (.refused .unsupportedTransferEncoding)) ∧
    Framing.asksChunked [Bytes.ascii "chunked", Bytes.ascii "gzip"] = false ∧
      outcome (request "Transfer-Encoding: chunked, gzip\r\n" "2\r\nhi\r\n0\r\n\r\n") =
        .error (.refused .unsupportedTransferEncoding) ∧
      outcome (request "Transfer-Encoding: chunked\r\nTransfer-Encoding: gzip\r\n"
        "2\r\nhi\r\n0\r\n\r\n") = .ok (Bytes.ascii "hi") := by
  intro request outcome
  refine ⟨⟨?_, ?_, ?_⟩, ?_, ?_, ?_⟩
  · decide +kernel
  · decide +kernel
  · decide +kernel
  · decide +kernel
  · decide +kernel
  · decide +kernel

end Reader

end HttpServer
