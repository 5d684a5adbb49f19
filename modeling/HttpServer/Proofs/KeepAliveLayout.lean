import HttpServer.Proofs.KeptConnections
import HttpServer.Proofs.ListElements
import HttpServer.Proofs.SentLines
import HttpServer.Proofs.TransferCodings

/-!
# Asking to keep a connection, however it is laid out

Whether a request asks to keep its connection depends on the elements of its connection fields, and
on nothing in how these are laid out: neither the lines the elements stand in, nor the order of the
lines and what stands between them, nor blanks, nor letter case in names or values.
-/

namespace HttpServer

/-- One of the elements of a list, which may go on from line to line, asks to keep the connection.
Letter case does not count. -/
def ListLayout.AsksToKeep (values : List Bytes) : Prop :=
  ∃ element ∈ values.flatMap Bytes.elements, element.lowered = Bytes.ascii "keep-alive"

namespace ListLayout

instance (values : List Bytes) : Decidable (AsksToKeep values) :=
  inferInstanceAs (Decidable (∃ element ∈ values.flatMap Bytes.elements, _))

variable {values others : List Bytes}

theorem asksToKeep_iff_mem :
    AsksToKeep values ↔
      Bytes.ascii "keep-alive" ∈ (values.flatMap Bytes.elements).map Bytes.lowered :=
  List.mem_map.symm

theorem Same.asksToKeep_iff (same : Same values others) :
    AsksToKeep values ↔ AsksToKeep others := by
  rw [asksToKeep_iff_mem, asksToKeep_iff_mem]
  exact same.elements.mem_iff

theorem AsksToKeep.of_subset (asks : AsksToKeep values) (more : values ⊆ others) :
    AsksToKeep others := by
  obtain ⟨element, member, keeps⟩ := asks
  obtain ⟨value, valueMember, inside⟩ := List.mem_flatMap.mp member
  exact ⟨element, List.mem_flatMap.mpr ⟨value, more valueMember, inside⟩, keeps⟩

/-- Blanks around a whole line are blanks around its elements. -/
theorem asksToKeep_map_trim : AsksToKeep (values.map Bytes.trim) ↔ AsksToKeep values := by
  rw [AsksToKeep, AsksToKeep, List.flatMap_map]
  simp only [Bytes.elements_trim]

theorem IsTextual.map_trim (textual : IsTextual values) : IsTextual (values.map Bytes.trim) := by
  intro trimmed member byte inside
  obtain ⟨value, valueMember, rfl⟩ := List.mem_map.mp member
  exact textual value valueMember byte (Bytes.mem_of_mem_trim inside)

end ListLayout

open ListLayout

namespace Fields

variable {fields others : Fields}

def connectionTexts (fields : Fields) : List Bytes :=
  (fields.getAll .connection).map FieldValue.text

/-- Values that are not textual do not count. -/
theorem askKeepAlive_iff_filter :
    fields.askKeepAlive = true ↔
      AsksToKeep (fields.connectionTexts.filter fun text => text.all Bytes.isTextual) := by
  rw [askKeepAlive_iff, HasKeepAlive, AsksToKeep]
  simp only [Bytes.splitAtCommas_eq_splitOn, FieldValue.textual?, Option.ite_none_right_eq_some,
    Option.some.injEq, connectionTexts, List.mem_flatMap, List.mem_filter, List.mem_map,
    Bytes.elements]
  constructor
  · rintro ⟨value, member, _, ⟨textual, rfl⟩, element, inside, keeps⟩
    exact ⟨element.trim, ⟨value.text, ⟨⟨value, member, rfl⟩, textual⟩, element, inside, rfl⟩,
      keeps⟩
  · rintro ⟨_, ⟨_, ⟨⟨value, member, rfl⟩, textual⟩, element, inside, rfl⟩, keeps⟩
    exact ⟨value, member, _, ⟨textual, rfl⟩, element, inside, keeps⟩

theorem askKeepAlive_iff_of_textual (textual : IsTextual fields.connectionTexts) :
    fields.askKeepAlive = true ↔ AsksToKeep fields.connectionTexts := by
  rw [askKeepAlive_iff_filter, List.filter_eq_self.mpr]
  intro text member
  exact List.all_eq_true.mpr (textual text member)

theorem askKeepAlive_of_same (textual : IsTextual fields.connectionTexts)
    (same : Same fields.connectionTexts others.connectionTexts) :
    others.askKeepAlive = fields.askKeepAlive := by
  rw [Bool.eq_iff_iff, askKeepAlive_iff_of_textual textual,
    askKeepAlive_iff_of_textual (same.isTextual_iff.mp textual), same.asksToKeep_iff]

theorem askKeepAlive_of_subset (more : fields.connectionTexts ⊆ others.connectionTexts)
    (asks : fields.askKeepAlive = true) :
    others.askKeepAlive = true := by
  rw [askKeepAlive_iff_filter] at asks ⊢
  exact asks.of_subset (List.filter_subset _ more)

end Fields

/-! ## The lines of a head -/

namespace SentHead

variable {head other : SentHead} {given : RequestHead}

theorem connectionTexts_eq (spelled : given.IsSpelledBy head.octets) :
    given.fields.connectionTexts = (head.contents .connection).map Bytes.trim :=
  values_of_isSpelledBy spelled .connection

theorem askKeepAlive_iff_of_isSpelledBy (spelled : given.IsSpelledBy head.octets)
    (textual : IsTextual (head.contents .connection)) :
    given.fields.askKeepAlive = true ↔ AsksToKeep (head.contents .connection) := by
  have texts := connectionTexts_eq spelled
  have trimmed : IsTextual given.fields.connectionTexts := by
    rw [texts]
    exact textual.map_trim
  rw [Fields.askKeepAlive_iff_of_textual trimmed, texts, asksToKeep_map_trim]

end SentHead

/-- Where the connection values are textual, a request asks to keep its connection if and only if
one of the elements of all values does, blanks around it and letter case aside. So another layout of
the list changes nothing, and more values can only make a request ask that did not.

This is so for the fields themselves and for the lines as they are sent, with any other lines
between them and names in any letter case. The octets that are decoded are those of the acceptable
heads. Such a head is a request where it asks for no body; whatever follows it, a request that is
read there has what the head says. -/
theorem askKeepAlive_ignores_layout :
    (∀ fields : Fields, IsTextual fields.connectionTexts →
      (fields.askKeepAlive = true ↔ AsksToKeep fields.connectionTexts)) ∧
    (∀ fields others : Fields, IsTextual fields.connectionTexts →
      Same fields.connectionTexts others.connectionTexts →
      others.askKeepAlive = fields.askKeepAlive) ∧
    (∀ fields others : Fields, fields.connectionTexts ⊆ others.connectionTexts →
      fields.askKeepAlive = true → others.askKeepAlive = true) ∧
    (∀ octets : Bytes, (∃ given : RequestHead, given.IsSpelledBy octets) ↔
      ∃ head : SentHead, head.octets = octets ∧ head.IsAcceptable) ∧
    (∀ (head : SentHead) (limits : Limits) (reader : Reader) (rest : Bytes), head.IsAcceptable →
      head.contents .transferEncoding = [] → head.contents .contentLength = [] →
      reader.Brings limits head.octets [] rest →
      ∃ request after, reader.readRequest limits = (.ok request, after) ∧ after.unused = rest) ∧
    (∀ (head : SentHead) (request : Request), head.IsReadAs request →
      request.toRequestHead.IsSpelledBy head.octets) ∧
    (∀ (head : SentHead) (given : RequestHead), given.IsSpelledBy head.octets →
      IsTextual (head.contents .connection) →
      (given.fields.askKeepAlive = true ↔ AsksToKeep (head.contents .connection))) ∧
    (∀ (head other : SentHead) (given another : RequestHead), given.IsSpelledBy head.octets →
      another.IsSpelledBy other.octets → IsTextual (head.contents .connection) →
      Same (head.contents .connection) (other.contents .connection) →
      another.fields.askKeepAlive = given.fields.askKeepAlive) ∧
    ∀ (head other : SentHead) (given another : RequestHead), given.IsSpelledBy head.octets →
      another.IsSpelledBy other.octets → head.contents .connection ⊆ other.contents .connection →
      given.fields.askKeepAlive = true → another.fields.askKeepAlive = true := by
  refine ⟨fun _ => Fields.askKeepAlive_iff_of_textual, fun _ _ => Fields.askKeepAlive_of_same,
    fun _ _ => Fields.askKeepAlive_of_subset, fun _ => SentHead.exists_isSpelledBy_iff,
    fun _ _ _ _ => SentHead.IsAcceptable.readRequest, fun _ _ => SentHead.IsReadAs.isSpelledBy,
    fun _ _ => SentHead.askKeepAlive_iff_of_isSpelledBy, ?_, ?_⟩
  · intro head other given another spelled spelledOther textual same
    rw [Bool.eq_iff_iff, SentHead.askKeepAlive_iff_of_isSpelledBy spelled textual,
      SentHead.askKeepAlive_iff_of_isSpelledBy spelledOther (same.isTextual_iff.mp textual),
      same.asksToKeep_iff]
  · intro head other given another spelled spelledOther more
    apply Fields.askKeepAlive_of_subset
    rw [SentHead.connectionTexts_eq spelled, SentHead.connectionTexts_eq spelledOther]
    exact List.map_subset _ more

/-- One line of two elements in small letters, and two lines in other letters, order and blanks with
another field between them, behind the first head a body. A third head has elements that only
resemble the one that asks. -/
theorem askKeepAlive_ignores_layout_of_two_lines :
    let asks : HeadLines :=
      { method := Bytes.ascii "POST", target := Bytes.ascii "/", version := .http11, fields := [] }
    let opening := Bytes.ascii "POST / HTTP/1.1\r\n"
    let head : SentHead :=
      { opening, asks
        lines := [{ name := Bytes.ascii "Content-Length", content := Bytes.ascii "1" },
          { name := Bytes.ascii "connection", content := Bytes.ascii "Upgrade,keep-alive" }] }
    let other : SentHead :=
      { opening, asks
        lines := [
          { name := Bytes.ascii "CONNECTION", content := Bytes.ascii "\tKeep-Alive", bare := true },
          { name := Bytes.ascii "Upgrade", content := Bytes.ascii " not-keep-alive" },
          { name := Bytes.ascii "Connection", content := Bytes.ascii "Upgrade" }] }
    let silent : SentHead :=
      { opening, asks
        lines := [{ name := Bytes.ascii "Connection"
                    content := Bytes.ascii "not-keep-alive,, keep alive ," }] }
    (∃ request given, head.IsReadAs request ∧ other.IsReadAs given ∧
      request.fields.askKeepAlive = true ∧ given.fields.askKeepAlive = true) ∧
      ∃ request, silent.IsReadAs request ∧ request.fields.askKeepAlive = false := by
  intro asks opening head other silent
  obtain ⟨-, -, -, -, -, reads, asksToKeep, sameAnswer, -⟩ := askKeepAlive_ignores_layout
  have exists_read (sent : SentHead) (reader : Reader) (rest : Bytes)
      (whole : reader.unused = sent.octets ++ rest)
      (gives : (reader.readRequest {}).1.toOption.isSome = true) :
      ∃ request, sent.IsReadAs request := by
    obtain ⟨request, gave⟩ := Option.isSome_iff_exists.mp gives
    refine ⟨request, {}, reader, (reader.readRequest {}).2, rest, whole, Prod.ext ?_ rfl⟩
    cases outcome : (reader.readRequest {}).1 with
    | error failure =>
        simp [outcome, Except.toOption] at gave
    | ok read =>
        simpa [outcome, Except.toOption] using gave
  have same : Same (head.contents .connection) (other.contents .connection) := by
    have small := Step.cut [] [] (Bytes.ascii "Upgrade") (Bytes.ascii "keep-alive")
    have turned := Step.order (List.Perm.swap (Bytes.ascii "keep-alive") (Bytes.ascii "Upgrade") [])
    have capital : Step ([] ++ Bytes.ascii "keep-alive" :: [Bytes.ascii "Upgrade"])
        ([] ++ Bytes.ascii "Keep-Alive" :: [Bytes.ascii "Upgrade"]) :=
      Step.letters _ _ _ _ (by decide +kernel)
    have apart := Step.blanks [] [Bytes.ascii "Upgrade"] [] (Bytes.ascii "\t")
      (Bytes.ascii "Keep-Alive") (by decide +kernel) (Or.inl rfl)
    exact (((Relation.EqvGen.rel _ _ small).trans _ _ _ (.rel _ _ turned)).trans _ _ _
      (.rel _ _ capital)).trans _ _ _ (.rel _ _ apart)
  have textual : IsTextual (head.contents .connection) := by decide +kernel
  obtain ⟨request, read⟩ := exists_read head (Reader.ofReads 0 [
      Bytes.ascii "POST / HTTP/1.1\r\nContent-Length:1\r",
      Bytes.ascii "\nconnection:Upgrade,keep-alive\r\n\r\nxGET"]) (Bytes.ascii "xGET")
    (by decide +kernel) (by decide +kernel)
  obtain ⟨given, readOther⟩ := exists_read other (Reader.ofReads 0 [
      Bytes.ascii "POST / HTTP/1.1\r\nCONNECTION:\tKeep-Alive\nUpgr",
      Bytes.ascii "ade: not-keep-alive\r\nConnection:Upgrade\r\n\r\n"]) []
    (by decide +kernel) (by decide +kernel)
  have keeps := (asksToKeep head _ (reads head request read) textual).mpr (by decide +kernel)
  have again := sameAnswer head other _ _ (reads head request read) (reads other given readOther)
    textual same
  obtain ⟨closing, readSilent⟩ := exists_read silent (Reader.ofReads 0 [silent.octets]) []
    (by decide +kernel) (by decide +kernel)
  have closes : closing.fields.askKeepAlive = false := by
    rw [Bool.eq_false_iff, ne_eq,
      asksToKeep silent _ (reads silent closing readSilent) (by decide +kernel)]
    decide +kernel
  exact ⟨⟨request, given, read, readOther, keeps, again.trans keeps⟩, closing, readSilent, closes⟩

end HttpServer
