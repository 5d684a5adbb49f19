import HttpServer.Proofs.ChunkScan

/-!
# The grammar of chunked bodies

A body in chunks is a sequence of chunks, each behind a line with its size, then a size line of
zero, trailer lines and an empty line. `Chunked.Encoding` is such a sequence, with the octets it is
written as and the body it stands for. The scan finds a body exactly in front of what an encoding
of it is written as, and waits on every front of that.
-/

namespace HttpServer

/-! ## Lines -/

namespace Bytes

/-- Whether the line ending behind a text is the first one in it. -/
def IsLine (text : Bytes) : Prop :=
  ∀ before after, text ++ lineEnd = before ++ (lineEnd ++ after) → after = []

theorem isLine_nil : IsLine [] := by
  intro before after same
  have lengths := congrArg List.length same
  simp only [List.length_append, List.length_nil] at lengths
  exact List.eq_nil_of_length_eq_zero (by omega)

/-- A text is a line when no line ending begins with its first octet and what follows is a line. -/
theorem isLine_cons {first : UInt8} {others : Bytes} :
    IsLine (first :: others) ↔
      IsLine others ∧ ¬ (first = carriageReturn ∧ (others ++ lineEnd).head? = some lineFeed) := by
  constructor
  · intro line
    constructor
    · intro before after same
      apply line (first :: before) after
      rw [List.cons_append, same, List.cons_append]
    · rintro ⟨rfl, feed⟩
      obtain ⟨after, same⟩ : ∃ after, others ++ lineEnd = lineFeed :: after := by
        cases behind : others ++ lineEnd with
        | nil =>
            simp [behind] at feed
        | cons second after =>
            rw [behind, List.head?_cons, Option.some.injEq] at feed
            exact ⟨after, by rw [feed]⟩
      have nothing := line [] after (by rw [List.cons_append, same]; rfl)
      have lengths := congrArg List.length same
      rw [nothing, List.length_append] at lengths
      simp [lineEnd] at lengths
  · rintro ⟨line, noEnd⟩ before after same
    cases before with
    | nil =>
        simp only [List.nil_append, List.cons_append, lineEnd, List.cons.injEq] at same
        exact absurd ⟨same.1, by simp [lineEnd, same.2]⟩ noEnd
    | cons _ before =>
        rw [List.cons_append, List.cons_append, List.cons.injEq] at same
        exact line before after same.2

theorem afterLine_cons {first : UInt8} {others : Bytes}
    (noEnd : ¬ (first = carriageReturn ∧ others.head? = some lineFeed)) :
    afterLine (first :: others) = afterLine others := by
  rw [afterLine.eq_def]
  split
  · rename_i rest same
    rw [List.cons.injEq] at same
    exact absurd ⟨same.1, by rw [same.2]; rfl⟩ noEnd
  · rename_i same
    rw [(List.cons.inj same).2]
  · rename_i same
    simp at same

theorem head?_append_lineEnd (text rest : Bytes) :
    (text ++ (lineEnd ++ rest)).head? = (text ++ lineEnd).head? := by
  cases text with
  | nil =>
      rfl
  | cons first others =>
      rfl

theorem afterLine_append {text : Bytes} (line : IsLine text) (rest : Bytes) :
    afterLine (text ++ (lineEnd ++ rest)) = some rest := by
  induction text with
  | nil =>
      rfl
  | cons first others inductionHypothesis =>
      obtain ⟨lineOthers, noEnd⟩ := isLine_cons.mp line
      have noEndHere : ¬ (first = carriageReturn ∧
          (others ++ (lineEnd ++ rest)).head? = some lineFeed) := by
        rw [head?_append_lineEnd]
        exact noEnd
      rw [List.cons_append, afterLine_cons noEndHere]
      exact inductionHypothesis lineOthers

theorem isLine_of_afterLine {bytes rest : Bytes} (found : afterLine bytes = some rest) :
    ∃ text, IsLine text ∧ bytes = text ++ (lineEnd ++ rest) := by
  induction bytes with
  | nil =>
      simp [afterLine] at found
  | cons first others inductionHypothesis =>
      by_cases ends : first = carriageReturn ∧ others.head? = some lineFeed
      · obtain ⟨rfl, feed⟩ := ends
        obtain ⟨tail, rfl⟩ := List.head?_eq_some_iff.mp feed
        rw [show carriageReturn :: lineFeed :: tail = lineEnd ++ tail from rfl] at found ⊢
        have same : afterLine (lineEnd ++ tail) = some tail := rfl
        rw [same, Option.some.injEq] at found
        subst found
        exact ⟨[], isLine_nil, rfl⟩
      · rw [afterLine_cons ends] at found
        obtain ⟨text, line, rfl⟩ := inductionHypothesis found
        refine ⟨first :: text, isLine_cons.mpr ⟨line, ?_⟩, rfl⟩
        rwa [head?_append_lineEnd] at ends

theorem isLine_iff (text : Bytes) : IsLine text ↔ afterLine (text ++ lineEnd) = some [] := by
  constructor
  · intro line
    have found := afterLine_append line []
    rwa [List.append_nil] at found
  · intro found
    obtain ⟨other, line, same⟩ := isLine_of_afterLine found
    rw [List.append_nil] at same
    rwa [List.append_cancel_right same]

instance (text : Bytes) : Decidable (IsLine text) := decidable_of_iff _ (isLine_iff text).symm

/-- No line ends inside a line. -/
theorem afterLine_of_front {text front tail : Bytes} (line : IsLine text)
    (cut : text ++ lineEnd = front ++ tail) (strict : tail ≠ []) :
    afterLine front = none := by
  cases found : afterLine front with
  | none =>
      rfl
  | some rest =>
      obtain ⟨other, -, rfl⟩ := isLine_of_afterLine found
      rw [List.append_assoc, List.append_assoc] at cut
      exact absurd (List.append_eq_nil_iff.mp (line _ _ cut)).2 strict

end Bytes

namespace Chunked

variable {limits : Limits}

/-! ## Size lines -/

/-- A size line: hexadecimal digits, of which there may be none, blanks, and an extension behind a
semicolon, which runs to the line ending. -/
structure SizeLine where
  digits : Bytes
  blanks : Bytes := []
  extension : Option Bytes := none
  hexadecimal : digits.all Numeral.isHexDigit = true := by decide
  few : digits.length ≤ maximumDigits := by decide
  blank : blanks.all Bytes.isBlank = true := by decide
  plain : ∀ text ∈ extension, Bytes.carriageReturn ∉ text := by decide

namespace SizeLine

/-- What stands between the blanks and the line ending. -/
def extensionOctets : Option Bytes → Bytes
  | some text => semicolon :: text
  | none => []

def octets (line : SizeLine) : Bytes :=
  line.digits ++ (line.blanks ++ (extensionOctets line.extension ++ Bytes.lineEnd))

def size (line : SizeLine) : Nat := Numeral.hexValue line.digits

end SizeLine

/-- What follows a run of octets that pass a test, when the next octet fails it. -/
theorem run_append {test : UInt8 → Bool} {front rest : Bytes}
    (passing : ∀ byte ∈ front, test byte = true)
    (stop : ∃ mark more, rest = mark :: more ∧ test mark = false) :
    (front ++ rest).takeWhile test = front ∧ (front ++ rest).dropWhile test = rest := by
  obtain ⟨mark, more, rfl, fails⟩ := stop
  exact ⟨Bytes.takeWhile_append_mark passing fails more,
    Bytes.dropWhile_append_mark passing fails more⟩

theorem scanSizeEnd_lineEnd (size : Nat) (rest : Bytes) :
    scanSizeEnd size (Bytes.lineEnd ++ rest) = .found size rest :=
  rfl

theorem lineEnd_of_scanSizeEnd {size found : Nat} {bytes rest : Bytes}
    (ends : scanSizeEnd size bytes = .found found rest) :
    found = size ∧ bytes = Bytes.lineEnd ++ rest := by
  cases bytes with
  | nil =>
      simp [scanSizeEnd] at ends
  | cons first others =>
      by_cases carriage : first = Bytes.carriageReturn
      · subst carriage
        cases others with
        | nil =>
            simp [scanSizeEnd] at ends
        | cons second tail =>
            by_cases feed : second = Bytes.lineFeed
            · subst feed
              obtain ⟨rfl, rfl⟩ := Scan.found.inj ends
              exact ⟨rfl, rfl⟩
            · simp [scanSizeEnd, feed] at ends
      · simp [scanSizeEnd, carriage] at ends

theorem scanAfterDigits_of_mark {size : Nat} {bytes rest : Bytes} {mark : UInt8}
    (stopped : bytes.dropWhile Bytes.isBlank = mark :: rest) :
    scanAfterDigits size bytes =
      if mark == semicolon then scanSizeEnd size (rest.dropWhile (· != Bytes.carriageReturn))
      else scanSizeEnd size (mark :: rest) := by
  rw [scanAfterDigits, stopped]

theorem scanAfterDigits_octets (line : SizeLine) (size : Nat) (rest : Bytes) :
    scanAfterDigits size (line.blanks ++ (SizeLine.extensionOctets line.extension ++
      (Bytes.lineEnd ++ rest))) = .found size rest := by
  cases extended : line.extension with
  | none =>
      have stopped := (run_append (List.all_eq_true.mp line.blank)
        ⟨Bytes.carriageReturn, Bytes.lineFeed :: rest, rfl, by decide⟩).2
      exact (scanAfterDigits_of_mark stopped).trans rfl
  | some text =>
      have stopped := (run_append (List.all_eq_true.mp line.blank)
        ⟨semicolon, text ++ (Bytes.lineEnd ++ rest), rfl, by decide⟩).2
      have passing : ∀ byte ∈ text, (byte != Bytes.carriageReturn) = true := by
        intro byte member
        rw [bne_iff_ne]
        rintro rfl
        exact line.plain text extended member
      have stop : ∃ mark more, Bytes.lineEnd ++ rest = mark :: more ∧
          (mark != Bytes.carriageReturn) = false :=
        ⟨Bytes.carriageReturn, Bytes.lineFeed :: rest, rfl, by decide⟩
      have behind := (run_append passing stop).2
      rw [SizeLine.extensionOctets, List.cons_append, scanAfterDigits_of_mark stopped,
        if_pos (beq_self_eq_true semicolon), behind, scanSizeEnd_lineEnd]

theorem octets_of_scanAfterDigits {size found : Nat} {bytes rest : Bytes}
    (scanned : scanAfterDigits size bytes = .found found rest) :
    ∃ blanks extension, found = size ∧ (∀ byte ∈ blanks, Bytes.isBlank byte = true) ∧
      (∀ text ∈ extension, Bytes.carriageReturn ∉ text) ∧
      bytes = blanks ++ (SizeLine.extensionOctets extension ++ (Bytes.lineEnd ++ rest)) := by
  have blank : ∀ byte ∈ bytes.takeWhile Bytes.isBlank, Bytes.isBlank byte = true :=
    fun _ member => List.mem_takeWhile_imp member
  cases stopped : bytes.dropWhile Bytes.isBlank with
  | nil =>
      simp [scanAfterDigits, stopped] at scanned
  | cons mark others =>
      have whole := Bytes.takeWhile_append_of_stopped stopped
      rw [scanAfterDigits_of_mark stopped] at scanned
      by_cases isExtended : mark = semicolon
      · subst isExtended
        rw [if_pos (beq_self_eq_true semicolon)] at scanned
        obtain ⟨same, ending⟩ := lineEnd_of_scanSizeEnd scanned
        refine ⟨bytes.takeWhile Bytes.isBlank,
          some (others.takeWhile (· != Bytes.carriageReturn)), same, blank, ?_, ?_⟩
        · intro text same member
          rw [Option.mem_some_iff] at same
          subst same
          simpa using List.mem_takeWhile_imp member
        · rw [SizeLine.extensionOctets, ← ending, List.cons_append,
            List.takeWhile_append_dropWhile]
          exact whole
      · rw [if_neg (by simpa using isExtended)] at scanned
        obtain ⟨same, ending⟩ := lineEnd_of_scanSizeEnd scanned
        refine ⟨bytes.takeWhile Bytes.isBlank, none, same, blank, by simp, ?_⟩
        rw [SizeLine.extensionOctets, List.nil_append, ← ending]
        exact whole

theorem SizeLine.octets_append (line : SizeLine) (rest : Bytes) :
    line.octets ++ rest = line.digits ++ (line.blanks ++
      (extensionOctets line.extension ++ (Bytes.lineEnd ++ rest))) := by
  simp only [octets, List.append_assoc]

/-- Neither a blank nor an extension nor a line ending begins with a hexadecimal digit. -/
theorem SizeLine.exists_mark (line : SizeLine) (rest : Bytes) :
    ∃ mark more, line.blanks ++ (extensionOctets line.extension ++ (Bytes.lineEnd ++ rest)) =
      mark :: more ∧ Numeral.isHexDigit mark = false := by
  cases blanks : line.blanks with
  | nil =>
      cases line.extension with
      | none =>
          exact ⟨Bytes.carriageReturn, _, rfl, by decide⟩
      | some text =>
          exact ⟨semicolon, _, rfl, by decide⟩
  | cons first others =>
      refine ⟨first, _, rfl, ?_⟩
      have blank := List.all_eq_true.mp line.blank first (by rw [blanks]; exact List.mem_cons_self)
      simp only [Bytes.isBlank, Bool.or_eq_true, beq_iff_eq] at blank
      rcases blank with rfl | rfl
      · decide
      · decide

theorem scanSize_eq (bytes : Bytes) :
    scanSize bytes =
      if maximumDigits < (bytes.takeWhile Numeral.isHexDigit).length then .wrong ()
      else scanAfterDigits (Numeral.hexValue (bytes.takeWhile Numeral.isHexDigit))
        (bytes.dropWhile Numeral.isHexDigit) :=
  rfl

/-- A size line is read off the front of what follows it. -/
theorem scanSize_octets (line : SizeLine) (rest : Bytes) :
    scanSize (line.octets ++ rest) = .found line.size rest := by
  obtain ⟨front, after⟩ := run_append (List.all_eq_true.mp line.hexadecimal) (line.exists_mark rest)
  rw [scanSize_eq, line.octets_append, front, after, if_neg (Nat.not_lt.mpr line.few),
    scanAfterDigits_octets]
  rfl

theorem sizeLine_of_scanSize {size : Nat} {bytes rest : Bytes}
    (found : scanSize bytes = .found size rest) :
    ∃ line : SizeLine, line.size = size ∧ bytes = line.octets ++ rest := by
  rw [scanSize_eq] at found
  split at found
  · simp at found
  · rename_i few
    obtain ⟨blanks, extension, rfl, blank, plain, whole⟩ := octets_of_scanAfterDigits found
    refine ⟨⟨bytes.takeWhile Numeral.isHexDigit, blanks, extension,
      List.all_eq_true.mpr fun _ member => List.mem_takeWhile_imp member, Nat.not_lt.mp few,
      List.all_eq_true.mpr blank, plain⟩, rfl, ?_⟩
    rw [SizeLine.octets_append, ← whole]
    exact List.takeWhile_append_dropWhile.symm

/-! ## Trailers -/

/-- A line between the last size line and the empty line. -/
structure Trailer where
  text : Bytes
  some : text ≠ [] := by decide
  line : Bytes.IsLine text := by decide

def Trailer.octets (trailer : Trailer) : Bytes := trailer.text ++ Bytes.lineEnd

def trailerOctets (trailers : List Trailer) : Bytes :=
  trailers.flatMap Trailer.octets ++ Bytes.lineEnd

theorem trailerOctets_cons (trailer : Trailer) (others : List Trailer) (rest : Bytes) :
    trailerOctets (trailer :: others) ++ rest =
      trailer.text ++ (Bytes.lineEnd ++ (trailerOctets others ++ rest)) := by
  simp only [trailerOctets, List.flatMap_cons, Trailer.octets, List.append_assoc]

theorem scanTrailers_line {text : Bytes} (line : Bytes.IsLine text) (rest : Bytes) :
    scanTrailers limits (text ++ (Bytes.lineEnd ++ rest)) =
      if text = [] then .found [] rest else scanTrailers limits rest := by
  rw [scanTrailers_eq, Bytes.afterLine_append line]
  have length : (text ++ (Bytes.lineEnd ++ rest)).length = text.length + (rest.length + 2) := by
    rw [List.length_append, List.length_append, Nat.add_comm rest.length]
    rfl
  simp only [length, ← List.length_eq_zero_iff (l := text), Nat.add_eq_right]

theorem scanTrailers_octets (trailers : List Trailer) (rest : Bytes) :
    scanTrailers limits (trailerOctets trailers ++ rest) = .found [] rest := by
  induction trailers with
  | nil =>
      exact (scanTrailers_line Bytes.isLine_nil rest).trans (if_pos rfl)
  | cons trailer others inductionHypothesis =>
      rw [trailerOctets_cons, scanTrailers_line trailer.line, if_neg trailer.some]
      exact inductionHypothesis

theorem trailers_of_scanTrailers {bytes nothing rest : Bytes}
    (found : scanTrailers limits bytes = .found nothing rest) :
    nothing = [] ∧ ∃ trailers, bytes = trailerOctets trailers ++ rest := by
  induction length : bytes.length using Nat.strong_induction_on generalizing bytes with
  | _ _ inductionHypothesis =>
    subst length
    cases ends : Bytes.afterLine bytes with
    | none =>
        rw [scanTrailers_eq, ends] at found
        simp only at found
        split at found <;> simp [Attempt.refused] at found
    | some after =>
        obtain ⟨text, line, rfl⟩ := Bytes.isLine_of_afterLine ends
        have shorter := Bytes.length_of_afterLine ends
        rw [scanTrailers_line line] at found
        by_cases empty : text = []
        · rw [if_pos empty] at found
          obtain ⟨rfl, rfl⟩ := Attempt.found.inj found
          exact ⟨rfl, [], by rw [empty]; rfl⟩
        · rw [if_neg empty] at found
          obtain ⟨none, trailers, rfl⟩ := inductionHypothesis _ (by omega) found rfl
          let first : Trailer := ⟨text, empty, line⟩
          exact ⟨none, first :: trailers, (trailerOctets_cons first trailers rest).symm⟩

/-- The scan waits for the rest of a line that is not too long. -/
theorem scanTrailers_of_line_front {text front tail : Bytes} (line : Bytes.IsLine text)
    (cut : text ++ Bytes.lineEnd = front ++ tail) (strict : tail ≠ [])
    (within : (text ++ Bytes.lineEnd).length ≤ limits.head + 1) :
    scanTrailers limits front = .wait 0 := by
  have positive := List.length_pos_iff.mpr strict
  have shorter : ¬ limits.head < front.length := by
    rw [cut, List.length_append] at within
    omega
  rw [scanTrailers_eq, Bytes.afterLine_of_front line cut strict]
  exact if_neg shorter

theorem scanTrailers_of_front {trailers : List Trailer} {front tail : Bytes}
    (within : ∀ trailer ∈ trailers, trailer.octets.length ≤ limits.head) (some : 0 < limits.head)
    (cut : trailerOctets trailers = front ++ tail) (strict : tail ≠ []) :
    scanTrailers limits front = .wait 0 := by
  induction trailers generalizing front with
  | nil =>
      apply scanTrailers_of_line_front Bytes.isLine_nil cut strict
      show 2 ≤ limits.head + 1
      omega
  | cons trailer others inductionHypothesis =>
      have parts : trailer.octets ++ trailerOctets others = front ++ tail := by
        rw [← cut]
        simp only [trailerOctets, List.flatMap_cons, List.append_assoc]
      rcases Bytes.front_cases parts with ⟨behind, strictLine, cutLine⟩ | ⟨middle, rfl, cutOthers⟩
      · have short := within trailer List.mem_cons_self
        exact scanTrailers_of_line_front trailer.line cutLine strictLine (Nat.le_succ_of_le short)
      · have withinOthers : ∀ other ∈ others, other.octets.length ≤ limits.head :=
          fun other member => within other (List.mem_cons_of_mem _ member)
        rw [Trailer.octets, List.append_assoc, scanTrailers_line trailer.line,
          if_neg trailer.some]
        exact inductionHypothesis withinOthers cutOthers

/-! ## Chunks -/

/-- A chunk: a line with its size, and octets of that number. -/
structure Chunk where
  line : SizeLine
  data : Bytes
  some : data ≠ [] := by decide
  same : line.size = data.length := by decide

def Chunk.octets (chunk : Chunk) : Bytes := chunk.line.octets ++ (chunk.data ++ Bytes.lineEnd)

theorem Chunk.length_octets (chunk : Chunk) :
    chunk.octets.length = chunk.line.octets.length + (chunk.data.length + 2) := by
  rw [octets, List.length_append, List.length_append]
  rfl

theorem Chunk.size_ne_zero (chunk : Chunk) : chunk.line.size ≠ 0 := by
  rw [chunk.same]
  exact fun zero => chunk.some (List.length_eq_zero_iff.mp zero)

/-- Behind a size line, its octets of data and a line ending make a chunk. -/
theorem exists_chunk {line : SizeLine} {after : Bytes} (some : line.size ≠ 0)
    (arrived : line.size + 2 ≤ after.length)
    (ends : (after.drop line.size).take 2 = Bytes.lineEnd) :
    ∃ chunk : Chunk, chunk.line = line ∧ chunk.data = after.take line.size ∧
      line.octets ++ after = chunk.octets ++ after.drop (line.size + 2) := by
  have dataLength : (after.take line.size).length = line.size := by
    rw [List.length_take]
    omega
  let chunk : Chunk :=
    { line, data := after.take line.size
      some := fun nothing => some (by rw [← dataLength, nothing]; rfl)
      same := dataLength.symm }
  have parts : after = after.take line.size ++ (Bytes.lineEnd ++ after.drop (line.size + 2)) := by
    rw [← ends, ← List.drop_drop, List.take_append_drop, List.take_append_drop]
  refine ⟨chunk, rfl, rfl, ?_⟩
  conv => lhs; rw [parts]
  simp only [chunk, Chunk.octets, List.append_assoc]

/-- A body in chunks: the chunks, the size line of zero and the trailers. -/
structure Encoding where
  chunks : List Chunk := []
  last : SizeLine
  trailers : List Trailer := []
  zero : last.size = 0 := by decide

namespace Encoding

def octets (encoding : Encoding) : Bytes :=
  encoding.chunks.flatMap Chunk.octets ++
    (encoding.last.octets ++ trailerOctets encoding.trailers)

/-- The body: the data of the chunks, and nothing of the lines around them. -/
def body (encoding : Encoding) : Bytes := encoding.chunks.flatMap Chunk.data

/-- The lines around the data. -/
def lines (encoding : Encoding) : List Bytes :=
  encoding.chunks.map (fun chunk => chunk.line.octets) ++
    encoding.last.octets :: encoding.trailers.map Trailer.octets

/-- The same body behind one more chunk. -/
def push (chunk : Chunk) (encoding : Encoding) : Encoding :=
  { encoding with chunks := chunk :: encoding.chunks }

/-- How many octets the chunks take. -/
def reach (encoding : Encoding) : Nat := (encoding.chunks.flatMap Chunk.octets).length

theorem reach_le (encoding : Encoding) : encoding.reach ≤ encoding.octets.length := by
  rw [reach, octets, List.length_append]
  exact Nat.le_add_right _ _

theorem reach_push (chunk : Chunk) (encoding : Encoding) :
    (encoding.push chunk).reach = chunk.octets.length + encoding.reach := by
  simp only [reach, push, List.flatMap_cons, List.length_append]

theorem octets_push (chunk : Chunk) (encoding : Encoding) :
    (encoding.push chunk).octets = chunk.octets ++ encoding.octets := by
  simp only [octets, push, List.flatMap_cons, List.append_assoc]

theorem body_push (chunk : Chunk) (encoding : Encoding) :
    (encoding.push chunk).body = chunk.data ++ encoding.body :=
  rfl

theorem lines_push (chunk : Chunk) (encoding : Encoding) :
    (encoding.push chunk).lines = chunk.line.octets :: encoding.lines :=
  rfl

/-- An encoding is that of an empty body, or has a first chunk. -/
theorem induction {motive : Encoding → Prop}
    (empty : ∀ last trailers zero, motive ⟨[], last, trailers, zero⟩)
    (chunk : ∀ chunk encoding, motive encoding → motive (encoding.push chunk))
    (encoding : Encoding) : motive encoding := by
  obtain ⟨chunks, last, trailers, zero⟩ := encoding
  induction chunks with
  | nil =>
      exact empty last trailers zero
  | cons first others inductionHypothesis =>
      exact chunk first ⟨others, last, trailers, zero⟩ inductionHypothesis

theorem length_le_of_mem_lines (encoding : Encoding) {line : Bytes}
    (member : line ∈ encoding.lines) :
    line.length ≤ encoding.octets.length := by
  induction encoding using Encoding.induction with
  | empty last trailers zero =>
      have ofLines : line ∈ last.octets :: trailers.map Trailer.octets := member
      show line.length ≤ (last.octets ++ trailerOctets trailers).length
      rw [trailerOctets, List.length_append, List.length_append, List.flatMap_def]
      rcases List.mem_cons.mp ofLines with rfl | memberTrailers
      · exact Nat.le_add_right _ _
      · have inside := (List.sublist_flatten_of_mem memberTrailers).length_le
        omega
  | chunk chunk others inductionHypothesis =>
      rw [octets_push, List.length_append, chunk.length_octets]
      rw [lines_push] at member
      rcases List.mem_cons.mp member with rfl | memberOthers
      · omega
      · have inside := inductionHypothesis memberOthers
        omega

end Encoding

/-! ## The scan and the grammar -/

theorem scanChunks_of_line_front {passed decoded : Nat} {line : SizeLine} {front tail : Bytes}
    (cut : line.octets = front ++ tail) (strict : tail ≠ [])
    (within : line.octets.length ≤ limits.head) :
    scanChunks limits passed decoded front = .wait 0 := by
  have whole := scanSize_octets line []
  rw [List.append_nil, cut] at whole
  have waits := settled_scanSize.partly_of_front whole strict
  have shorter : ¬ limits.head < front.length := by
    rw [cut, List.length_append] at within
    omega
  rw [scanChunks_of_partly waits, if_neg shorter]

theorem scanChunks_line (passed decoded : Nat) (line : SizeLine) (rest : Bytes) :
    scanChunks limits passed decoded (line.octets ++ rest) =
      if line.size = 0 then scanTrailers limits rest
      else scanData limits (passed + line.octets.length) decoded line.size rest :=
  scanChunks_of_size (scanSize_octets line rest)

theorem scanData_chunk {start decoded : Nat} {chunk : Bytes}
    (fit : decoded + chunk.length ≤ limits.body) (near : start + chunk.length + 2 < wordSize)
    (more : Bytes) :
    scanData limits start decoded chunk.length (chunk ++ Bytes.lineEnd ++ more) =
      (scanChunks limits (start + chunk.length + 2) (decoded + chunk.length) more).map
        (chunk ++ ·) := by
  have length : (chunk ++ Bytes.lineEnd).length = chunk.length + 2 := by
    simp [Bytes.lineEnd]
  have allowed : fits limits decoded chunk.length = true := by
    simp only [fits, decide_eq_true_eq]
    omega
  have reach : ¬ wordSize ≤ start + chunk.length + 2 := Nat.not_le.mpr near
  have mark : ((chunk ++ Bytes.lineEnd).drop chunk.length).take 2 = Bytes.lineEnd := by
    rw [List.drop_left]
    rfl
  have behind : (chunk ++ Bytes.lineEnd).drop (chunk.length + 2) = [] := by
    rw [← length, List.drop_length]
  rw [scanData_append (by omega)]
  simp only [allowed, reach, mark, behind, List.take_left, List.nil_append, Bool.not_true,
    Bool.false_eq_true, beq_self_eq_true, if_true, if_false]

theorem scanData_of_front {start decoded size : Nat} {front : Bytes}
    (fit : decoded + size ≤ limits.body) (near : start + size + 2 < wordSize)
    (short : front.length < size + 2) :
    scanData limits start decoded size front = .wait (start + size + 2) := by
  have allowed : fits limits decoded size = true := by
    simp only [fits, decide_eq_true_eq]
    omega
  have reach : ¬ wordSize ≤ start + size + 2 := Nat.not_le.mpr near
  simp only [scanData, allowed, reach, short, Bool.not_true, Bool.false_eq_true, if_false, if_true]

theorem scanChunks_chunk_line (passed decoded : Nat) (chunk : Chunk) (rest : Bytes) :
    scanChunks limits passed decoded (chunk.line.octets ++ rest) =
      scanData limits (passed + chunk.line.octets.length) decoded chunk.data.length rest := by
  rw [scanChunks_line, if_neg chunk.size_ne_zero, chunk.same]

theorem scanChunks_chunk {passed decoded : Nat} {chunk : Chunk}
    (fit : decoded + chunk.data.length ≤ limits.body)
    (near : passed + chunk.octets.length < wordSize) (more : Bytes) :
    scanChunks limits passed decoded (chunk.octets ++ more) =
      (scanChunks limits (passed + chunk.octets.length) (decoded + chunk.data.length) more).map
        (chunk.data ++ ·) := by
  have length := chunk.length_octets
  have nearData : passed + chunk.line.octets.length + chunk.data.length + 2 < wordSize := by omega
  have stop : passed + chunk.line.octets.length + chunk.data.length + 2 =
      passed + chunk.octets.length := by omega
  rw [Chunk.octets, List.append_assoc, scanChunks_chunk_line, scanData_chunk fit nearData, stop]
  rfl

/-- On a front of a chunk and what follows it the scan waits, or all of the chunk is there. -/
theorem scanChunks_of_chunk_front {passed decoded : Nat} {chunk : Chunk} {others front tail : Bytes}
    (within : chunk.line.octets.length ≤ limits.head)
    (fit : decoded + chunk.data.length ≤ limits.body)
    (near : chunk.line.octets.length ≤ front.length → passed + chunk.octets.length < wordSize)
    (cut : chunk.octets ++ others = front ++ tail) :
    (∃ wanted, wanted ≤ passed + chunk.octets.length ∧
      scanChunks limits passed decoded front = .wait wanted) ∨
      ∃ inner, front = chunk.octets ++ inner ∧ others = inner ++ tail := by
  have length := chunk.length_octets
  rcases Bytes.front_cases cut with ⟨behind, strict, cutChunk⟩ | ⟨inner, cutFront, cutOthers⟩
  · left
    rw [Chunk.octets] at cutChunk
    rcases Bytes.front_cases cutChunk with
      ⟨inside, strictLine, cutLine⟩ | ⟨middle, rfl, cutData⟩
    · exact ⟨0, Nat.zero_le _, scanChunks_of_line_front cutLine strictLine within⟩
    · have far := near (by rw [List.length_append]; exact Nat.le_add_right _ _)
      have short : middle.length < chunk.data.length + 2 := by
        have positive := List.length_pos_iff.mpr strict
        have total := congrArg List.length cutData
        rw [List.length_append, List.length_append, show Bytes.lineEnd.length = 2 from rfl] at total
        omega
      have nearData : passed + chunk.line.octets.length + chunk.data.length + 2 < wordSize := by
        omega
      have waits := (scanChunks_chunk_line passed decoded chunk middle).trans
        (scanData_of_front fit nearData short)
      exact ⟨_, by omega, waits⟩
  · exact Or.inr ⟨inner, cutFront, cutOthers⟩

/-- A body in chunks whose lines are not too long is found, and waited for until it is all there.
The scan stands `passed` octets into the buffer and never waits for more than the encoding. -/
theorem spells_encoding_of_reach (encoding : Encoding) (passed decoded : Nat)
    (within : ∀ line ∈ encoding.lines, line.length ≤ limits.head)
    (fit : decoded + encoding.body.length ≤ limits.body)
    (near : encoding.chunks ≠ [] → passed + encoding.reach < wordSize) :
    Attempt.Spells passed (scanChunks limits passed decoded) encoding.octets encoding.body := by
  induction encoding using Encoding.induction generalizing passed decoded with
  | empty last trailers zero =>
      have withinLast : last.octets.length ≤ limits.head := within _ (by simp [Encoding.lines])
      have withinTrailers : ∀ trailer ∈ trailers, trailer.octets.length ≤ limits.head :=
        fun trailer member => within _ (by
          simp only [Encoding.lines, List.mem_append, List.mem_cons, List.mem_map]
          exact Or.inr (Or.inr ⟨trailer, member, rfl⟩))
      have some : 0 < limits.head := by
        simp only [SizeLine.octets, List.length_append, Bytes.lineEnd, List.length_cons]
          at withinLast
        omega
      show Attempt.Spells passed _ (last.octets ++ trailerOctets trailers) []
      constructor
      · intro more
        rw [List.append_assoc, scanChunks_line, if_pos zero, scanTrailers_octets]
      · intro front tail cut strict
        refine ⟨0, Nat.zero_le _, ?_⟩
        rcases Bytes.front_cases cut with ⟨rest, strictLine, cutLine⟩ | ⟨middle, rfl, cutTrailers⟩
        · exact scanChunks_of_line_front cutLine strictLine withinLast
        · rw [scanChunks_line, if_pos zero]
          exact scanTrailers_of_front withinTrailers some cutTrailers strict
  | chunk chunk others inductionHypothesis =>
      have nearAll := near (List.cons_ne_nil chunk others.chunks)
      rw [Encoding.reach_push] at nearAll
      rw [Encoding.body_push, List.length_append] at fit
      rw [Encoding.lines_push] at within
      have chunkFits : decoded + chunk.data.length ≤ limits.body := by omega
      have chunkNear : passed + chunk.octets.length < wordSize := by omega
      have rest := inductionHypothesis (passed + chunk.octets.length) (decoded + chunk.data.length)
        (fun other member => within other (List.mem_cons_of_mem _ member)) (by omega)
        (fun _ => by omega)
      constructor
      · intro more
        rw [Encoding.octets_push, List.append_assoc, scanChunks_chunk chunkFits chunkNear,
          rest.whole]
        rfl
      · intro front tail cut strict
        rw [Encoding.octets_push] at cut ⊢
        rw [List.length_append]
        rcases scanChunks_of_chunk_front (within _ List.mem_cons_self) chunkFits
          (fun _ => chunkNear) cut with ⟨wanted, bound, waits⟩ | ⟨inner, rfl, cutOthers⟩
        · exact ⟨wanted, by omega, waits⟩
        · obtain ⟨wanted, bound, waits⟩ := rest.front inner tail cutOthers strict
          refine ⟨wanted, by omega, ?_⟩
          rw [scanChunks_chunk chunkFits chunkNear, waits]
          rfl

theorem spells_encoding (encoding : Encoding) (passed decoded : Nat)
    (within : ∀ line ∈ encoding.lines, line.length ≤ limits.head)
    (fit : decoded + encoding.body.length ≤ limits.body)
    (near : passed + encoding.octets.length < wordSize) :
    Attempt.Spells passed (scanChunks limits passed decoded) encoding.octets encoding.body := by
  apply spells_encoding_of_reach encoding passed decoded within fit
  intro _
  have short := encoding.reach_le
  omega

/-- What is found as a chunked body is the body of an encoding, no longer than it may be, whose
chunks end within a machine word. -/
theorem encoding_of_scanChunks {ahead body rest : Bytes} {passed decoded : Nat}
    (found : scanChunks limits passed decoded ahead = .found body rest)
    (behind : decoded ≤ passed) (fit : decoded ≤ limits.body) :
    ∃ encoding : Encoding, ahead = encoding.octets ++ rest ∧ body = encoding.body ∧
      decoded + body.length ≤ limits.body ∧
      (encoding.chunks ≠ [] → passed + encoding.reach < wordSize) := by
  induction length : ahead.length using Nat.strong_induction_on
    generalizing ahead body passed decoded with
  | _ _ inductionHypothesis =>
    subst length
    obtain ⟨size, after, spelt⟩ := scanSize_of_found found
    obtain ⟨line, rfl, rfl⟩ := sizeLine_of_scanSize spelt
    rw [scanChunks_line] at found
    by_cases zero : line.size = 0
    · rw [if_pos zero] at found
      obtain ⟨rfl, trailers, rfl⟩ := trailers_of_scanTrailers found
      refine ⟨⟨[], line, trailers, zero⟩, (List.append_assoc _ _ _).symm, rfl, fit, ?_⟩
      intro chunks
      exact absurd rfl chunks
    · rw [if_neg zero] at found
      obtain ⟨arrived, allowed, near, ends, tail, foundTail, rfl⟩ := scanData_found found
      have shorter := length_of_scanSize spelt
      have fits : decoded + line.size ≤ limits.body := by
        simp only [Chunked.fits, decide_eq_true_eq] at allowed
        omega
      have dataLength : (after.take line.size).length = line.size := by
        rw [List.length_take]
        omega
      obtain ⟨others, cut, rfl, fitAll, nearOthers⟩ := inductionHypothesis _
        (by rw [List.length_drop]; omega) foundTail (by omega) fits rfl
      obtain ⟨chunk, sameLine, sameData, parts⟩ := exists_chunk zero arrived ends
      refine ⟨others.push chunk, ?_, ?_, ?_, ?_⟩
      · rw [parts, cut, Encoding.octets_push, List.append_assoc]
      · rw [Encoding.body_push, sameData]
      · rw [List.length_append, dataLength]
        omega
      · intro _
        have total := chunk.length_octets
        rw [sameLine, sameData, dataLength] at total
        rw [Encoding.reach_push, total]
        by_cases last : others.chunks = []
        · have nothing : others.reach = 0 := by
            rw [Encoding.reach, last]
            rfl
          omega
        · have nearLast := nearOthers last
          omega

end Chunked

end HttpServer
