import HttpServer.Proofs.ChunkGrammar
import HttpServer.Proofs.Filling
import HttpServer.Proofs.Segmentation

/-!
# How far the buffer grows

Nothing of a request is used before a whole part of it has come, so the buffer grows with what a
part may need. A head needs no more than the bound on heads, and a body of a known length no more
than the bound on bodies. A body in chunks needs room for its data and for the lines around the
data, and those lines are measured one by one at most. So the growth is bounded by the two bounds
and the octets of those lines, and by nothing less.
-/

namespace HttpServer

namespace Chunked

variable {limits : Limits}

/-! ## The lines around the data -/

/-- How many octets the trailer lines at the front take, with the empty line behind them. -/
def trailerOverhead (bytes : Bytes) : Nat :=
  match _found : Bytes.afterLine bytes with
  | none => 0
  | some rest =>
    bytes.length - rest.length +
      if bytes.length = rest.length + 2 then 0 else trailerOverhead rest
termination_by bytes.length
decreasing_by
  have := Bytes.length_of_afterLine _found
  omega

/-- How many octets at the front are size lines, line endings behind chunks, and trailer lines, as
far as there is `room` for the data of the chunks. -/
def overhead (room : Nat) (ahead : Bytes) : Nat :=
  match _found : scanSize ahead with
  | .found size rest =>
    ahead.length - rest.length +
      if size = 0 then trailerOverhead rest
      else if room < size then 0
      else if (rest.drop size).take 2 == Bytes.lineEnd then
        2 + overhead (room - size) (rest.drop (size + 2))
      else 0
  | .partly => 0
  | .wrong _ => 0
termination_by ahead.length
decreasing_by
  have := length_of_scanSize _found
  rw [List.length_drop]
  omega

theorem trailerOverhead_of_line {line rest : Bytes}
    (found : Bytes.afterLine (line ++ rest) = some rest) :
    trailerOverhead (line ++ rest) =
      line.length + if line.length = 2 then 0 else trailerOverhead rest := by
  rw [trailerOverhead]
  split
  · rename_i none
    simp [found] at none
  · rename_i after same
    obtain rfl := Option.some.inj (found.symm.trans same)
    simp only [List.length_append, Nat.add_comm line.length rest.length,
      Nat.add_sub_cancel_left, Nat.add_left_cancel_iff]

theorem overhead_of_size {room size : Nat} {line rest : Bytes}
    (spelt : scanSize (line ++ rest) = .found size rest) :
    overhead room (line ++ rest) =
      line.length +
        if size = 0 then trailerOverhead rest
        else if room < size then 0
        else if (rest.drop size).take 2 == Bytes.lineEnd then
          2 + overhead (room - size) (rest.drop (size + 2))
        else 0 := by
  rw [overhead]
  split
  · rename_i given after same
    obtain ⟨rfl, rfl⟩ := Scan.found.inj (spelt.symm.trans same)
    rw [List.length_append, Nat.add_sub_cancel]
  · rename_i same
    cases spelt.symm.trans same
  · rename_i same
    cases spelt.symm.trans same

/-! ## What the scan waits for -/

/-- Behind the trailer lines that have come, the scan waits for one line at most. -/
theorem le_of_scanTrailers_wait {bytes : Bytes} {wanted : Nat}
    (waits : scanTrailers limits bytes = .wait wanted) (more : Bytes) :
    wanted = 0 ∧ bytes.length ≤ trailerOverhead (bytes ++ more) + limits.head := by
  fun_induction scanTrailers limits bytes with
  | case1 =>
      simp [Attempt.refused] at waits
  | case2 bytes unended short =>
      exact ⟨(Attempt.wait.inj waits).symm, by omega⟩
  | case3 =>
      simp at waits
  | case4 bytes after line long inductionHypothesis =>
      obtain ⟨none, few⟩ := inductionHypothesis waits
      obtain ⟨ending, rfl, two, again⟩ := afterLine_settled line
      refine ⟨none, ?_⟩
      have notTwo : ending.length ≠ 2 := by
        rw [List.length_append] at long
        omega
      rw [List.append_assoc, trailerOverhead_of_line (again _), if_neg notTwo, List.length_append]
      omega

/-- Where the scan stands behind `decoded` octets of data and `around` others, it waits for no more
than the lines around the data, a line, and a body. -/
theorem le_of_scanChunks_wait {around decoded wanted : Nat} {ahead : Bytes}
    (waits : scanChunks limits (around + decoded) decoded ahead = .wait wanted)
    (fit : decoded ≤ limits.body) (more : Bytes) :
    wanted ≤ around + overhead (limits.body - decoded) (ahead ++ more) + limits.head +
        limits.body + 2 ∧
      around + decoded + ahead.length ≤
        around + overhead (limits.body - decoded) (ahead ++ more) + limits.head +
          limits.body + 2 := by
  -- each chunk that is passed over adds its size line and its line ending to what stands around
  induction length : ahead.length using Nat.strong_induction_on
    generalizing ahead around decoded with
  | _ _ inductionHypothesis =>
    subst length
    cases verdict : scanSize ahead with
    | wrong error =>
        simp [scanChunks_of_wrong verdict, Attempt.refused] at waits
    | partly =>
        rw [scanChunks_of_partly verdict] at waits
        split at waits
        · simp [Attempt.refused] at waits
        · obtain rfl := Attempt.wait.inj waits
          omega
    | found size after =>
        obtain ⟨line, rfl, again⟩ := settled_scanSize.found verdict
        have shorter := length_of_scanSize verdict
        rw [List.append_assoc, overhead_of_size (again (after ++ more))]
        rw [scanChunks_of_size verdict] at waits
        rw [List.length_append]
        by_cases last : size = 0
        · rw [if_pos last] at waits ⊢
          obtain ⟨rfl, few⟩ := le_of_scanTrailers_wait waits more
          omega
        · rw [if_neg last] at waits ⊢
          obtain ⟨allowed, near, ⟨short, rfl⟩ | ⟨arrived, ends, behind⟩⟩ := scanData_wait waits
          · have room := fits_of_near allowed (by omega) near
            omega
          · have room := fits_of_near allowed (by omega) near
            have front : (after ++ more).drop size = after.drop size ++ more :=
              List.drop_append_of_le_length (by omega)
            have tail : (after ++ more).drop (size + 2) = after.drop (size + 2) ++ more :=
              List.drop_append_of_le_length (by omega)
            have mark : ((after ++ more).drop size).take 2 = Bytes.lineEnd := by
              rw [front, List.take_append_of_le_length (by rw [List.length_drop]; omega), ends]
            have noLarge : ¬ limits.body - decoded < size := by omega
            have dropped : (after.drop (size + 2)).length = after.length - (size + 2) :=
              List.length_drop
            have stop : around + decoded + line.length + size + 2 =
                around + (line.length + 2) + (decoded + size) := by omega
            rw [stop] at behind
            have rest := inductionHypothesis (after.drop (size + 2)).length
              (by rw [List.length_append]; omega) behind (by omega) rfl
            rw [if_neg noLarge, mark, if_pos (beq_self_eq_true _), tail]
            rw [Nat.sub_add_eq] at rest
            omega

end Chunked

/-- The octets of the lines around the data, which only a body in chunks has. -/
def Framing.overhead (limits : Limits) (framing : Framing) (ahead : Bytes) : Nat :=
  match framing with
  | .chunked => Chunked.overhead limits.body ahead
  | .absent | .sized _ => 0

/-- On the fronts of some octets an attempt waits for no more than `bound` octets, and only while
there are no more. -/
def Attempt.WaitsWithin {α : Type} (bound : Nat) (attempt : Bytes → Attempt α) (whole : Bytes) :
    Prop :=
  ∀ front more wanted, whole = front ++ more → attempt front = .wait wanted →
    wanted ≤ bound ∧ front.length ≤ bound

theorem Framing.waitsWithin_scanBody (limits : Limits) (framing : Framing) (ahead : Bytes) :
    Attempt.WaitsWithin (limits.head + limits.body + 2 + framing.overhead limits ahead)
      (framing.scanBody limits) ahead := by
  intro front more wanted cut waits
  cases framing with
  | absent =>
      simp [scanBody] at waits
  | sized length =>
      simp only [scanBody, scanSized] at waits
      split at waits
      · simp [Attempt.refused] at waits
      · split at waits
        · obtain rfl := Attempt.wait.inj waits
          omega
        · simp at waits
  | chunked =>
      have waitsAtStart : Chunked.scanChunks limits (0 + 0) 0 front = .wait wanted := waits
      have few := Chunked.le_of_scanChunks_wait waitsAtStart (Nat.zero_le _) more
      rw [← cut, Nat.sub_zero] at few
      show wanted ≤ limits.head + limits.body + 2 + Chunked.overhead limits.body ahead ∧
        front.length ≤ limits.head + limits.body + 2 + Chunked.overhead limits.body ahead
      omega

namespace Reader

variable {α : Type} {attempt : Bytes → Attempt α} {atEnd : Bytes → DecodeError}
  {limits : Limits} {reader next last : Reader} {bound : Nat}

/-! ## The growth in one await -/

/-- The room that a buffer comes to when no more than `bound` octets are waited for. -/
def grownRoom (reader : Reader) (bound : Nat) : Nat :=
  max reader.buffer.capacity (2 * bound + ReadBuffer.readRoom)

theorem capacity_le_of_prepare {prepared : ReadBuffer} {wanted : Nat}
    (within : Attempt.WaitsWithin bound attempt reader.unused)
    (waits : attempt reader.buffer.data = .wait wanted)
    (done : reader.buffer.prepare wanted = .ok prepared) :
    prepared.capacity ≤ reader.grownRoom bound := by
  have few := within _ _ wanted rfl waits
  have grown := ReadBuffer.capacity_le_of_prepare done
  unfold grownRoom
  omega

theorem Fills.capacity_le (within : Attempt.WaitsWithin bound attempt reader.unused)
    (fills : Fills attempt reader next) :
    next.buffer.capacity ≤ reader.grownRoom bound := by
  obtain ⟨wanted, buffer, bytes, rest, waits, prepared, some, brought⟩ := fills
  show buffer.capacity ≤ _
  exact capacity_le_of_prepare within waits prepared

theorem capacity_le_of_fills (within : Attempt.WaitsWithin bound attempt reader.unused)
    (fills : Relation.ReflTransGen (Fills attempt) reader last) :
    last.buffer.capacity ≤ reader.grownRoom bound := by
  induction fills with
  | refl =>
      exact Nat.le_max_left _ _
  | tail between fill inductionHypothesis =>
      rw [← unused_of_fills between] at within
      have grown := fill.capacity_le within
      unfold grownRoom at *
      omega

/-- Awaiting leaves a buffer of bounded room, and takes no more from the stream than fits there. -/
theorem await_growth (atEnd : Bytes → DecodeError)
    (within : Attempt.WaitsWithin bound attempt reader.unused)
    (granted : reader.buffer.IsGranted) :
    (reader.await attempt atEnd).2.buffer.capacity ≤ reader.grownRoom bound ∧
      reader.stream.contents.length ≤
        (reader.await attempt atEnd).2.stream.contents.length + reader.grownRoom bound := by
  obtain ⟨last, fills, ends⟩ := exists_ends_await attempt atEnd reader
  have room := capacity_le_of_fills within fills
  have held := (isGranted_of_fills fills granted).held
  have same := unused_of_fills fills
  rw [← same] at within
  have total := congrArg List.length same
  rw [Reader.unused, Reader.unused, List.length_append, List.length_append] at total
  have prepared {wanted : Nat} {buffer : ReadBuffer}
      (waits : attempt last.buffer.data = .wait wanted)
      (done : last.buffer.prepare wanted = .ok buffer) :
      buffer.capacity ≤ reader.grownRoom bound := by
    have grown := capacity_le_of_prepare within waits done
    unfold grownRoom at *
    omega
  generalize reader.await attempt atEnd = outcome at ends ⊢
  cases ends with
  | found item rest verdict =>
      exact ⟨room, by show _ ≤ last.stream.contents.length + _; omega⟩
  | failed | unprepared =>
      exact ⟨room, by show _ ≤ last.stream.contents.length + _; omega⟩
  | broken wanted buffer kind rest waits done brought =>
      refine ⟨prepared waits done, ?_⟩
      rw [Stream.contents_of_failed_read brought]
      omega
  | ended wanted buffer rest waits done brought =>
      refine ⟨prepared waits done, ?_⟩
      have nothing := Stream.contents_of_read brought
      rw [List.nil_append] at nothing
      rw [← nothing]
      omega

/-! ## The growth in one request -/

/-- The octets of the lines around the data of the request that comes next. -/
def overhead (limits : Limits) (reader : Reader) : Nat :=
  match reader.readHead limits with
  | (.ok head, middle) =>
    match Framing.ofFields head.fields with
    | .ok framing => framing.overhead limits middle.unused
    | .error _ => 0
  | (.error _, _) => 0

/-- The octets that may be waited for in a request. -/
def needed (limits : Limits) (reader : Reader) : Nat :=
  limits.head + limits.body + 2 + reader.overhead limits

theorem waitsWithin_scanHead (limits : Limits) (whole : Bytes) :
    Attempt.WaitsWithin limits.head (scanHead limits) whole := by
  intro front more wanted cut waits
  obtain ⟨rfl, below⟩ := below_of_scanHead_wait waits
  exact ⟨Nat.zero_le _, Nat.le_of_lt below⟩

/-- Whatever a peer sends, and in whatever reads, one request makes the buffer grow to no more than
about twice what it may need, and takes no more than twice that from the stream. A request without
chunks may need what the two bounds allow; one in chunks may need the lines around its data
besides. -/
theorem readRequest_growth (limits : Limits) (granted : reader.buffer.IsGranted) :
    (reader.readRequest limits).2.buffer.capacity ≤ reader.grownRoom (reader.needed limits) ∧
      reader.stream.contents.length ≤ (reader.readRequest limits).2.stream.contents.length +
        2 * reader.grownRoom (reader.needed limits) := by
  have headGrowth := await_growth headEnd (waitsWithin_scanHead limits reader.unused) granted
  have grantedMiddle := isGranted_readHead limits granted
  rw [← readHead] at headGrowth
  have more : reader.grownRoom limits.head ≤ reader.grownRoom (reader.needed limits) := by
    unfold grownRoom needed
    omega
  rcases readRequest_cases limits reader with
    ⟨failure, middle, headReading, same⟩ | ⟨head, middle, error, headReading, -, same⟩ |
      ⟨head, middle, framing, headReading, framed, same⟩
  · simp only [headReading] at headGrowth
    simp only [same]
    omega
  · simp only [headReading] at headGrowth
    simp only [same]
    omega
  · simp only [headReading] at headGrowth grantedMiddle
    have bodyGrowth := await_growth (fun _ => .truncated)
      (framing.waitsWithin_scanBody limits middle.unused) grantedMiddle
    have sameOverhead : reader.overhead limits = framing.overhead limits middle.unused := by
      simp only [overhead, headReading, framed]
    -- the body starts from the room that the head has left
    have grown : middle.grownRoom (reader.needed limits) ≤
        reader.grownRoom (reader.needed limits) := by
      unfold grownRoom at *
      omega
    rw [← readBody, ← sameOverhead, ← needed] at bodyGrowth
    simp only [same]
    omega

/-- Four octets of data with two size lines and a trailer around them, into a buffer of 16. -/
theorem readRequest_growth_of_trailer :
    let reads := [
      Bytes.ascii "POST / HTTP/1.1\r\nTransfer-Encoding: chunked\r\n\r\n4;a=b\r\nda",
      Bytes.ascii "ta\r\n0\r\nT: v\r", Bytes.ascii "\n\r\nGET"]
    let limits : Limits := { head := 49, body := 4 }
    let after := ((ofReads 16 reads).readRequest limits).2
    (ofReads 16 reads).overhead limits = 20 ∧
      after.buffer.capacity ≤ 2 * (49 + 4 + 2 + 20) + 64 ∧
      reads.flatten.length ≤ after.stream.contents.length + 2 * (2 * (49 + 4 + 2 + 20) + 64) := by
  intro reads limits after
  have granted : (ofReads 16 reads).buffer.IsGranted :=
    @ReadBuffer.isGranted_ofCapacity _ 16 .largest (by decide)
  have lines : (ofReads 16 reads).overhead limits = 20 := by decide +kernel
  have room : (ofReads 16 reads).grownRoom ((ofReads 16 reads).needed limits) =
      2 * (49 + 4 + 2 + 20) + 64 := by
    rw [needed, lines]
    decide
  have brought : (ofReads 16 reads).stream.contents.length = reads.flatten.length := by
    decide +kernel
  have growth := readRequest_growth limits granted
  rw [room, brought] at growth
  exact ⟨lines, growth⟩

/-! ## No growth is too much -/

variable {used rest : Bytes} {item : α} {head : RequestHead} {front : Bytes}
  {encoding : Chunked.Encoding}

/-- Nothing of an item is used before it has come as a whole, so the buffer has room for it. -/
theorem await_holds (atEnd : Bytes → DecodeError) (spells : Attempt.Spells 0 attempt used item)
    (delivers : reader.Delivers (used ++ rest)) (granted : reader.buffer.IsGranted)
    (memory : 2 * used.length + ReadBuffer.readRoom < reader.buffer.memory.size) :
    ∃ after, reader.await attempt atEnd = (.ok item, after) ∧ after.Delivers rest ∧
      used.length ≤ after.buffer.capacity := by
  have plain := isPlain_await attempt atEnd delivers.plain
  have modest : Attempt.Modest used.length attempt (used ++ rest) := spells.modest
  rw [← delivers.whole] at modest
  rcases await_of_found atEnd (spells.decidesBelow addressSpace) delivers.plain granted
    delivers.whole with ⟨after, found, left, room⟩ | ⟨error, refused⟩
  · rw [found] at plain
    exact ⟨after, found, ⟨plain, left⟩, room⟩
  · exact absurd refused (await_ne_reservation modest memory error)

theorem length_le_capacity_of_encoding (spelled : head.IsSpelledBy front)
    (framed : Framing.ofFields head.fields = .ok .chunked) (withinHead : front.length ≤ limits.head)
    (within : ∀ line ∈ encoding.lines, line.length ≤ limits.head)
    (fit : encoding.body.length ≤ limits.body) (granted : reader.buffer.IsGranted)
    (delivers : reader.Delivers (front ++ (encoding.octets ++ rest)))
    (memory : 2 * (front.length + encoding.octets.length) + ReadBuffer.readRoom <
      reader.buffer.memory.size) :
    encoding.octets.length ≤ (reader.readRequest limits).2.buffer.capacity := by
  have spellsHead := spells_of_isSpelledBy spelled withinHead
  have word : addressSpace < wordSize := by decide
  have addressable := reader.buffer.memory.addressable
  have spellsBody : Attempt.Spells 0 (Framing.chunked.scanBody limits) encoding.octets
      encoding.body :=
    Chunked.spells_encoding encoding 0 0 within (by omega) (by omega)
  obtain ⟨middle, headRead, deliversBody, -⟩ :=
    await_holds headEnd spellsHead delivers granted (by omega)
  have grantedMiddle := isGranted_readHead limits granted
  have sameMemory : middle.buffer.memory = reader.buffer.memory := by
    have kept := memory_await (scanHead limits) headEnd reader
    rwa [headRead] at kept
  rw [readHead, headRead] at grantedMiddle
  rw [← sameMemory] at memory addressable
  obtain ⟨after, bodyRead, -, room⟩ :=
    await_holds (fun _ => .truncated) spellsBody deliversBody grantedMiddle (by omega)
  rw [readRequest_of_head headRead framed, readBody, bodyRead]
  exact room

/-- The room and the two bounds do not bound the growth: trailer lines of a few octets each fill as
much of the memory as there are lines. -/
theorem growth_exceeds_limits :
    ¬ ∃ bound ≤ addressSpace / 16, ∀ reader : Reader,
      reader.buffer = { data := [], capacity := 8192 } → reader.stream.IsPlain →
        reader.stream.contents.length ≤
            (reader.readRequest { head := 64, body := 16 }).2.stream.contents.length + bound ∧
          (reader.readRequest { head := 64, body := 16 }).2.buffer.capacity ≤ 8192 + bound := by
  rintro ⟨bound, small, bounded⟩
  let limits : Limits := { head := 64, body := 16 }
  let lines : HeadLines :=
    { method := Bytes.ascii "POST", target := Bytes.ascii "/", version := .http11
      fields := [(Bytes.ascii "Transfer-Encoding", Bytes.ascii "chunked")] }
  let front := Bytes.ascii "POST / HTTP/1.1\r\nTransfer-Encoding: chunked\r\n\r\n"
  let trailer : Chunked.Trailer := { text := Bytes.ascii "t: v" }
  let zero : Chunked.SizeLine := { digits := Bytes.ascii "0" }
  let encoding : Chunked.Encoding :=
    { last := zero, trailers := List.replicate (8192 + bound) trailer }
  have scanned : HeadLines.scan front = .found lines [] := by decide +kernel
  have asksChunks : (RequestHead.ofLines lines).map (fun head => Framing.ofFields head.fields) =
      .ok (.ok .chunked) := by decide +kernel
  have length : encoding.octets.length = (8192 + bound) * 6 + 5 := by
    have each : trailer.octets.length = 6 := by decide
    have first : zero.octets.length = 3 := by decide
    have last : Bytes.lineEnd.length = 2 := rfl
    simp only [encoding, Chunked.Encoding.octets, Chunked.trailerOctets, List.flatMap_nil,
      List.nil_append, List.length_append, List.flatMap_replicate, List.length_flatten,
      List.map_replicate, List.sum_replicate_nat, each, first, last]
    omega
  have within : ∀ line ∈ encoding.lines, line.length ≤ limits.head := by
    intro line member
    rcases List.mem_cons.mp member with rfl | member
    · show zero.octets.length ≤ 64
      decide
    · obtain ⟨other, memberOther, rfl⟩ := List.mem_map.mp member
      rw [List.eq_of_mem_replicate memberOther]
      show trailer.octets.length ≤ 64
      decide
  let reader := ofReads 8192 [front ++ encoding.octets]
  have delivers : reader.Delivers (front ++ (encoding.octets ++ [])) := by
    have some : ∀ bytes ∈ [front ++ encoding.octets], bytes ≠ [] := by
      intro bytes member
      rw [List.mem_singleton.mp member]
      exact List.cons_ne_nil _ _
    have brings : reader.Delivers _ := delivers_ofReads some
    rwa [List.flatten_singleton, ← List.append_nil encoding.octets] at brings
  obtain ⟨head, read, framed⟩ := exists_head_of_framing asksChunks
  have memory : 2 * (front.length + encoding.octets.length) + ReadBuffer.readRoom <
      addressSpace := by
    have short : front.length = 47 := by decide
    have host : addressSpace = 72057594037927936 := by decide
    have room : ReadBuffer.readRoom = 64 := rfl
    omega
  have made : ReadBuffer.ofCapacity 8192 = .ok { data := [], capacity := 8192 } := by decide
  have granted : reader.buffer.IsGranted := ReadBuffer.isGranted_ofCapacity made
  have held : encoding.octets.length ≤ (reader.readRequest limits).2.buffer.capacity :=
    length_le_capacity_of_encoding ⟨lines, scanned, read⟩ framed (by decide) within
      (Nat.zero_le _) granted delivers memory
  have few : (reader.readRequest limits).2.buffer.capacity ≤ 8192 + bound :=
    (bounded reader rfl delivers.plain).2
  omega

end Reader

end HttpServer
