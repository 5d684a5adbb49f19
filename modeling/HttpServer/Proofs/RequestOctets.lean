import HttpServer.Proofs.ChunkGrammar
import HttpServer.Proofs.RequestReading

/-!
# The octets of a request

A request stands on the wire as the octets of its head and, behind them, the octets that stand for
its body in the framing that the head asks for. Reading a request takes exactly these octets off
what is unused.
-/

namespace HttpServer

/-- The octets that stand for a body in a framing. -/
inductive Framing.Encodes : Framing → Bytes → Bytes → Prop
  | absent : Encodes .absent [] []
  | sized (body : Bytes) : Encodes (.sized body.length) body body
  | chunked (encoding : Chunked.Encoding) : Encodes .chunked encoding.octets encoding.body

/-- `front` spells the head of the request, and `encoded` stands for its body in the framing that
the head asks for. -/
structure Request.IsSpelledBy (request : Request) (front encoded : Bytes) : Prop where
  head : request.toRequestHead.IsSpelledBy front
  body : ∃ framing, Framing.ofFields request.fields = .ok framing ∧
    framing.Encodes encoded request.body

variable {limits : Limits}

/-! ## Bodies -/

namespace Framing

theorem encodes_of_scanBody {framing : Framing} {octets body : Bytes}
    (found : framing.scanBody limits octets = .found body []) :
    framing.Encodes octets body := by
  cases framing with
  | absent =>
      obtain ⟨rfl, rfl⟩ := Attempt.found.inj found
      exact Encodes.absent
  | sized length =>
      have scanned : scanSized limits length octets = .found body [] := found
      unfold scanSized at scanned
      split at scanned
      · simp [Attempt.refused] at scanned
      · split at scanned
        · simp at scanned
        · rename_i enough
          obtain ⟨rfl, nothing⟩ := Attempt.found.inj scanned
          have few : octets.length ≤ length := List.drop_eq_nil_iff.mp nothing
          have same : length = octets.length := by omega
          rw [same, List.take_length]
          exact Encodes.sized octets
  | chunked =>
      obtain ⟨encoding, cut, rfl, -, -⟩ :=
        Chunked.encoding_of_scanChunks found (Nat.le_refl 0) (Nat.zero_le _)
      rw [cut, List.append_nil]
      exact Encodes.chunked encoding

/-- A body that has been found, behind size lines and before trailers that are not too long, is
waited for until it is all there. -/
theorem spells_of_scanBody {framing : Framing} {octets body : Bytes}
    (found : framing.scanBody limits octets = .found body [])
    (within : ∀ encoding : Chunked.Encoding, framing = .chunked → octets = encoding.octets →
      ∀ line ∈ encoding.lines, line.length ≤ limits.head) :
    Attempt.Spells 0 (framing.scanBody limits) octets body := by
  cases framing with
  | absent =>
      obtain ⟨rfl, rfl⟩ := Attempt.found.inj found
      constructor
      · intro more
        rfl
      · intro front tail cut strict
        exact absurd (List.append_eq_nil_iff.mp cut.symm).2 strict
  | sized length =>
      have same : length = octets.length := by
        -- the length must be a variable for the cases below to be told apart by it
        generalize framed : Framing.sized length = framing at found
        have encodes := encodes_of_scanBody found
        cases encodes with
        | absent | chunked =>
            simp at framed
        | sized =>
            simpa using framed
      subst same
      have scanned : scanSized limits octets.length (octets ++ []) = .found body [] := by
        rw [List.append_nil]
        exact found
      rw [scanSized_append rfl] at scanned
      by_cases large : limits.body < octets.length
      · simp [large, Attempt.refused] at scanned
      · rw [if_neg large] at scanned
        obtain ⟨rfl, -⟩ := Attempt.found.inj scanned
        exact spells_scanSized (Nat.not_lt.mp large)
  | chunked =>
      obtain ⟨encoding, cut, rfl, fit, near⟩ :=
        Chunked.encoding_of_scanChunks found (Nat.le_refl 0) (Nat.zero_le _)
      rw [List.append_nil] at cut
      have lines := within encoding rfl cut
      subst cut
      exact Chunked.spells_encoding_of_reach encoding 0 0 lines fit near

end Framing

/-! ## Requests -/

namespace Reader

variable {reader after : Reader} {request : Request}

theorem isSpelledBy_of_scanHead {front : Bytes} {head : RequestHead}
    (found : scanHead limits front = .found head []) :
    head.IsSpelledBy front := by
  unfold scanHead at found
  cases scanned : HeadLines.scan front with
  | found lines rest =>
      simp only [scanned] at found
      cases read : RequestHead.ofLines lines with
      | ok other =>
          simp only [read] at found
          obtain ⟨rfl, rfl⟩ := Attempt.found.inj found
          exact ⟨lines, scanned, read⟩
      | error error =>
          simp [read, Attempt.refused] at found
  | partly =>
      simp only [scanned] at found
      split at found <;> simp [Attempt.refused] at found
  | wrong error =>
      simp [scanned, Attempt.refused] at found

theorem isSpelledBy_of_readHead {head : RequestHead} {middle : Reader}
    (gave : reader.readHead limits = (.ok head, middle)) :
    ∃ front, head.IsSpelledBy front ∧ reader.unused = front ++ middle.unused := by
  obtain ⟨front, cut, again⟩ := used_of_await_ok (settledBelow_scanHead limits) gave
  have found := again []
  rw [List.append_nil] at found
  exact ⟨front, isSpelledBy_of_scanHead found, cut⟩

theorem encodes_of_readBody {framing : Framing} {body : Bytes}
    (gave : reader.readBody limits framing = (.ok body, after)) :
    ∃ encoded, framing.Encodes encoded body ∧ reader.unused = encoded ++ after.unused := by
  obtain ⟨encoded, cut, again⟩ :=
    used_of_await_ok (Framing.settledBelow_scanBody limits framing) gave
  have found := again []
  rw [List.append_nil] at found
  exact ⟨encoded, Framing.encodes_of_scanBody found, cut⟩

end Reader

end HttpServer
