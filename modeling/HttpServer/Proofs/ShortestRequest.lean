import HttpServer.Proofs.RequestReading

/-!
# The shortest request

A request has a head, and a head has a method and a target of an octet at least, each with a space
behind it, a version of eight octets, the end of that line and the end of the head. These are
fourteen octets, so that what is unused lasts for one request in fourteen octets at most.
-/

namespace HttpServer

/-! ## How much a scan takes -/

/-- Whatever the scan finds takes so many octets at least. -/
def Scan.Takes {ε α : Type} (least : Nat) (scan : Bytes → Scan ε α) : Prop :=
  ∀ ⦃bytes rest : Bytes⦄ ⦃item : α⦄, scan bytes = .found item rest →
    rest.length + least ≤ bytes.length

namespace Scan

variable {ε α β : Type} {scan : Bytes → Scan ε α} {first second : Nat}

theorem Settled.takes_one (settled : Settled scan) (nothing : scan [] = .partly) :
    Takes 1 scan := by
  intro bytes rest item found
  obtain ⟨used, rfl, again⟩ := settled.found found
  have some : used ≠ [] := by
    rintro rfl
    have onNothing := again []
    rw [List.append_nil, nothing] at onNothing
    cases onNothing
  have positive := List.length_pos_iff.mpr some
  rw [List.length_append]
  omega

theorem Takes.map (takes : Takes first scan) (change : α → β) :
    Takes first (fun bytes => (scan bytes).map change) := by
  intro bytes rest item found
  cases verdict : scan bytes with
  | found inner after =>
      simp only [verdict, Scan.map, Scan.found.injEq] at found
      obtain ⟨-, rfl⟩ := found
      exact takes verdict
  | partly | wrong =>
      simp [verdict, Scan.map] at found

theorem Takes.andThen {next : α → Bytes → Scan ε β} (takes : Takes first scan)
    (takesNext : ∀ item, Takes second (next item)) :
    Takes (first + second) (fun bytes => (scan bytes).andThen next) := by
  intro bytes rest item found
  cases verdict : scan bytes with
  | found inner middle =>
      simp only [verdict, Scan.andThen] at found
      have front := takes verdict
      have back := takesNext inner found
      omega
  | partly | wrong =>
      simp [verdict, Scan.andThen] at found

end Scan

namespace HeadLines

open Scan

/-! ## How much a head takes -/

theorem takes_skipBlankLines : Takes 0 skipBlankLines := by
  intro bytes rest item found
  obtain ⟨blank, -, -, cut, -⟩ := skipBlankLines_found found
  rw [cut, List.length_append]
  exact Nat.le_add_left _ _

/-- A run of octets that is not empty, and the mark behind it. -/
theorem length_of_marked_run {test : UInt8 → Bool} {bytes rest : Bytes} {mark : UInt8}
    (stopped : bytes.dropWhile test = mark :: rest)
    (some : (bytes.takeWhile test).isEmpty = false) :
    rest.length + 2 ≤ bytes.length := by
  have whole := congrArg List.length (Bytes.takeWhile_append_of_stopped stopped)
  have positive := List.length_pos_iff.mpr (List.isEmpty_eq_false_iff.mp some)
  rw [List.length_append, List.length_cons] at whole
  omega

theorem takes_scanMethod : Takes 2 scanMethod := by
  intro bytes rest method found
  simp only [scanMethod] at found
  split at found
  · cases found
  · rename_i mark after stopped
    split at found
    · rename_i marked
      obtain ⟨-, rfl⟩ := Scan.found.inj found
      simp only [Bool.and_eq_true, Bool.not_eq_true'] at marked
      exact length_of_marked_run stopped marked.2
    · cases found

theorem takes_scanTarget : Takes 2 scanTarget := by
  intro bytes rest target found
  simp only [scanTarget] at found
  split at found
  · cases found
  · rename_i mark after stopped
    split at found
    · rename_i marked
      obtain ⟨-, rfl⟩ := Scan.found.inj found
      simp only [Bool.and_eq_true, Bool.not_eq_true'] at marked
      exact length_of_marked_run stopped marked.1.2
    · cases found

theorem takes_scanVersion : Takes 8 scanVersion := by
  intro bytes rest version found
  have long : ¬ bytes.length < 8 := by
    intro short
    rw [scanVersion_of_short short] at found
    split at found <;> cases found
  have whole : (bytes.take 8).length = 8 := by
    rw [List.length_take]
    omega
  have cut : scanVersion bytes = judgeVersion (bytes.take 8) (bytes.drop 8) := by
    rw [← scanVersion_append whole, List.take_append_drop]
  rw [cut] at found
  obtain ⟨used, behind, -⟩ := (settled_judgeVersion _).found found
  have total := congrArg List.length behind
  rw [List.length_drop, List.length_append] at total
  omega

theorem takes_scanLineEnd (error : HeadLinesError) : Takes 1 (scanLineEnd error) :=
  (settled_scanLineEnd error).takes_one (scanLineEnd_nil error)

theorem takes_scanFields (room : Nat) : Takes 1 (scanFields room) :=
  (settled_scanFields room).takes_one (by rw [scanFields.eq_def])

theorem takes_scan : Takes 14 scan := by
  have parts : Takes (0 + (2 + (2 + (8 + (1 + 1))))) fun bytes =>
      (skipBlankLines bytes).andThen fun _ rest => scanAfterBlank rest := by
    apply takes_skipBlankLines.andThen
    intro _
    apply takes_scanMethod.andThen
    intro method
    apply takes_scanTarget.andThen
    intro target
    apply takes_scanVersion.andThen
    intro version
    apply (takes_scanLineEnd .newLine).andThen
    intro _
    exact (takes_scanFields maximumFields).map _
  exact parts

/-- A head of fourteen octets. -/
example : scan (Bytes.ascii "A / HTTP/1.1\n\n") =
    .found
      { method := Bytes.ascii "A", target := Bytes.ascii "/", version := .http11, fields := [] }
      [] := by
  decide +kernel

end HeadLines

namespace Reader

variable {limits : Limits} {reader after : Reader}

theorem length_of_scanHead {bytes rest : Bytes} {head : RequestHead}
    (found : scanHead limits bytes = .found head rest) :
    rest.length + 14 ≤ bytes.length := by
  unfold scanHead at found
  split at found
  · rename_i lines behind scanned
    split at found
    · obtain ⟨-, rfl⟩ := Attempt.found.inj found
      exact HeadLines.takes_scan scanned
    · cases found
  · cases found
  · split at found <;> cases found

/-- A request that has been read used fourteen octets at least. -/
theorem length_of_readRequest_ok {request : Request}
    (gave : reader.readRequest limits = (.ok request, after)) :
    after.unused.length + 14 ≤ reader.unused.length := by
  obtain ⟨head, framing, body, headUsed, bodyUsed, -, -, whole, headAgain, -⟩ :=
    used_of_readRequest_ok gave
  have enough := length_of_scanHead (headAgain [])
  rw [List.append_nil, List.length_nil] at enough
  rw [whole, List.length_append, List.length_append]
  omega

end Reader

end HttpServer
