import HttpServer.Proofs.WrittenHead
import Mathlib.Data.List.Perm.Basic
import Mathlib.Logic.Relation

/-!
# The elements of a list in field lines

A list is written with commas between its elements, in one field line or in several, with blanks
around the elements or without. `ListLayout.Step` holds the ways in which the same list may be laid
out otherwise, and none of them changes the elements, letter case and order aside.
-/

namespace HttpServer

namespace Bytes

/-! ## Blanks around a run -/

variable {blanks : Bytes}

theorem trim_blanks_append (blank : ∀ byte ∈ blanks, isBlank byte = true) (text : Bytes) :
    trim (blanks ++ text) = trim text := by
  rw [trim, List.dropWhile_append_of_pos blank, trim]

theorem trimRight_append_blanks (blank : ∀ byte ∈ blanks, isBlank byte = true) (text : Bytes) :
    trimRight (text ++ blanks) = trimRight text := by
  have blankBack : ∀ byte ∈ blanks.reverse, isBlank byte = true :=
    fun byte member => blank byte (List.mem_reverse.mp member)
  rw [trimRight, List.reverse_append, List.dropWhile_append_of_pos blankBack, trimRight]

theorem trim_append_blanks (blank : ∀ byte ∈ blanks, isBlank byte = true) (text : Bytes) :
    trim (text ++ blanks) = trim text := by
  rw [trim, List.dropWhile_append]
  split
  · rename_i nothing
    have allBlank : text.dropWhile isBlank = [] := List.isEmpty_iff.mp nothing
    rw [List.dropWhile_eq_nil_iff.mpr blank, trim, allBlank]
  · rw [trimRight_append_blanks blank, trim]

/-! ## Letter case -/

theorem toLower_eq_of_not_upper {byte mark : UInt8} (noLetter : isUpper mark = false)
    (noSmall : isLower mark = false) :
    toLower byte = mark ↔ byte = mark := by
  unfold toLower
  split
  · rename_i upper
    simp only [isUpper, isLower, Bool.and_eq_true, Bool.and_eq_false_iff, decide_eq_true_eq,
      decide_eq_false_iff_not, UInt8.le_iff_toNat_le, ← UInt8.toNat_inj, UInt8.toNat_add]
      at upper noLetter noSmall ⊢
    simp only [UInt8.reduceToNat] at upper noLetter noSmall ⊢
    omega
  · rfl

theorem isBlank_toLower (byte : UInt8) : isBlank (toLower byte) = isBlank byte := by
  have space : toLower byte = 0x20 ↔ byte = 0x20 := toLower_eq_of_not_upper rfl rfl
  have tab : toLower byte = 0x09 ↔ byte = 0x09 := toLower_eq_of_not_upper rfl rfl
  rw [Bool.eq_iff_iff]
  simp only [isBlank, Bool.or_eq_true, beq_iff_eq, space, tab]

theorem isTextual_toLower (byte : UInt8) : isTextual (toLower byte) = isTextual byte := by
  unfold toLower
  split
  · rename_i upper
    rw [Bool.eq_iff_iff]
    simp only [isUpper, isTextual, Bool.and_eq_true, Bool.or_eq_true, beq_iff_eq,
      decide_eq_true_eq, UInt8.le_iff_toNat_le, ← UInt8.toNat_inj, UInt8.toNat_add] at upper ⊢
    simp only [UInt8.reduceToNat] at upper ⊢
    omega
  · rfl

theorem isTextual_lowered (bytes : Bytes) :
    (∀ byte ∈ bytes.lowered, isTextual byte = true) ↔ ∀ byte ∈ bytes, isTextual byte = true := by
  simp only [lowered, List.forall_mem_map, isTextual_toLower]

theorem dropWhile_isBlank_lowered (bytes : Bytes) :
    bytes.lowered.dropWhile isBlank = lowered (bytes.dropWhile isBlank) := by
  have same : isBlank ∘ toLower = isBlank := funext isBlank_toLower
  simp only [lowered, List.dropWhile_map, same]

theorem trim_lowered (bytes : Bytes) : bytes.lowered.trim = bytes.trim.lowered := by
  have back (run : Bytes) : trimRight run.lowered = (trimRight run).lowered := by
    have front := dropWhile_isBlank_lowered run.reverse
    simp only [trimRight, lowered, ← List.map_reverse] at front ⊢
    rw [front, List.map_reverse]
  rw [trim, dropWhile_isBlank_lowered, back, trim]

/-! ## Elements -/

/-- The elements of a list, without the blanks around them. -/
def elements (value : Bytes) : List Bytes := (value.splitOn comma).map trim

/-- A comma stands between the elements before it and those behind it. -/
theorem elements_append_comma (front back : Bytes) :
    elements (front ++ comma :: back) = elements front ++ elements back := by
  simp only [elements, List.splitOn_append_cons_self, List.map_append]

theorem elements_of_no_comma {value : Bytes} (single : comma ∉ value) :
    elements value = [value.trim] := by
  rw [elements, List.splitOn_eq_singleton single, List.map_singleton]

theorem comma_not_mem_of_blank (blank : ∀ byte ∈ blanks, isBlank byte = true) :
    comma ∉ blanks := by
  intro member
  exact absurd (blank comma member) (by decide)

theorem elements_blanks_append (blank : ∀ byte ∈ blanks, isBlank byte = true) (value : Bytes) :
    elements (blanks ++ value) = elements value := by
  have single {run : Bytes} (none : comma ∉ run) :
      elements (blanks ++ run) = elements run := by
    have noneBefore : comma ∉ blanks ++ run := by
      rw [List.mem_append, not_or]
      exact ⟨comma_not_mem_of_blank blank, none⟩
    rw [elements_of_no_comma noneBefore, trim_blanks_append blank, elements_of_no_comma none]
  by_cases member : comma ∈ value
  · obtain ⟨first, others, rfl, none⟩ := List.eq_append_cons_of_mem member
    rw [← List.append_assoc, elements_append_comma, elements_append_comma, single none]
  · exact single member

theorem elements_append_blanks (blank : ∀ byte ∈ blanks, isBlank byte = true) (value : Bytes) :
    elements (value ++ blanks) = elements value := by
  induction splits : value.splitOn comma generalizing value with
  | nil =>
      exact absurd splits (List.splitOn_ne_nil _ _)
  | cons first others inductionHypothesis =>
      by_cases member : comma ∈ value
      · obtain ⟨front, back, rfl, none⟩ := List.eq_append_cons_of_mem member
        rw [List.splitOn_append_cons_self, List.splitOn_eq_singleton none, List.singleton_append,
          List.cons.injEq] at splits
        rw [List.append_assoc, List.cons_append, elements_append_comma, elements_append_comma,
          inductionHypothesis back splits.2]
      · have noneBehind : comma ∉ value ++ blanks := by
          rw [List.mem_append, not_or]
          exact ⟨member, comma_not_mem_of_blank blank⟩
        rw [elements_of_no_comma noneBehind, trim_append_blanks blank,
          elements_of_no_comma member]

theorem elements_trim (value : Bytes) : elements value.trim = elements value := by
  obtain ⟨front, back, whole, blankFront, blankBack⟩ := exists_blanks_trim value
  conv => rhs; rw [whole]
  rw [elements_blanks_append blankFront, elements_append_blanks blankBack]

theorem splitOn_lowered (bytes : Bytes) :
    bytes.lowered.splitOn comma = (bytes.splitOn comma).map lowered := by
  induction bytes with
  | nil =>
      rfl
  | cons byte others inductionHypothesis =>
      have sameMark : (toLower byte == comma) = (byte == comma) := by
        rw [Bool.eq_iff_iff, beq_iff_eq, beq_iff_eq]
        exact toLower_eq_of_not_upper rfl rfl
      have cut : lowered (byte :: others) = toLower byte :: lowered others := rfl
      rw [cut, List.splitOn_cons_eq_if_modifyHead, List.splitOn_cons_eq_if_modifyHead, sameMark,
        inductionHypothesis]
      split
      · rfl
      · cases others.splitOn comma with
        | nil =>
            rfl
        | cons piece pieces =>
            rfl

theorem elements_lowered (value : Bytes) :
    elements value.lowered = (elements value).map lowered := by
  rw [elements, splitOn_lowered, elements, List.map_map, List.map_map]
  exact List.map_congr_left fun piece _ => trim_lowered piece

end Bytes

/-! ## Layouts of one list -/

namespace ListLayout

open Bytes

/-- The same list, laid out otherwise in its lines. -/
inductive Step : List Bytes → List Bytes → Prop
  /-- The lines stand in another order. -/
  | order {values others : List Bytes} (permuted : values.Perm others) : Step values others
  /-- A line is cut at a comma into two lines. -/
  | cut (before after : List Bytes) (front back : Bytes) :
      Step (before ++ (front ++ comma :: back) :: after) (before ++ front :: back :: after)
  /-- Blanks are put before an element or behind one. -/
  | blanks (before after : List Bytes) (front blanks back : Bytes)
      (blank : ∀ byte ∈ blanks, isBlank byte = true)
      (outside : front = [] ∨ front.getLast? = some comma ∨ back = [] ∨ back.head? = some comma) :
      Step (before ++ (front ++ back) :: after) (before ++ (front ++ (blanks ++ back)) :: after)
  /-- A line is written in other letter case. -/
  | letters (before after : List Bytes) (value other : Bytes)
      (same : value.lowered = other.lowered) :
      Step (before ++ value :: after) (before ++ other :: after)

/-- Two layouts of one list: each comes from the other by steps, taken or taken back. -/
def Same : List Bytes → List Bytes → Prop := Relation.EqvGen Step

def IsTextual (values : List Bytes) : Prop :=
  ∀ value ∈ values, ∀ byte ∈ value, isTextual byte = true

instance (values : List Bytes) : Decidable (IsTextual values) :=
  inferInstanceAs (Decidable (∀ value ∈ values, ∀ byte ∈ value, isTextual byte = true))

variable {values others : List Bytes}

/-- Blanks before an element or behind one change no element. -/
theorem elements_insert_blanks {front back blanks : Bytes}
    (blank : ∀ byte ∈ blanks, isBlank byte = true)
    (outside : front = [] ∨ front.getLast? = some comma ∨ back = [] ∨ back.head? = some comma) :
    elements (front ++ (blanks ++ back)) = elements (front ++ back) := by
  rcases outside with rfl | opens | rfl | closes
  · exact elements_blanks_append blank back
  · obtain ⟨earlier, rfl⟩ := List.getLast?_eq_some_iff.mp opens
    rw [List.append_assoc, List.append_assoc, List.singleton_append, List.singleton_append,
      elements_append_comma, elements_append_comma, elements_blanks_append blank]
  · rw [List.append_nil, List.append_nil, elements_append_blanks blank]
  · obtain ⟨later, rfl⟩ := List.head?_eq_some_iff.mp closes
    rw [← List.append_assoc, elements_append_comma, elements_append_comma,
      elements_append_blanks blank]

/-- A step changes no element but its place and its letter case. -/
theorem Step.elements (step : Step values others) :
    ((values.flatMap Bytes.elements).map lowered).Perm
      ((others.flatMap Bytes.elements).map lowered) := by
  cases step with
  | order permuted =>
      exact (permuted.flatMap_right _).map _
  | cut before after front back =>
      simp only [List.flatMap_append, List.flatMap_cons, elements_append_comma,
        List.append_assoc]
      exact List.Perm.refl _
  | blanks before after front blanks back blank outside =>
      simp only [List.flatMap_append, List.flatMap_cons, elements_insert_blanks blank outside]
      exact List.Perm.refl _
  | letters before after value other same =>
      simp only [List.flatMap_append, List.flatMap_cons, List.map_append, ← elements_lowered, same]
      exact List.Perm.refl _

/-- A step adds no octet but blanks and commas, and takes none but these. -/
theorem Step.isTextual_iff (step : Step values others) : IsTextual values ↔ IsTextual others := by
  cases step with
  | order permuted =>
      exact forall_congr' fun value => imp_congr_left permuted.mem_iff
  | cut before after front back =>
      have mark : isTextual comma = true := by decide
      simp only [IsTextual, List.forall_mem_append, List.forall_mem_cons, mark, true_and,
        and_assoc]
  | blanks before after front blanks back blank outside =>
      have textual : ∀ byte ∈ blanks, isTextual byte = true :=
        fun byte member => isTextual_of_isBlank (blank byte member)
      simp only [IsTextual, List.forall_mem_append, List.forall_mem_cons, eq_true textual,
        true_and]
  | letters before after value other same =>
      have line := isTextual_lowered value
      rw [same, isTextual_lowered] at line
      simp only [IsTextual, List.forall_mem_append, List.forall_mem_cons, line]

/-- Where every step leads to something equivalent, all layouts of a list are equivalent. -/
theorem Same.of_step {related : List Bytes → List Bytes → Prop} (equivalence : Equivalence related)
    (kept : ∀ values others, Step values others → related values others)
    (same : Same values others) :
    related values others := by
  induction same with
  | rel values others step =>
      exact kept values others step
  | refl values =>
      exact equivalence.refl values
  | symm _ _ _ inductionHypothesis =>
      exact equivalence.symm inductionHypothesis
  | trans _ _ _ _ _ first second =>
      exact equivalence.trans first second

/-- However a list is laid out, its elements are the same, letter case and order aside. -/
theorem Same.elements (same : Same values others) :
    ((values.flatMap Bytes.elements).map lowered).Perm
      ((others.flatMap Bytes.elements).map lowered) := by
  have equivalence : Equivalence fun values others : List Bytes =>
      ((values.flatMap Bytes.elements).map lowered).Perm
        ((others.flatMap Bytes.elements).map lowered) :=
    ⟨fun _ => List.Perm.refl _, List.Perm.symm, List.Perm.trans⟩
  have kept := same.of_step equivalence fun _ _ => Step.elements
  exact kept

theorem Same.isTextual_iff (same : Same values others) : IsTextual values ↔ IsTextual others := by
  have equivalence : Equivalence fun values others => IsTextual values ↔ IsTextual others :=
    ⟨fun _ => Iff.rfl, Iff.symm, Iff.trans⟩
  exact same.of_step equivalence fun _ _ => Step.isTextual_iff

end ListLayout

end HttpServer
