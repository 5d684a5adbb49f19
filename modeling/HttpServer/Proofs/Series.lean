import HttpServer.Metrics
import HttpServer.Proofs.WrittenNumbers
import Mathlib.Algebra.BigOperators.Group.List.Basic
import Mathlib.Algebra.Ring.Int.Defs

/-!
# What the series of a registry show

The value of a series is the sum of all changes to it, in whatever order they have been recorded.
The series of the server itself have names of their own, one for each status, so that none of them
is changed by what another one counts.
-/

namespace HttpServer

namespace Metric

/-- The series that a change belongs to. -/
def series (metric : Metric) : String := metric.change.1

/-- By how much a metric changes a series. -/
def amount (series : String) (metric : Metric) : Int :=
  if metric.series = series then metric.change.2 else 0

end Metric

namespace Registry

/-! ## The value of a series -/

/-- The value of a series, which is zero as long as nothing has touched it. -/
def total (registry : Registry) (series : String) : Int := (registry.value? series).getD 0

theorem total_cons (entry : String × Int) (rest : Registry) (series : String) :
    total (entry :: rest) series = if entry.1 = series then entry.2 else total rest series := by
  unfold total value?
  by_cases same : entry.1 = series
  · simp [same]
  · simp [same]

theorem total_add (registry : Registry) (name : String) (amount : Int) (series : String) :
    (registry.add name amount).total series =
      registry.total series + if name = series then amount else 0 := by
  induction registry with
  | nil =>
      rw [add, total_cons]
      simp [total, value?]
  | cons entry rest inductionHypothesis =>
      rw [add]
      by_cases found : entry.1 = name
      · rw [if_pos found, total_cons, total_cons, found]
        by_cases same : name = series
        · simp [same]
        · simp [same]
      · rw [if_neg found, total_cons, total_cons, inductionHypothesis]
        by_cases same : entry.1 = series
        · have different : name ≠ series := fun equal => found (same.trans equal.symm)
          simp [same, different]
        · simp [same]

/-- The value of a series is the sum of the changes to it. -/
theorem total_ofMetrics (metrics : List Metric) (series : String) :
    (ofMetrics metrics).total series = (metrics.map (Metric.amount series)).sum := by
  suffices general : ∀ registry : Registry, (metrics.foldl record registry).total series =
      registry.total series + (metrics.map (Metric.amount series)).sum by
    exact (general []).trans (zero_add _)
  induction metrics with
  | nil =>
      intro registry
      simp
  | cons metric rest inductionHypothesis =>
      intro registry
      rw [List.foldl_cons, inductionHypothesis, record, total_add, List.map_cons, List.sum_cons,
        add_assoc]
      rfl

theorem total_append (front rest : List Metric) (series : String) :
    (ofMetrics (front ++ rest)).total series =
      (ofMetrics front).total series + (ofMetrics rest).total series := by
  simp only [total_ofMetrics, List.map_append, List.sum_append]

theorem total_of_perm {metrics others : List Metric} (same : metrics.Perm others)
    (series : String) :
    (ofMetrics metrics).total series = (ofMetrics others).total series := by
  simp only [total_ofMetrics]
  exact (same.map (Metric.amount series)).sum_eq

theorem total_singleton (metric : Metric) (series : String) :
    (ofMetrics [metric]).total series = metric.amount series := by
  rw [total_ofMetrics, List.map_singleton, List.sum_singleton]

end Registry

/-! ## The names of the series -/

namespace Metric

theorem amount_self (metric : Metric) : metric.amount metric.series = metric.change.2 :=
  if_pos rfl

theorem amount_of_ne {metric : Metric} {series : String} (different : metric.series ≠ series) :
    metric.amount series = 0 :=
  if_neg different

/-- A label value without marks that would end it stands as it is. -/
theorem escapeLabel_of_digits {value : String}
    (digits : ∀ character ∈ value.toList, character.isDigit = true) :
    escapeLabel value = value := by
  conv => rhs; rw [← String.ofList_toList (s := value)]
  unfold escapeLabel
  congr 1
  generalize value.toList = characters at digits
  induction characters with
  | nil => rfl
  | cons first rest inductionHypothesis =>
      rw [List.flatMap_cons, inductionHypothesis fun character member =>
        digits character (List.mem_cons_of_mem first member)]
      have isDigit := digits first List.mem_cons_self
      split
      · exact absurd isDigit (by decide)
      · exact absurd isDigit (by decide)
      · exact absurd isDigit (by decide)
      · rfl

theorem escapeLabel_toString (number : Nat) : escapeLabel (toString number) = toString number := by
  apply escapeLabel_of_digits
  intro character member
  change character ∈ (Nat.repr number).toList at member
  rw [Nat.toList_repr] at member
  exact Nat.isDigit_of_mem_toDigits (by decide) (by decide) member

theorem series_responded_inj {status other : Nat} :
    (responded status).series = (responded other).series ↔ status = other := by
  unfold series change labelled
  simp only [escapeLabel_toString]
  rw [String.append_left_inj, String.append_right_inj]
  exact Numeral.toString_inj

theorem series_responded_ne {name : String}
    (begins : ¬ "conveyor_requests_total".toList <+: name.toList) (status : Nat) :
    (responded status).series ≠ name := by
  rintro rfl
  apply begins
  unfold series change labelled
  simp only [String.toList_append, List.append_assoc]
  exact List.prefix_append _ _

end Metric

namespace Registry

/-- What the responses have counted in the series of one status. -/
theorem total_responded (statuses : List Nat) (status : Nat) :
    (ofMetrics (statuses.map Metric.responded)).total (Metric.responded status).series =
      statuses.count status := by
  rw [total_ofMetrics]
  induction statuses with
  | nil => rfl
  | cons first rest inductionHypothesis =>
      rw [List.map_cons, List.map_cons, List.sum_cons, inductionHypothesis, List.count_cons]
      by_cases same : first = status
      · subst same
        rw [Metric.amount_self, if_pos (beq_self_eq_true first)]
        push_cast
        exact add_comm _ _
      · rw [Metric.amount_of_ne (Metric.series_responded_inj.not.mpr same),
          if_neg (beq_iff_eq.not.mpr same), zero_add, Nat.add_zero]

theorem total_responded_of_ne (statuses : List Nat) {name : String}
    (begins : ¬ "conveyor_requests_total".toList <+: name.toList) :
    (ofMetrics (statuses.map Metric.responded)).total name = 0 := by
  rw [total_ofMetrics, List.map_map]
  refine List.sum_eq_zero ?_
  simp only [List.mem_map, Function.comp_apply]
  rintro _ ⟨status, -, rfl⟩
  exact Metric.amount_of_ne (Metric.series_responded_ne begins status)

end Registry

end HttpServer
