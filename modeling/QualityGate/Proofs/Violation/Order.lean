import QualityGate.Verdict.Collector
import Mathlib.Tactic

/-!
The order of reports. Violations are compared by path, line, rule and message, notices by path. Both
comparisons are total and transitive, so sorting puts a list in order; where no two members tie, the
sorted list is the same whatever the order of the list before.

* `Violation.order_eq_iff`: a tie is a tie in each of the four parts, in the path component by
  component.
* `Violation.pairwise_sort`: without ties, a sorted list is strictly in order.
* `Violation.sort_eq_of_perm`, `Collector.sortNotices_eq_of_perm`: without ties, sorting forgets the
  order in which things were recorded.
-/

namespace QualityGate

/-! ### Comparisons -/

instance : Std.TransCmp Path.order :=
  inferInstanceAs (Std.TransCmp (compareOn fun p : Path => p.components.map Path.Component.code))

instance : Std.TransCmp Violation.order :=
  inferInstanceAs (Std.TransCmp
    (compareLex
      (compareLex (compareOn fun v : Violation => v.path.components.map Path.Component.code)
        (compareOn Violation.line))
      (compareLex (compareOn Violation.rule) (compareOn Violation.message))))

/-- Violations tie exactly if their paths have the same components and they agree in line, rule and
message. -/
lemma Violation.order_eq_iff {a b : Violation} :
    a.order b = .eq ↔
      a.path.components = b.path.components ∧ a.line = b.line ∧ a.rule = b.rule ∧
        a.message = b.message := by
  simp only [Violation.order, Ordering.then_eq_eq, Path.order_eq_iff, Std.compare_eq_iff_eq,
    and_assoc]

section Sorting

variable {α : Type} (cmp : α → α → Ordering) [Std.TransCmp cmp]

/-- Not to come after another member is a transitive relation. -/
lemma ne_gt_trans (a b c : α) (hab : (cmp a b != .gt) = true) (hbc : (cmp b c != .gt) = true) :
    (cmp a c != .gt) = true := by
  have hab' : (cmp a b).isLE = true := by simpa [Ordering.isLE_iff_ne_gt] using hab
  have hbc' : (cmp b c).isLE = true := by simpa [Ordering.isLE_iff_ne_gt] using hbc
  simpa [Ordering.isLE_iff_ne_gt] using Std.TransCmp.isLE_trans hab' hbc'

/-- Of two members one does not come after the other. -/
lemma ne_gt_total (a b : α) : (cmp a b != .gt || cmp b a != .gt) = true := by
  have hsymm : cmp a b = (cmp b a).swap := Std.OrientedCmp.eq_swap
  cases hba : cmp b a <;> simp [hsymm, hba]

/-- A comparison that is total and transitive gives a relation to sort by. -/
lemma pairwise_mergeSort_of_transCmp (xs : List α) :
    (xs.mergeSort fun a b => cmp a b != .gt).Pairwise fun a b => cmp a b ≠ .gt :=
  (List.pairwise_mergeSort (ne_gt_trans cmp) (ne_gt_total cmp) xs).imp fun h => by simpa using h

end Sorting

/-- Members that are in order and do not tie are strictly in order. -/
lemma pairwise_lt_of_pairwise_ne {α : Type} {cmp : α → α → Ordering} {xs : List α}
    (hsorted : xs.Pairwise fun a b => cmp a b ≠ .gt)
    (hties : xs.Pairwise fun a b => cmp a b ≠ .eq) : xs.Pairwise fun a b => cmp a b = .lt := by
  refine (hsorted.and hties).imp fun {a b} h => ?_
  cases hab : cmp a b with
  | lt => rfl
  | eq => exact absurd hab h.2
  | gt => exact absurd hab h.1

/-- The absence of ties does not depend on the order of a list. -/
lemma pairwise_ne_of_perm {α : Type} {cmp : α → α → Ordering} [Std.TransCmp cmp] {xs ys : List α}
    (h : xs.Perm ys) (hties : xs.Pairwise fun a b => cmp a b ≠ .eq) :
    ys.Pairwise fun a b => cmp a b ≠ .eq := by
  refine (h.pairwise_iff fun {a b} hab hba => hab ?_).1 hties
  exact Std.OrientedCmp.eq_comm.1 hba

/-- Lists with the same members that are strictly in order are equal. -/
lemma eq_of_perm_of_pairwise_lt {α : Type} {cmp : α → α → Ordering} [Std.TransCmp cmp]
    {xs ys : List α} (h : xs.Perm ys) (hx : xs.Pairwise fun a b => cmp a b = .lt)
    (hy : ys.Pairwise fun a b => cmp a b = .lt) : xs = ys := by
  refine h.eq_of_pairwise (fun a b _ _ hab hba => ?_) hx hy
  have hsymm : cmp a b = (cmp b a).swap := Std.OrientedCmp.eq_swap
  rw [hsymm, hba] at hab
  cases hab

/-! ### Sorted reports -/

namespace Violation

/-- Without ties, a sorted list is strictly in the order of reports. -/
theorem pairwise_sort {vs : List Violation} (hties : vs.Pairwise fun a b => a.order b ≠ .eq) :
    (sort vs).Pairwise fun a b => a.order b = .lt :=
  pairwise_lt_of_pairwise_ne (pairwise_mergeSort_of_transCmp order vs)
    (pairwise_ne_of_perm (sort_perm vs).symm hties)

/-- Without ties, sorting forgets the order of a list. -/
theorem sort_eq_of_perm {vs ws : List Violation} (h : vs.Perm ws)
    (hties : vs.Pairwise fun a b => a.order b ≠ .eq) : sort vs = sort ws := by
  refine eq_of_perm_of_pairwise_lt ?_ (pairwise_sort hties)
    (pairwise_sort (pairwise_ne_of_perm h hties))
  exact (sort_perm vs).trans (h.trans (sort_perm ws).symm)

end Violation

namespace Collector

/-- The order of notices. -/
def noticeOrder (a b : Notice) : Ordering := a.path.order b.path

instance : Std.TransCmp noticeOrder :=
  inferInstanceAs (Std.TransCmp
    (compareOn fun n : Notice => n.path.components.map Path.Component.code))

/-- Without ties, sorted notices are strictly in the order of their paths. -/
theorem pairwise_sortNotices {ns : List Notice}
    (hties : ns.Pairwise fun a b => noticeOrder a b ≠ .eq) :
    (sortNotices ns).Pairwise fun a b => noticeOrder a b = .lt :=
  pairwise_lt_of_pairwise_ne (pairwise_mergeSort_of_transCmp noticeOrder ns)
    (pairwise_ne_of_perm (List.mergeSort_perm ns _).symm hties)

/-- Without ties, sorting notices forgets the order of a list. -/
theorem sortNotices_eq_of_perm {ns ms : List Notice} (h : ns.Perm ms)
    (hties : ns.Pairwise fun a b => noticeOrder a b ≠ .eq) : sortNotices ns = sortNotices ms := by
  refine eq_of_perm_of_pairwise_lt ?_ (pairwise_sortNotices hties)
    (pairwise_sortNotices (pairwise_ne_of_perm h hties))
  exact (List.mergeSort_perm ns _).trans (h.trans (List.mergeSort_perm ms _).symm)

end Collector

end QualityGate
