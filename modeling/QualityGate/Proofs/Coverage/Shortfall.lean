import QualityGate.Proofs.Coverage.Percentage
import QualityGate.Proofs.Text.Blank
import QualityGate.Proofs.Violation.Order
import Mathlib.Data.String.Basic
import Mathlib.Tactic

/-!
Reports evaluated against several policies. A policy that asks for less passes whatever passes, and
lists a front of the units that the stricter one lists; a report that covers more passes whatever
passes.

* `filter_mergeSort`: sorting some of the members of a list gives these members of the sorted list.
* `CoverageReport.unitsBelow`: the units whose line coverage is below a threshold.
* `ThresholdPolicy.shortfalls_eq`: the shortfalls are these units, sorted.
* `ThresholdPolicy.shortfalls_prefix`: those of a smaller threshold come first.
* **`ThresholdPolicy.evaluate_monotone`**: what passes with one policy or report passes with others.
-/

namespace QualityGate

/-! ### Sorting -/

section Sorting

variable {α : Type} {le : α → α → Bool}
  (htrans : ∀ a b c, le a b = true → le b c = true → le a c = true)
  (htotal : ∀ a b, (le a b || le b a) = true)

include htrans htotal

/-- Where a new first member of a list comes when the list is sorted: after what it is not before,
and in front of everything else. -/
lemma exists_mergeSort_cons (a : α) (l : List α) :
    ∃ front back, (a :: l).mergeSort le = front ++ a :: back ∧ l.mergeSort le = front ++ back ∧
      (∀ b ∈ front, le a b = false) ∧ ∀ b ∈ back, le a b = true := by
  obtain ⟨front, back, hcons, hl, hfront⟩ := List.mergeSort_cons htrans htotal a l
  have hsorted := List.pairwise_mergeSort htrans htotal (a :: l)
  rw [hcons] at hsorted
  have hback := (List.pairwise_cons.1 (List.pairwise_append.1 hsorted).2.1).1
  exact ⟨front, back, hcons, hl, fun b hb => by simpa using hfront b hb, hback⟩

/-- **Sorting some of the members of a list** gives these members of the sorted list. -/
theorem filter_mergeSort (p : α → Bool) (l : List α) :
    (l.mergeSort le).filter p = (l.filter p).mergeSort le := by
  induction l with
  | nil => simp
  | cons a l ih =>
      obtain ⟨front, back, hcons, hl, hfront, hback⟩ := exists_mergeSort_cons htrans htotal a l
      rw [hl, List.filter_append] at ih
      rw [hcons, List.filter_append]
      by_cases ha : p a = true
      · obtain ⟨front', back', hcons', hl', hfront', hback'⟩ :=
          exists_mergeSort_cons htrans htotal a (l.filter p)
        rw [hl'] at ih
        -- the new member comes before what is kept of the back, and not of the front
        obtain ⟨hf, hb⟩ := append_inj_of_run ih (fun b hb => hback b (List.mem_of_mem_filter hb))
          hback' (fun b hb => hfront b (List.mem_of_mem_filter (List.mem_of_getLast? hb)))
          fun b hb => hfront' b (List.mem_of_getLast? hb)
        rw [List.filter_cons_of_pos ha, List.filter_cons_of_pos ha, hcons', hf, hb]
      · rw [List.filter_cons_of_neg ha, List.filter_cons_of_neg ha, ih]

end Sorting

/-! ### Units below a threshold -/

namespace Shortfall

/-- The order of shortfalls. -/
def order (a b : Shortfall) : Ordering :=
  (compare a.percentage b.percentage).then (compare a.name b.name)

instance : Std.TransCmp order :=
  inferInstanceAs (Std.TransCmp (compareLex (compareOn percentage) (compareOn name)))

/-- A smaller percentage comes first, and of two equal percentages the one with the smaller name. -/
def InOrder (a b : Shortfall) : Prop :=
  a.percentage < b.percentage ∨ a.percentage = b.percentage ∧ a.name ≤ b.name

lemma inOrder_iff {a b : Shortfall} : a.order b ≠ .gt ↔ a.InOrder b := by
  have hname : compare a.name b.name ≠ .gt ↔ a.name ≤ b.name := by
    rw [ne_eq, compare_gt_iff_gt, not_lt]
  unfold order InOrder
  rcases lt_trichotomy a.percentage b.percentage with hlt | heq | hgt
  · simp [Std.compare_eq_lt.2 hlt, hlt]
  · simp [heq, hname]
  · simp [Std.compare_eq_gt.2 hgt, hgt.le, hgt.ne']

end Shortfall

/-- The line coverage of a unit, if it has any. -/
def CoverageUnit.lineCoverage? (u : CoverageUnit) : Option Shortfall :=
  (counterOf? .line u.counters).map fun c => ⟨u.name, c⟩

/-- The units of a report whose line coverage is below a threshold, in the order of the report. -/
def CoverageReport.unitsBelow (r : CoverageReport) (threshold : ℕ) : List Shortfall :=
  (r.units.filterMap CoverageUnit.lineCoverage?).filter fun s => s.percentage < threshold

/-- The units below a threshold are those that are a shortfall. -/
lemma CoverageReport.filterMap_shortfall? (r : CoverageReport) (threshold : ℕ) :
    r.units.filterMap (CoverageUnit.shortfall? threshold) = r.unitsBelow threshold := by
  rw [unitsBelow, List.filter_filterMap]
  refine List.filterMap_congr fun u _ => ?_
  rw [CoverageUnit.shortfall?, CoverageUnit.lineCoverage?]
  cases counterOf? .line u.counters with
  | none => rfl
  | some c => by_cases hlow : c.percentage < threshold <;>
      simp [Option.filter, Shortfall.percentage, hlow]

/-- The units below a threshold are some of those below a larger one. -/
lemma CoverageReport.filter_unitsBelow (r : CoverageReport) {t t' : ℕ} (h : t ≤ t') :
    (r.unitsBelow t').filter (fun s => s.percentage < t) = r.unitsBelow t := by
  rw [unitsBelow, List.filter_filter, unitsBelow]
  refine List.filter_congr fun s _ => ?_
  simp
  omega

namespace ThresholdPolicy

/-- **The shortfalls** are the units below the line threshold, sorted. -/
theorem shortfalls_eq (p : ThresholdPolicy) (r : CoverageReport) :
    p.shortfalls r = (r.unitsBelow (p.threshold .line)).mergeSort fun a b => a.order b != .gt := by
  rw [shortfalls, r.filterMap_shortfall?]
  rfl

variable {p p' : ThresholdPolicy} {r : CoverageReport}

/-- The shortfalls are in order. -/
lemma pairwise_shortfalls (p : ThresholdPolicy) (r : CoverageReport) :
    (p.shortfalls r).Pairwise Shortfall.InOrder := by
  rw [shortfalls_eq]
  exact (pairwise_mergeSort_of_transCmp Shortfall.order _).imp fun h => Shortfall.inOrder_iff.1 h

/-- Some of the shortfalls are some of the units below the threshold, sorted. -/
lemma filter_shortfalls (p : ThresholdPolicy) (r : CoverageReport) (q : Shortfall → Bool) :
    (p.shortfalls r).filter q =
      ((r.unitsBelow (p.threshold .line)).filter q).mergeSort fun a b => a.order b != .gt := by
  rw [shortfalls_eq]
  exact filter_mergeSort (ne_gt_trans Shortfall.order) (ne_gt_total Shortfall.order) q _

/-- Units of one percentage and one name are listed in the order of the report. -/
lemma filter_shortfalls_of_tie (p : ThresholdPolicy) (r : CoverageReport) (percentage : ℕ)
    (name : String) :
    (p.shortfalls r).filter (fun s => s.percentage = percentage ∧ s.name = name) =
      (r.unitsBelow (p.threshold .line)).filter
        fun s => s.percentage = percentage ∧ s.name = name := by
  rw [filter_shortfalls]
  refine List.mergeSort_of_pairwise (List.pairwise_of_forall_mem_list fun a ha b hb => ?_)
  have ha := of_decide_eq_true (List.mem_filter.1 ha).2
  have hb := of_decide_eq_true (List.mem_filter.1 hb).2
  simp [Shortfall.order, ha, hb]

/-- The members of a sorted list with a small percentage are its first ones. -/
lemma filter_prefix_of_inOrder {ss : List Shortfall} (h : ss.Pairwise Shortfall.InOrder) (t : ℕ) :
    ss.filter (fun s => s.percentage < t) <+: ss := by
  induction ss with
  | nil => exact List.prefix_rfl
  | cons s ss ih =>
      obtain ⟨hs, hss⟩ := List.pairwise_cons.1 h
      by_cases hlow : s.percentage < t
      · rw [List.filter_cons_of_pos (by simpa using hlow)]
        exact List.cons_prefix_cons.2 ⟨rfl, ih hss⟩
      · have hnone : (s :: ss).filter (fun s => s.percentage < t) = [] := by
          rw [List.filter_eq_nil_iff]
          intro u hu
          rcases List.mem_cons.1 hu with rfl | hu
          · simpa using hlow
          · have := hs u hu
            simp only [Shortfall.InOrder] at this
            simp
            omega
        rw [hnone]
        exact List.nil_prefix

/-- **The shortfalls of a smaller threshold** come first among those of a larger one. -/
theorem shortfalls_prefix (h : p.threshold .line ≤ p'.threshold .line) (r : CoverageReport) :
    p.shortfalls r <+: p'.shortfalls r := by
  have hfront := filter_prefix_of_inOrder (p'.pairwise_shortfalls r) (p.threshold .line)
  rwa [filter_shortfalls, r.filter_unitsBelow h, ← shortfalls_eq] at hfront

end ThresholdPolicy

/-! ### Summaries -/

/-- What passes in the second summary passes in the first: metric by metric, and as a whole. -/
structure CoverageSummary.PassesWith (s s' : CoverageSummary) : Prop where
  metrics : List.Forall₂ (fun x x' => x.metric = x'.metric ∧ (x'.passed = true → x.passed = true))
    s.metrics s'.metrics
  summary : s'.passed = true → s.passed = true

/-- A metric passes with a smaller threshold and a larger percentage. -/
lemma MetricResult.passed_of_le {c c' : Counter} {t t' : ℕ} (hthreshold : t ≤ t')
    (hpercentage : c'.percentage ≤ c.percentage) (h : passed ⟨c', t'⟩ = true) :
    passed ⟨c, t⟩ = true := by
  rw [passed_iff] at h ⊢
  rcases h with hfree | hreached
  · exact .inl (decide_eq_false fun hpos => of_decide_eq_false hfree (hpos.trans_le hthreshold))
  · exact .inr (hthreshold.trans (hreached.trans hpercentage))

/-- A recorded counter is the total of its metric, and the other totals are as they were. -/
lemma CoverageReport.total_recordCounter (r : CoverageReport) (c : Counter) (m : Metric) :
    CoverageReport.total { r with totals := recordCounter c r.totals } m =
      if c.metric = m then c else r.total m := by
  rw [total, total, counterOf?_recordCounter]
  split_ifs <;> rfl

namespace ThresholdPolicy

variable {p p' : ThresholdPolicy} {r r' : CoverageReport}

/-- With smaller thresholds and larger percentages everything passes that passed. -/
theorem passesWith_evaluate (hthreshold : ∀ m, p.threshold m ≤ p'.threshold m)
    (hpercentage : ∀ m, (r'.total m).percentage ≤ (r.total m).percentage) :
    (p.evaluate r).PassesWith (p'.evaluate r') := by
  have hpassed (m : Metric) (h : MetricResult.passed ⟨r'.total m, p'.threshold m⟩ = true) :
      MetricResult.passed ⟨r.total m, p.threshold m⟩ = true :=
    MetricResult.passed_of_le (hthreshold m) (hpercentage m) h
  constructor
  · rw [evaluate, evaluate, List.forall₂_map_left_iff, List.forall₂_map_right_iff,
      List.forall₂_same]
    exact fun m _ => ⟨(r.metric_total m).trans (r'.metric_total m).symm, hpassed m⟩
  · simp only [CoverageSummary.passed, evaluate, List.all_map, List.all_eq_true]
    exact fun h m hm => hpassed m (h m hm)

/-- **What a policy and a report pass.** With smaller thresholds every metric and every summary
passes that passed, and the shortfalls are the first ones of those there were. The shortfalls are
the units with too little line coverage, the lowest percentage first, then by name, and units that
tie in both in the order of the report. A total that covers more and misses less makes nothing
fail. -/
theorem evaluate_monotone (r : CoverageReport) :
    (∀ p p' : ThresholdPolicy, (∀ m, p.threshold m ≤ p'.threshold m) →
      (p.evaluate r).PassesWith (p'.evaluate r) ∧
        (p.evaluate r).shortfalls <+: (p'.evaluate r).shortfalls) ∧
    (∀ p : ThresholdPolicy,
      (p.evaluate r).shortfalls.Perm (r.unitsBelow (p.threshold .line)) ∧
      (p.evaluate r).shortfalls.Pairwise Shortfall.InOrder ∧
      ∀ percentage name,
        (p.evaluate r).shortfalls.filter (fun s => s.percentage = percentage ∧ s.name = name) =
          (r.unitsBelow (p.threshold .line)).filter
            fun s => s.percentage = percentage ∧ s.name = name) ∧
    ∀ (p : ThresholdPolicy) (c : Counter), (r.total c.metric).covered ≤ c.covered →
      c.missed ≤ (r.total c.metric).missed →
        (p.evaluate { r with totals := recordCounter c r.totals }).PassesWith (p.evaluate r) := by
  refine ⟨fun p p' h => ⟨?_, shortfalls_prefix (h .line) r⟩, fun p => ⟨?_, ?_, ?_⟩, ?_⟩
  · exact passesWith_evaluate h fun _ => le_rfl
  · rw [← r.filterMap_shortfall?]
    exact p.shortfalls_perm r
  · exact p.pairwise_shortfalls r
  · exact p.filter_shortfalls_of_tie r
  · intro p c hcovered hmissed
    refine passesWith_evaluate (fun _ => le_rfl) fun m => ?_
    rw [r.total_recordCounter]
    split_ifs with hm
    · subst hm
      exact Counter.percentage_mono hcovered hmissed
    · exact le_rfl

/-- A report with two units of one name and one percentage, between them a unit with more coverage,
and a unit without lines. -/
def tiedReport : CoverageReport where
  totals := [⟨.line, 2, 8⟩, ⟨.branch, 3, 3⟩]
  units := [⟨"b", [⟨.line, 1, 1⟩]⟩, ⟨"a", [⟨.line, 1, 3⟩]⟩, ⟨"c", [⟨.branch, 1, 0⟩]⟩,
    ⟨"b", [⟨.line, 2, 2⟩]⟩]

/-- Half of the lines, or four fifths of them. -/
theorem evaluate_monotone_tiedReport :
    let loose := empty.set .line 60
    let strict := empty.set .line 80
    (∀ m, loose.threshold m ≤ strict.threshold m) ∧
      (strict.evaluate tiedReport).passed = true ∧ (loose.evaluate tiedReport).passed = true ∧
      (loose.evaluate tiedReport).shortfalls <+: (strict.evaluate tiedReport).shortfalls ∧
      (strict.evaluate tiedReport).shortfalls.filter
        (fun s => s.percentage = 50 ∧ s.name = "b") = [⟨"b", ⟨.line, 1, 1⟩⟩, ⟨"b", ⟨.line, 2, 2⟩⟩] ∧
      (strict.evaluate { tiedReport with
        totals := recordCounter ⟨.line, 1, 9⟩ tiedReport.totals }).passed = true := by
  intro loose strict
  obtain ⟨hpolicies, hshortfalls, hreports⟩ := evaluate_monotone tiedReport
  have hle : ∀ m, loose.threshold m ≤ strict.threshold m := by rintro (_ | _ | _ | _) <;> decide
  have hpassed : (strict.evaluate tiedReport).passed = true := by decide
  refine ⟨hle, hpassed, (hpolicies _ _ hle).1.summary hpassed, (hpolicies _ _ hle).2, ?_,
    (hreports strict ⟨.line, 1, 9⟩ (by decide) (by decide)).summary hpassed⟩
  rw [(hshortfalls strict).2.2 50 "b"]
  decide

end ThresholdPolicy

end QualityGate
