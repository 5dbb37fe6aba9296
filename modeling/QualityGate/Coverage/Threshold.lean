import QualityGate.Coverage.Report

/-!
Thresholds. A policy asks for a percentage of each metric; zero asks for nothing, and the metric is
only reported. A report is evaluated against a policy metric by metric, and the units whose line
coverage is too low are listed, the lowest first.

* `MetricResult.passed_iff`: a metric passes exactly if nothing is asked or enough is covered.
* `ThresholdPolicy.shortfalls_perm`: the list of units is complete.
-/

namespace QualityGate

/-- The percentage that each metric has to reach. -/
structure ThresholdPolicy where
  threshold : Metric → Nat
  threshold_le : ∀ m, threshold m ≤ 100

namespace ThresholdPolicy

/-- The policy that asks for nothing. -/
def empty : ThresholdPolicy := ⟨fun _ => 0, fun _ => Nat.zero_le _⟩

/-- A policy with another threshold for one metric; more than one hundred percent is taken as one
hundred. -/
def set (p : ThresholdPolicy) (m : Metric) (percent : Nat) : ThresholdPolicy where
  threshold n := if n = m then min percent 100 else p.threshold n
  threshold_le n := by
    by_cases h : n = m
    · rw [if_pos h]
      exact Nat.min_le_right _ _
    · simp [h, p.threshold_le n]

/-- The threshold for lines, unless another one is given. -/
def defaultLine : Nat := 80

/-- The threshold for branches, unless another one is given. -/
def defaultBranch : Nat := 70

/-- The policy that applies unless another one is given. -/
def standard : ThresholdPolicy := (empty.set .line defaultLine).set .branch defaultBranch

/-- What is set for a metric is asked for, up to one hundred percent. -/
theorem threshold_set (p : ThresholdPolicy) (m n : Metric) (percent : Nat) :
    (p.set m percent).threshold n = if n = m then min percent 100 else p.threshold n := rfl

end ThresholdPolicy

/-- What became of a metric. -/
structure MetricResult where
  counter : Counter
  threshold : Nat
  deriving DecidableEq, Repr

namespace MetricResult

/-- The metric. -/
def metric (r : MetricResult) : Metric := r.counter.metric

/-- Covered items in percent. -/
def percentage (r : MetricResult) : Nat := r.counter.percentage

/-- Whether the metric takes part in the decision. -/
def isGating (r : MetricResult) : Bool := 0 < r.threshold

/-- Nothing is asked, or the threshold is reached. -/
def passed (r : MetricResult) : Bool := r.threshold = 0 || r.threshold ≤ r.percentage

/-- A metric passes exactly if it takes no part in the decision or reaches its threshold. -/
theorem passed_iff (r : MetricResult) :
    r.passed = true ↔ r.isGating = false ∨ r.threshold ≤ r.percentage := by
  simp [passed, isGating]

end MetricResult

/-- A unit with too little line coverage. -/
structure Shortfall where
  name : String
  counter : Counter
  deriving DecidableEq, Repr

namespace Shortfall

/-- The line coverage in percent. -/
def percentage (s : Shortfall) : Nat := s.counter.percentage

/-- Not after in the list of shortfalls, which is ordered by percentage and name. -/
def notAfter (a b : Shortfall) : Bool :=
  ((compare a.percentage b.percentage).then (compare a.name b.name)) != .gt

end Shortfall

/-- A report evaluated against a policy. -/
structure CoverageSummary where
  metrics : List MetricResult
  shortfalls : List Shortfall
  deriving DecidableEq, Repr

namespace CoverageSummary

/-- The metrics below their thresholds. -/
def failures (s : CoverageSummary) : List MetricResult := s.metrics.filter fun r => !r.passed

/-- All metrics reach their thresholds. -/
def passed (s : CoverageSummary) : Bool := s.metrics.all MetricResult.passed

/-- A summary passes exactly if no metric is below its threshold. -/
theorem passed_iff (s : CoverageSummary) : s.passed = true ↔ s.failures = [] := by
  simp [passed, failures, List.filter_eq_nil_iff]

end CoverageSummary

/-- The unit as a shortfall, if its line coverage is below the threshold. A unit without lines is
none. -/
def CoverageUnit.shortfall? (threshold : Nat) (u : CoverageUnit) : Option Shortfall :=
  ((counterOf? .line u.counters).filter fun c => c.percentage < threshold).map fun c => ⟨u.name, c⟩

/-- The units below the line threshold, the lowest percentage first. -/
def ThresholdPolicy.shortfalls (p : ThresholdPolicy) (r : CoverageReport) : List Shortfall :=
  (r.units.filterMap (CoverageUnit.shortfall? (p.threshold .line))).mergeSort Shortfall.notAfter

/-- A report evaluated against a policy. -/
def ThresholdPolicy.evaluate (p : ThresholdPolicy) (r : CoverageReport) : CoverageSummary where
  metrics := Metric.all.map fun m => ⟨r.total m, p.threshold m⟩
  shortfalls := p.shortfalls r

/-- The list of shortfalls is complete and has nothing else. -/
theorem ThresholdPolicy.shortfalls_perm (p : ThresholdPolicy) (r : CoverageReport) :
    (p.shortfalls r).Perm (r.units.filterMap (CoverageUnit.shortfall? (p.threshold .line))) :=
  List.mergeSort_perm _ _

end QualityGate
