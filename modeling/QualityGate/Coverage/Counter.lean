/-!
Coverage counters. A counter says, for one metric, how many items were missed and how many were
covered. Counts are below `2^64`, and so is every count that is reported.

* `percentage_le`: a percentage is at most one hundred.
* `percentage_empty`: where nothing was measured it is zero.
-/

namespace QualityGate

/-- The greatest count there is. -/
def maxCount : Nat := Nat.pow 2 64 - 1

/-- What a counter counts. -/
inductive Metric where
  | line
  | branch
  | method
  /-- Classes. -/
  | type
  deriving DecidableEq, Repr, Inhabited

namespace Metric

/-- All metrics, in the order of reports. -/
def all : List Metric := [line, branch, method, type]

/-- The word for a metric. -/
def name : Metric → String
  | line => "line"
  | branch => "branch"
  | method => "method"
  | type => "class"

/-- The name of a metric in a coverage report. -/
def tag : Metric → String
  | line => "LINE"
  | branch => "BRANCH"
  | method => "METHOD"
  | type => "CLASS"

/-- The metric with the given name in a coverage report. -/
def ofTag? (tag : String) : Option Metric := all.find? fun m => m.tag == tag

/-- The metric with the given name. -/
def ofName? (name : String) : Option Metric := all.find? fun m => m.name == name

/-- Every metric is read back from its tag. -/
theorem ofTag?_tag (m : Metric) : ofTag? m.tag = some m := by
  cases m <;> rfl

end Metric

/-- Missed and covered items of one metric. -/
structure Counter where
  metric : Metric
  missed : Nat
  covered : Nat
  deriving DecidableEq, Repr, Inhabited

namespace Counter

/-- The counter of a metric for which nothing was measured. -/
def empty (m : Metric) : Counter := ⟨m, 0, 0⟩

/-- All items, as far as they can be counted. -/
def total (c : Counter) : Nat := min (c.missed + c.covered) maxCount

/-- Covered items in percent of all items, rounded down; zero when there are none. -/
def percentage (c : Counter) : Nat := c.covered * 100 / (c.missed + c.covered)

/-- A percentage is at most one hundred. -/
theorem percentage_le (c : Counter) : c.percentage ≤ 100 := by
  unfold percentage
  rcases Nat.eq_zero_or_pos (c.missed + c.covered) with h | h
  · simp [h]
  · rw [Nat.div_le_iff_le_mul_add_pred h]
    have : c.covered * 100 ≤ (c.missed + c.covered) * 100 := Nat.mul_le_mul_right _ (by omega)
    omega

/-- Nothing measured counts as zero percent. -/
theorem percentage_empty (m : Metric) : (empty m).percentage = 0 := by
  simp [percentage, empty]

end Counter

end QualityGate
