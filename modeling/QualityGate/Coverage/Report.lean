import QualityGate.Coverage.Counter

/-!
Coverage reports: the totals at the root and the counters of single units. Counters are listed in
the order in which their metrics came first, and a later counter of a metric takes the place of the
earlier one.

* `counterOf?_recordCounter`: what is recorded for a metric is found for it, and nothing else
  changes.
* `map_metric_recordCounter`: recording adds a metric at the end or leaves the metrics alone.
-/

namespace QualityGate

/-- Counters with one more, which takes the place of the one of its metric. -/
def recordCounter (c : Counter) : List Counter → List Counter
  | [] => [c]
  | d :: ds => if d.metric = c.metric then c :: ds else d :: recordCounter c ds

/-- The counter of a metric. -/
def counterOf? (m : Metric) (cs : List Counter) : Option Counter := cs.find? fun c => c.metric == m

/-- Counters recorded one after the other. -/
def recordCounters (cs : List Counter) : List Counter :=
  cs.foldl (fun recorded c => recordCounter c recorded) []

/-- What counts as a unit in a report. -/
inductive UnitScope where
  /-- Classes. -/
  | type
  | sourceFile
  deriving DecidableEq, Repr, Inhabited

namespace UnitScope

/-- All scopes. -/
def all : List UnitScope := [type, sourceFile]

/-- The name of the elements that are units. -/
def element : UnitScope → String
  | type => "class"
  | sourceFile => "sourcefile"

/-- The scope with the given element name. -/
def ofElement? (element : String) : Option UnitScope := all.find? fun s => s.element == element

end UnitScope

/-- A class or source file with its counters. -/
structure CoverageUnit where
  name : String
  counters : List Counter
  deriving DecidableEq, Repr, Inhabited

/-- A coverage report. -/
structure CoverageReport where
  totals : List Counter
  units : List CoverageUnit
  deriving DecidableEq, Repr, Inhabited

namespace CoverageReport

/-- A report that says nothing. -/
def empty : CoverageReport := ⟨[], []⟩

/-- The total for a metric. A metric that is not in the report was not measured. -/
def total (r : CoverageReport) (m : Metric) : Counter := (counterOf? m r.totals).getD (.empty m)

end CoverageReport

/-- The total for a metric counts that metric. -/
theorem CoverageReport.metric_total (r : CoverageReport) (m : Metric) : (r.total m).metric = m := by
  unfold total counterOf?
  cases h : r.totals.find? fun c => c.metric == m with
  | none => rfl
  | some c => simpa using List.find?_some h

/-- What is recorded for a metric is found for it, and nothing else changes. -/
theorem counterOf?_recordCounter (m : Metric) (c : Counter) (cs : List Counter) :
    counterOf? m (recordCounter c cs) = if c.metric = m then some c else counterOf? m cs := by
  induction cs with
  | nil => by_cases h : c.metric = m <;> simp [recordCounter, counterOf?, h]
  | cons d ds ih =>
    by_cases hd : d.metric = c.metric <;> by_cases hm : c.metric = m <;>
      by_cases hdm : d.metric = m <;> simp_all [recordCounter, counterOf?]

/-- Recording adds a metric at the end or leaves the metrics alone. -/
theorem map_metric_recordCounter (c : Counter) (cs : List Counter) :
    (recordCounter c cs).map Counter.metric =
      if c.metric ∈ cs.map Counter.metric then cs.map Counter.metric
      else cs.map Counter.metric ++ [c.metric] := by
  induction cs with
  | nil => simp [recordCounter]
  | cons d ds ih =>
    by_cases hd : d.metric = c.metric
    · simp [recordCounter, hd]
    · have hc : ¬ c.metric = d.metric := fun h => hd h.symm
      simp only [recordCounter, hd, if_false, List.map_cons, List.mem_cons, hc, false_or, ih]
      split <;> simp

end QualityGate
