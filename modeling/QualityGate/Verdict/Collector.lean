import QualityGate.Verdict.Basic

/-!
Collecting what a scan finds. The files of a scan report in any order; the order of the result is
made once, at the end.

* `Collector.finish_violations_perm`: the violations of the result are those that were recorded.
-/

namespace QualityGate

/-- What the files of a scan have reported so far. -/
structure Collector where
  violations : List Violation
  notices : List Notice
  filesScanned : Nat
  deriving DecidableEq, Repr

/-- What one file of a scan reports. -/
inductive FileOutcome where
  | scanned (violations : List Violation)
  | skipped (notice : Notice)
  deriving DecidableEq, Repr

namespace Collector

/-- Nothing reported yet. -/
def empty : Collector := ⟨[], [], 0⟩

/-- One file more. -/
def add (c : Collector) : FileOutcome → Collector
  | .scanned violations =>
    { c with violations := c.violations ++ violations, filesScanned := c.filesScanned + 1 }
  | .skipped notice => { c with notices := c.notices ++ [notice] }

/-- Files one after the other. -/
def ofOutcomes (outcomes : List FileOutcome) : Collector := outcomes.foldl add empty

/-- Notices in the order of their paths. -/
def sortNotices (ns : List Notice) : List Notice :=
  ns.mergeSort fun a b => a.path.order b.path != .gt

/-- Everything that was reported, in order. -/
def finish (c : Collector) : Collector where
  violations := Violation.sort c.violations
  notices := sortNotices c.notices
  filesScanned := c.filesScanned

/-- The violations of the result are those that were recorded. -/
theorem finish_violations_perm (c : Collector) : c.finish.violations.Perm c.violations :=
  Violation.sort_perm _

/-- The notices of the result are those that were recorded. -/
theorem finish_notices_perm (c : Collector) : c.finish.notices.Perm c.notices :=
  List.mergeSort_perm _ _

end Collector

end QualityGate
