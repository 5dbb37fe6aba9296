import QualityGate.Coverage.Threshold
import QualityGate.Violation.Basic

/-!
The verdict of the gate. A result collects the violations, the files that were skipped and what
became of the coverage report. The gate passes exactly if there is no reason to fail.

* `GateResult.failureReasons`: the reasons, those of the structural checks first.
* `GateResult.passed_cancel`: the mark of a cancelled scan does not touch the verdict.
-/

namespace QualityGate

/-- What became of the coverage report. -/
inductive CoverageStatus where
  /-- There is no report. -/
  | notRequested
  /-- The report could not be read. -/
  | unavailable (reason : String)
  | evaluated (summary : CoverageSummary)
  deriving DecidableEq, Repr

namespace CoverageStatus

/-- The summary of a report that was evaluated. -/
def summary? : CoverageStatus → Option CoverageSummary
  | evaluated summary => some summary
  | _ => none

/-- There is a report that could not be read. -/
def isUnavailable : CoverageStatus → Bool
  | unavailable _ => true
  | _ => false

end CoverageStatus

/-- A file that was skipped. -/
structure Notice where
  path : Path
  message : String
  deriving DecidableEq, Repr

/-- What makes the verdict stricter. -/
structure VerdictPolicy where
  /-- Warnings fail the gate. -/
  strict : Bool
  /-- A report that was not evaluated fails the gate. -/
  coverageRequired : Bool
  deriving DecidableEq, Repr

/-- All that a run of the gate found. -/
structure GateResult where
  violations : List Violation
  notices : List Notice
  coverage : CoverageStatus
  filesScanned : Nat
  /-- Scanning stopped early on request. -/
  cancelled : Bool
  policy : VerdictPolicy
  deriving DecidableEq, Repr

/-- A reason to fail. -/
inductive FailureReason where
  | errors (count : Nat)
  | warnings (count : Nat)
  | lowCoverage (r : MetricResult)
  | coverageUnavailable (reason : String)
  | coverageMissing
  deriving DecidableEq, Repr

/-- The ending of a noun that is counted. -/
def pluralEnding (n : Nat) : String := if n = 1 then "" else "s"

/-- The wording of a reason. -/
def FailureReason.message : FailureReason → String
  | errors n => s!"{n} error-severity violation{pluralEnding n}"
  | warnings n => s!"{n} warning{pluralEnding n} (strict mode)"
  | lowCoverage r =>
    s!"{r.metric.name} coverage {r.percentage}% is below the required {r.threshold}%"
  | coverageUnavailable reason => s!"coverage is required but unavailable: {reason}"
  | coverageMissing => "coverage is required but no report was given"

namespace GateResult

/-- The number of violations of a severity. -/
def count (r : GateResult) (s : Severity) : Nat := r.violations.countP fun v => v.severity == s

/-- No violation fails the gate. -/
def structuralPassed (r : GateResult) : Bool :=
  !r.violations.any fun v => v.severity.fails r.policy.strict

/-- The reasons that violations give. -/
def structuralReasons (r : GateResult) : List FailureReason :=
  (if 0 < r.count .error then [.errors (r.count .error)] else []) ++
    if r.policy.strict && 0 < r.count .warning then [.warnings (r.count .warning)] else []

/-- The reasons that the coverage report gives. -/
def coverageReasons (r : GateResult) : List FailureReason :=
  match r.coverage with
  | .evaluated summary => summary.failures.map .lowCoverage
  | .unavailable reason => if r.policy.coverageRequired then [.coverageUnavailable reason] else []
  | .notRequested => if r.policy.coverageRequired then [.coverageMissing] else []

/-- The reasons to fail. -/
def failureReasons (r : GateResult) : List FailureReason := r.structuralReasons ++ r.coverageReasons

/-- There is no reason to fail. -/
def passed (r : GateResult) : Bool := r.failureReasons.isEmpty

/-- The result with or without the mark of a cancelled scan. -/
def cancel (r : GateResult) (cancelled : Bool) : GateResult := { r with cancelled }

/-- The mark of a cancelled scan does not touch the verdict. -/
theorem passed_cancel (r : GateResult) (cancelled : Bool) :
    (r.cancel cancelled).passed = r.passed := rfl

end GateResult

end QualityGate
