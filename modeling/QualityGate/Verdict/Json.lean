import QualityGate.Json.Basic
import QualityGate.Verdict.Basic

/-!
The result of the gate as a JSON document.
-/

namespace QualityGate

open JsonValue (strings arrayOf)

/-- A violation as data. -/
def Violation.toJson (v : Violation) : JsonValue :=
  .object [("kind", .string v.kind.name), ("severity", .string v.severity.name),
    ("rule", .string v.rule), ("path", .string v.path.text), ("line", .ofNat v.line),
    ("message", .string v.message), ("remediation", .string v.remediation)]

/-- A skipped file as data. -/
def Notice.toJson (n : Notice) : JsonValue :=
  .object [("path", .string n.path.text), ("message", .string n.message)]

/-- What became of a metric, as data. -/
def MetricResult.toJson (r : MetricResult) : JsonValue :=
  .object [("metric", .string r.metric.name), ("covered", .ofNat r.counter.covered),
    ("missed", .ofNat r.counter.missed), ("total", .ofNat r.counter.total),
    ("percentage", .ofNat r.percentage), ("threshold", .ofNat r.threshold),
    ("passed", .bool r.passed)]

/-- A unit below the threshold as data. -/
def Shortfall.toJson (s : Shortfall) : JsonValue :=
  .object [("name", .string s.name), ("percentage", .ofNat s.percentage),
    ("covered", .ofNat s.counter.covered), ("total", .ofNat s.counter.total)]

/-- What became of the coverage report, as data. -/
def CoverageStatus.toJson : CoverageStatus → JsonValue
  | notRequested => .object [("status", .string "not_requested")]
  | unavailable reason => .object [("status", .string "unavailable"), ("reason", .string reason)]
  | evaluated summary =>
    .object [("status", .string "evaluated"),
      ("metrics", .object (summary.metrics.map fun r => (r.metric.name, r.toJson))),
      ("sub_threshold_units", arrayOf Shortfall.toJson summary.shortfalls)]

/-- The result as data. -/
def GateResult.toJson (r : GateResult) : JsonValue :=
  .object [("passed", .bool r.passed),
    ("summary", .object [("files_scanned", .ofNat r.filesScanned), ("cancelled", .bool r.cancelled),
      ("coverage_unavailable", .bool r.coverage.isUnavailable), ("error", .ofNat (r.count .error)),
      ("warning", .ofNat (r.count .warning)), ("info", .ofNat (r.count .info))]),
    ("failure_reasons", strings (r.failureReasons.map FailureReason.message)),
    ("violations", arrayOf Violation.toJson r.violations),
    ("notices", arrayOf Notice.toJson r.notices), ("coverage", r.coverage.toJson)]

end QualityGate
