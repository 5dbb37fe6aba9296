import QualityGate.Proofs.Json.Reading
import QualityGate.Verdict.Format
import Mathlib.Tactic

/-!
Reading the JSON text of a result back. What the text says is a report, which has nothing that is
worked out from other parts of it: the verdict, the totals and the percentages of a report are any.
A report is put into an object and taken out of it by the names of the members.

* `GateReport`, `GateResult.report`: what is printed of a result.
* `GateReport.ofJson?_toJson`: a report is what is taken out of its own data.
* `GateReport.decodes_text`: **the printed text is a JSON document that decodes to the report**, so
  different reports have different texts.
-/

namespace QualityGate

/-! ### Parts of values -/

namespace JsonValue

variable {α : Type}

/-- A member of an object, decoded. -/
def get? (v : JsonValue) (key : String) (decode : JsonValue → Option α) : Option α :=
  match v with
  | object ms => (ms.lookup key).bind decode
  | _ => none

/-- A truth value. -/
def bool? : JsonValue → Option Bool
  | bool b => some b
  | _ => none

/-- A number without a sign. -/
def nat? : JsonValue → Option ℕ
  | number (.ofNat n) => some n
  | _ => none

/-- A string. -/
def string? : JsonValue → Option String
  | string s => some s
  | _ => none

/-- A string that names something. -/
def named? (ofName? : String → Option α) (v : JsonValue) : Option α := v.string?.bind ofName?

/-- The items of an array, decoded. -/
def list? (decode : JsonValue → Option α) : JsonValue → Option (List α)
  | array vs => vs.mapM decode
  | _ => none

/-- The members of an object in their order, names and values decoded. -/
def entries? {κ : Type} (ofName? : String → Option κ) (decode : JsonValue → Option α) :
    JsonValue → Option (List (κ × α))
  | object ms => ms.mapM fun m => do return (← ofName? m.1, ← decode m.2)
  | _ => none

@[simp]
lemma get?_cons_self (key : String) (v : JsonValue) (ms : List (String × JsonValue))
    (decode : JsonValue → Option α) : (object ((key, v) :: ms)).get? key decode = decode v := by
  simp [get?]

@[simp]
lemma get?_cons_of_ne {key k : String} (h : key ≠ k) (v : JsonValue)
    (ms : List (String × JsonValue)) (decode : JsonValue → Option α) :
    (object ((k, v) :: ms)).get? key decode = (object ms).get? key decode := by
  simp [get?, List.lookup_cons, beq_false_of_ne h]

@[simp]
lemma bool?_bool (b : Bool) : (bool b).bool? = some b := rfl

@[simp]
lemma nat?_ofNat (n : ℕ) : (ofNat n).nat? = some n := rfl

@[simp]
lemma string?_string (s : String) : (string s).string? = some s := rfl

lemma mapM_map_eq_some {β : Type} {encode : α → β} {decode : β → Option α}
    (h : ∀ x, decode (encode x) = some x) (xs : List α) :
    (xs.map encode).mapM decode = some xs := by
  induction xs with
  | nil => rfl
  | cons x xs ih => simp [List.mapM_cons, h, ih]

/-- An array of decodable things is decoded item by item. -/
lemma list?_arrayOf {encode : α → JsonValue} {decode : JsonValue → Option α}
    (h : ∀ x, decode (encode x) = some x) (xs : List α) :
    (arrayOf encode xs).list? decode = some xs :=
  mapM_map_eq_some h xs

/-- An object whose keys are names of things is decoded member by member. -/
lemma entries?_object {κ : Type} {name : κ → String} {ofName? : String → Option κ}
    {encode : α → JsonValue} {decode : JsonValue → Option α}
    (hname : ∀ k, ofName? (name k) = some k) (h : ∀ x, decode (encode x) = some x)
    (xs : List (κ × α)) :
    (object (xs.map fun x => (name x.1, encode x.2))).entries? ofName? decode = some xs :=
  mapM_map_eq_some (by simp [hname, h]) xs

end JsonValue

open JsonValue (arrayOf strings)

/-! ### Names -/

lemma Metric.ofName?_name (m : Metric) : ofName? m.name = some m := by
  cases m <;> decide

lemma Severity.ofName?_name (s : Severity) : ofName? s.name = some s := by
  cases s <;> decide

lemma ViolationKind.ofName?_name (k : ViolationKind) : ofName? k.name = some k := by
  cases k <;> decide

/-! ### Violations and notices -/

/-- The violation that an object describes. -/
def Violation.ofJson? (v : JsonValue) : Option Violation := do
  let kind ← v.get? "kind" (JsonValue.named? ViolationKind.ofName?)
  let severity ← v.get? "severity" (JsonValue.named? Severity.ofName?)
  let rule ← v.get? "rule" JsonValue.string?
  let path ← v.get? "path" JsonValue.string?
  let line ← v.get? "line" JsonValue.nat?
  let message ← v.get? "message" JsonValue.string?
  let remediation ← v.get? "remediation" JsonValue.string?
  return ⟨kind, severity, rule, ⟨path⟩, line, message, remediation⟩

lemma Violation.ofJson?_toJson (v : Violation) : ofJson? v.toJson = some v := by
  simp [ofJson?, toJson, JsonValue.named?, ViolationKind.ofName?_name, Severity.ofName?_name]

/-- The notice that an object describes. -/
def Notice.ofJson? (v : JsonValue) : Option Notice := do
  let path ← v.get? "path" JsonValue.string?
  let message ← v.get? "message" JsonValue.string?
  return ⟨⟨path⟩, message⟩

lemma Notice.ofJson?_toJson (n : Notice) : ofJson? n.toJson = some n := by
  simp [ofJson?, toJson]

/-! ### Coverage -/

/-- What is printed about a metric. -/
structure MetricFigures where
  metric : Metric
  covered : ℕ
  missed : ℕ
  total : ℕ
  percentage : ℕ
  threshold : ℕ
  passed : Bool
  deriving DecidableEq, Repr

namespace MetricFigures

/-- The figures as data. -/
def toJson (f : MetricFigures) : JsonValue :=
  .object [("metric", .string f.metric.name), ("covered", .ofNat f.covered),
    ("missed", .ofNat f.missed), ("total", .ofNat f.total), ("percentage", .ofNat f.percentage),
    ("threshold", .ofNat f.threshold), ("passed", .bool f.passed)]

/-- The figures that an object describes. -/
def ofJson? (v : JsonValue) : Option MetricFigures := do
  let metric ← v.get? "metric" (JsonValue.named? Metric.ofName?)
  let covered ← v.get? "covered" JsonValue.nat?
  let missed ← v.get? "missed" JsonValue.nat?
  let total ← v.get? "total" JsonValue.nat?
  let percentage ← v.get? "percentage" JsonValue.nat?
  let threshold ← v.get? "threshold" JsonValue.nat?
  let passed ← v.get? "passed" JsonValue.bool?
  return ⟨metric, covered, missed, total, percentage, threshold, passed⟩

lemma ofJson?_toJson (f : MetricFigures) : ofJson? f.toJson = some f := by
  simp [ofJson?, toJson, JsonValue.named?, Metric.ofName?_name]

end MetricFigures

/-- What is printed about a unit below the threshold. -/
structure ShortfallFigures where
  name : String
  percentage : ℕ
  covered : ℕ
  total : ℕ
  deriving DecidableEq, Repr

namespace ShortfallFigures

/-- The figures as data. -/
def toJson (f : ShortfallFigures) : JsonValue :=
  .object [("name", .string f.name), ("percentage", .ofNat f.percentage),
    ("covered", .ofNat f.covered), ("total", .ofNat f.total)]

/-- The figures that an object describes. -/
def ofJson? (v : JsonValue) : Option ShortfallFigures := do
  let name ← v.get? "name" JsonValue.string?
  let percentage ← v.get? "percentage" JsonValue.nat?
  let covered ← v.get? "covered" JsonValue.nat?
  let total ← v.get? "total" JsonValue.nat?
  return ⟨name, percentage, covered, total⟩

lemma ofJson?_toJson (f : ShortfallFigures) : ofJson? f.toJson = some f := by
  simp [ofJson?, toJson]

end ShortfallFigures

/-- What is printed about the coverage report. The figures of each metric stand under a metric that
they need not be about. -/
inductive CoverageFigures where
  | notRequested
  | unavailable (reason : String)
  | evaluated (metrics : List (Metric × MetricFigures)) (units : List ShortfallFigures)
  deriving DecidableEq, Repr

namespace CoverageFigures

/-- The figures as data. -/
def toJson : CoverageFigures → JsonValue
  | notRequested => .object [("status", .string "not_requested")]
  | unavailable reason => .object [("status", .string "unavailable"), ("reason", .string reason)]
  | evaluated metrics units =>
    .object [("status", .string "evaluated"),
      ("metrics", .object (metrics.map fun m => (m.1.name, m.2.toJson))),
      ("sub_threshold_units", arrayOf ShortfallFigures.toJson units)]

/-- The figures that an object describes. -/
def ofJson? (v : JsonValue) : Option CoverageFigures := do
  let status ← v.get? "status" JsonValue.string?
  if status = "not_requested" then return notRequested
  else if status = "unavailable" then return unavailable (← v.get? "reason" JsonValue.string?)
  else if status = "evaluated" then
    let metrics ← v.get? "metrics" (JsonValue.entries? Metric.ofName? MetricFigures.ofJson?)
    let units ← v.get? "sub_threshold_units" (JsonValue.list? ShortfallFigures.ofJson?)
    return evaluated metrics units
  else none

lemma ofJson?_toJson (f : CoverageFigures) : ofJson? f.toJson = some f := by
  cases f with
  | notRequested => simp [ofJson?, toJson]
  | unavailable reason => simp [ofJson?, toJson]
  | evaluated metrics units =>
      have hmetrics := JsonValue.entries?_object Metric.ofName?_name MetricFigures.ofJson?_toJson
        metrics
      have hunits := JsonValue.list?_arrayOf ShortfallFigures.ofJson?_toJson units
      simp [ofJson?, toJson, hmetrics, hunits]

end CoverageFigures

/-! ### Reports -/

/-- What is printed of a result. -/
structure GateReport where
  passed : Bool
  filesScanned : ℕ
  cancelled : Bool
  coverageUnavailable : Bool
  errors : ℕ
  warnings : ℕ
  infos : ℕ
  failureReasons : List String
  violations : List Violation
  notices : List Notice
  coverage : CoverageFigures
  deriving DecidableEq, Repr

namespace GateReport

/-- The report as data. -/
def toJson (d : GateReport) : JsonValue :=
  .object [("passed", .bool d.passed),
    ("summary", .object [("files_scanned", .ofNat d.filesScanned), ("cancelled", .bool d.cancelled),
      ("coverage_unavailable", .bool d.coverageUnavailable), ("error", .ofNat d.errors),
      ("warning", .ofNat d.warnings), ("info", .ofNat d.infos)]),
    ("failure_reasons", strings d.failureReasons),
    ("violations", arrayOf Violation.toJson d.violations),
    ("notices", arrayOf Notice.toJson d.notices), ("coverage", d.coverage.toJson)]

/-- The report that an object describes. -/
def ofJson? (v : JsonValue) : Option GateReport := do
  let passed ← v.get? "passed" JsonValue.bool?
  let summary ← v.get? "summary" some
  let filesScanned ← summary.get? "files_scanned" JsonValue.nat?
  let cancelled ← summary.get? "cancelled" JsonValue.bool?
  let coverageUnavailable ← summary.get? "coverage_unavailable" JsonValue.bool?
  let errors ← summary.get? "error" JsonValue.nat?
  let warnings ← summary.get? "warning" JsonValue.nat?
  let infos ← summary.get? "info" JsonValue.nat?
  let failureReasons ← v.get? "failure_reasons" (JsonValue.list? JsonValue.string?)
  let violations ← v.get? "violations" (JsonValue.list? Violation.ofJson?)
  let notices ← v.get? "notices" (JsonValue.list? Notice.ofJson?)
  let coverage ← v.get? "coverage" CoverageFigures.ofJson?
  return ⟨passed, filesScanned, cancelled, coverageUnavailable, errors, warnings, infos,
    failureReasons, violations, notices, coverage⟩

/-- A report is what is taken out of its own data. -/
theorem ofJson?_toJson (d : GateReport) : ofJson? d.toJson = some d := by
  have hreasons := JsonValue.list?_arrayOf JsonValue.string?_string d.failureReasons
  have hviolations := JsonValue.list?_arrayOf Violation.ofJson?_toJson d.violations
  have hnotices := JsonValue.list?_arrayOf Notice.ofJson?_toJson d.notices
  rw [arrayOf, ← strings] at hreasons
  simp [ofJson?, toJson, hreasons, hviolations, hnotices, CoverageFigures.ofJson?_toJson]

/-- The printed text of a report. -/
def text (d : GateReport) : String := d.toJson.render

end GateReport

/-! ### What is printed of a result -/

/-- What is printed about a metric. -/
def MetricResult.figures (r : MetricResult) : MetricFigures where
  metric := r.metric
  covered := r.counter.covered
  missed := r.counter.missed
  total := r.counter.total
  percentage := r.percentage
  threshold := r.threshold
  passed := r.passed

/-- What is printed about a unit below the threshold. -/
def Shortfall.figures (s : Shortfall) : ShortfallFigures where
  name := s.name
  percentage := s.percentage
  covered := s.counter.covered
  total := s.counter.total

/-- What is printed about the coverage report. -/
def CoverageStatus.figures : CoverageStatus → CoverageFigures
  | notRequested => .notRequested
  | unavailable reason => .unavailable reason
  | evaluated summary =>
    .evaluated (summary.metrics.map fun r => (r.metric, r.figures))
      (summary.shortfalls.map Shortfall.figures)

/-- What is printed of a result. -/
def GateResult.report (r : GateResult) : GateReport where
  passed := r.passed
  filesScanned := r.filesScanned
  cancelled := r.cancelled
  coverageUnavailable := r.coverage.isUnavailable
  errors := r.count .error
  warnings := r.count .warning
  infos := r.count .info
  failureReasons := r.failureReasons.map FailureReason.message
  violations := r.violations
  notices := r.notices
  coverage := r.coverage.figures

lemma CoverageStatus.toJson_figures (c : CoverageStatus) : c.figures.toJson = c.toJson := by
  cases c with
  | notRequested => rfl
  | unavailable _ => rfl
  | evaluated summary =>
      simp only [figures, CoverageFigures.toJson, toJson, arrayOf, List.map_map]
      rfl

/-- A result is printed as its report is. -/
lemma GateResult.toJson_report (r : GateResult) : r.report.toJson = r.toJson := by
  rw [GateReport.toJson, toJson, ← CoverageStatus.toJson_figures]
  rfl

/-- **The printed text of a report** is a JSON document, and whatever value it is a document for,
this value decodes to the report; a result that names only paths that are texts is printed as its
report is, in colour or not. So reports that are not equal have different texts. -/
theorem GateReport.decodes_text :
    (∀ d : GateReport, JsonValue.IsDocument d.toJson d.text.toList ∧
      (∀ v, JsonValue.IsDocument v d.text.toList → ofJson? v = some d) ∧
      (JsonValue.read? d.text).bind ofJson? = some d) ∧
    (∀ (r : GateResult) (colour : Bool) (isText : Path → Bool), (∀ p ∈ r.paths, isText p = true) →
      r.format .json colour isText = .ok r.report.text) ∧
    ∀ d d' : GateReport, d.text = d'.text → d = d' := by
  have hread (d : GateReport) : (JsonValue.read? d.text).bind ofJson? = some d := by
    rw [text, JsonValue.read?_render, Option.bind_some, ofJson?_toJson]
  refine ⟨fun d => ⟨JsonValue.isDocument_render _, fun v hv => ?_, hread d⟩,
    fun r colour isText htexts => ?_, fun d d' htext => ?_⟩
  · rw [hv.unique (JsonValue.isDocument_render _), ofJson?_toJson]
  · rw [text, r.toJson_report, r.format_json htexts]
  · have h := hread d
    rw [htext, hread d'] at h
    exact (Option.some.inj h).symm

end QualityGate
