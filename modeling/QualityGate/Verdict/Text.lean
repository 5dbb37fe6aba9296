import QualityGate.Text.Column
import QualityGate.Text.Styled
import QualityGate.Verdict.Basic

/-!
The result of the gate as a text: the violations, the files that were skipped, a table of the
coverage, and the verdict with its reasons.

* `GateResult.styled`: the text with its colours.
-/

namespace QualityGate

open Text (Run Style Styled padLeft padRight)

/-- The colour of a severity. -/
def Severity.style : Severity → Style
  | error => .red
  | warning => .yellow
  | info => .cyan

/-- A line of plain text. -/
def plainLine (s : String) : Styled := [.plain (s ++ "\n")]

/-- A violation: one line, and one more if there is something to do about it. -/
def Violation.styled (v : Violation) : Styled :=
  [.painted v.severity.style (padRight 7 v.severity.name),
   .plain s!" {padRight 16 v.kind.title} {v.location}  {v.message}\n"] ++
    if v.remediation.isEmpty then [] else plainLine s!"        -> {v.remediation}"

/-- The word for what became of a metric. -/
def MetricResult.status (r : MetricResult) : Run :=
  if !r.isGating then .painted .cyan "INFO"
  else if r.passed then .painted .green "PASS"
  else .painted .red "FAIL"

/-- The threshold of a metric in the table. -/
def MetricResult.thresholdText (r : MetricResult) : String :=
  if r.isGating then s!"{r.threshold}%" else "-"

/-- The columns of a row of the coverage table, up to the status. -/
def coverageRow (metric covered missed total percent threshold : String) : String :=
  s!"  {padRight 8 metric} {padLeft 8 covered} {padLeft 8 missed} {padLeft 8 total} " ++
    s!"{padLeft 8 percent} {padLeft 10 threshold}  "

/-- The row of a metric. -/
def MetricResult.styled (r : MetricResult) : Styled :=
  [.plain (coverageRow r.metric.tag (toString r.counter.covered) (toString r.counter.missed)
     (toString r.counter.total) s!"{r.percentage}%" r.thresholdText),
   r.status, .plain "\n"]

/-- The line of a unit below the threshold. -/
def Shortfall.styled (s : Shortfall) : Styled :=
  plainLine (s!"  {padLeft 3 (toString s.percentage)}%  {s.name} " ++
    s!"({s.counter.covered}/{s.counter.total} lines)")

/-- The coverage table, and the units below the line threshold. -/
def CoverageSummary.styled (s : CoverageSummary) : Styled :=
  plainLine "Coverage:" ++
    plainLine (coverageRow "Metric" "Covered" "Missed" "Total" "Percent" "Threshold" ++ "Status") ++
    s.metrics.flatMap MetricResult.styled ++
    if s.shortfalls.isEmpty then []
    else
      plainLine "" ++ plainLine "Units below the line threshold:" ++
        s.shortfalls.flatMap Shortfall.styled

/-- What became of the coverage report. -/
def CoverageStatus.styled : CoverageStatus → Styled
  | notRequested => []
  | unavailable reason =>
    [.painted .yellow "coverage unavailable", .plain s!": {reason}\n"] ++ plainLine ""
  | evaluated summary => summary.styled ++ plainLine ""

namespace GateResult

/-- The files that were skipped. -/
def styledNotices (r : GateResult) : Styled :=
  if r.notices.isEmpty then []
  else
    plainLine "Skipped files:" ++
      (r.notices.flatMap fun n => plainLine s!"  {n.path.text}: {n.message}") ++ plainLine ""

/-- The line with the numbers. -/
def styledNumbers (r : GateResult) : Styled :=
  [.plain s!"Summary: {r.filesScanned} files scanned, ",
   .painted .red (toString (r.count .error)), .plain " errors, ",
   .painted .yellow (toString (r.count .warning)), .plain " warnings, ",
   .painted .cyan (toString (r.count .info)), .plain " info\n"]

/-- The verdict, with the reasons to fail. -/
def styledVerdict (r : GateResult) : Styled :=
  .plain "Gate: " ::
    if r.passed then [.painted .boldGreen "PASSED", .plain "\n"]
    else
      [.painted .boldRed "FAILED", .plain "\n"] ++
        r.failureReasons.flatMap fun reason => plainLine s!"  - {reason.message}"

/-- The text of a result with its colours. -/
def styled (r : GateResult) : Styled :=
  r.violations.flatMap Violation.styled ++
    (if r.violations.isEmpty then [] else plainLine "") ++
    r.styledNotices ++ r.coverage.styled ++
    (if r.cancelled then plainLine "Scan cancelled before all files were analyzed" else []) ++
    r.styledNumbers ++ r.styledVerdict

/-- The text of a result, in colour or not. -/
def text (colour : Bool) (r : GateResult) : String := String.ofList (r.styled.render colour)

end GateResult

end QualityGate
