import QualityGate.Analysis
import QualityGate.File.Tree
import QualityGate.Phase
import QualityGate.Verdict.Collector

/-!
A run of the gate over some files and an optional coverage report. A file that cannot be read is
skipped with a notice, and a report that cannot be read leaves the coverage unavailable; neither
ends the run.

* `Gate.run`: the result of a run.
* `Gate.settings_of_ofConfig`: what the gate of a configuration is made of.
* `Gate.phases`: the phases that a run goes through.
-/

namespace QualityGate

/-- All that a run needs to know beside the files. -/
structure Gate where
  analysis : Analysis
  unitScope : UnitScope
  thresholds : ThresholdPolicy
  verdict : VerdictPolicy

namespace Gate

/-- The gate that a configuration asks for. -/
def ofConfig (c : Config) (n : PatternNotation := .standard) : Except GateError Gate :=
  (Analysis.ofConfig c n).map fun analysis => {
    analysis
    unitScope := c.coverage.unitScope
    thresholds := c.coverage.thresholds.toPolicy
    verdict := ⟨c.structural.strict, c.coverage.required⟩ }

/-- The gate of a configuration has the checks and settings of the configuration. -/
theorem settings_of_ofConfig {c : Config} {n : PatternNotation} {g : Gate}
    (h : ofConfig c n = .ok g) :
    Analysis.ofConfig c n = .ok g.analysis ∧ g.unitScope = c.coverage.unitScope ∧
      g.thresholds = c.coverage.thresholds.toPolicy ∧
      g.verdict = ⟨c.structural.strict, c.coverage.required⟩ := by
  unfold ofConfig at h
  cases ha : Analysis.ofConfig c n with
  | error e => rw [ha] at h; cases h
  | ok a =>
    rw [ha] at h
    cases h
    exact ⟨rfl, rfl, rfl, rfl⟩

/-- The coverage report in a file. -/
def readReport (t : FileTree) (scope : UnitScope) (p : Path) : Except GateError CoverageReport :=
  match t.readText p with
  | .error cause => .error (.fileRead p cause)
  | .ok text => (CoverageReport.ofText scope text).mapError .reportFormat

/-- What a file reports. Bytes that are no text are replaced. -/
def scanFile (g : Gate) (t : FileTree) (p : Path) : FileOutcome :=
  match t.read p with
  | .error cause => .skipped ⟨p, (GateError.fileRead p cause).describe⟩
  | .ok content => .scanned (g.analysis.violations p (Text.Utf8.decodeLossy content))

/-- What the files of a run report. When the run was cancelled before, no file is looked at. -/
def scan (g : Gate) (t : FileTree) (files : List Path) (cancelled : Bool) : Collector :=
  (Collector.ofOutcomes (if cancelled then [] else files.map (g.scanFile t))).finish

/-- What becomes of the coverage report. -/
def coverage (g : Gate) (t : FileTree) : Option Path → CoverageStatus
  | none => .notRequested
  | some p =>
    match readReport t g.unitScope p with
    | .error e => .unavailable e.describe
    | .ok report => .evaluated (g.thresholds.evaluate report)

/-- The result of a run. -/
def run (g : Gate) (t : FileTree) (files : List Path) (report? : Option Path) (cancelled : Bool) :
    GateResult :=
  let collected := g.scan t files cancelled
  { violations := collected.violations
    notices := collected.notices
    coverage := g.coverage t report?
    filesScanned := collected.filesScanned
    cancelled
    policy := g.verdict }

/-- The phases that a run goes through, given what becomes of the coverage report. -/
def phases : CoverageStatus → List Phase
  | .notRequested => [.idle, .scanning, .reported]
  | .unavailable _ => [.idle, .scanning, .parsing, .reported]
  | .evaluated _ => [.idle, .scanning, .parsing, .evaluating, .reported]

/-- The phase after a run. -/
def lastPhase (r : GateResult) : Phase := (phases r.coverage).getLastD .idle

end Gate

end QualityGate
