import QualityGate.Command.Basic
import QualityGate.Config.Validation
import QualityGate.Discovery.Files
import QualityGate.Gate
import QualityGate.Invocation.Basic

/-!
The check: the gate over the files that are found, by a configuration in which the choices of the
user come first. The report is put in its format, and printed or written to a file.

* `Config.override`: the configuration with the choices of the user.
* `runCheck`: what a check leaves behind.
* `Thresholds.get_override`: a threshold that was chosen is taken, and any other one stays.
-/

namespace QualityGate

/-- The thresholds with those that were chosen. -/
def Thresholds.override (t : Thresholds) (chosen : Metric → Option Int) : Thresholds where
  line := (chosen .line).getD t.line
  branch := (chosen .branch).getD t.branch
  method := (chosen .method).getD t.method
  type := (chosen .type).getD t.type

/-- A threshold that was chosen is taken, and any other one stays. -/
theorem Thresholds.get_override (t : Thresholds) (chosen : Metric → Option Int) (m : Metric) :
    (t.override chosen).get m = (chosen m).getD (t.get m) := by
  cases m <;> rfl

/-- The configuration with the choices for a check. A value that was chosen is taken; globs are
added; a flag can only make the check stricter, or look at more files. -/
def Config.override (c : Config) (a : CheckChoices) : Config where
  version := c.version
  scanner :=
    { extensions := a.extensions?.getD c.scanner.extensions
      exclude := c.scanner.exclude ++ a.exclude
      useIgnoreFiles := c.scanner.useIgnoreFiles && !a.noIgnoreFiles }
  structural :=
    { methodLimit := a.methodLimit?.getD c.structural.methodLimit
      lineLimit := a.lineLimit?.getD c.structural.lineLimit
      strict := c.structural.strict || a.strict }
  docs := { c.docs with window := a.docWindow?.getD c.docs.window }
  patterns := c.patterns
  coverage :=
    { report := a.report?.or c.coverage.report
      unitScope := c.coverage.unitScope
      required := c.coverage.required || a.requireCoverage
      thresholds := c.coverage.thresholds.override a.threshold? }

/-- The configuration that a check goes by. -/
def checkConfig (s : Surroundings) (noConfig : Bool) (a : CheckChoices) : Except GateError Config :=
  (s.loadConfig noConfig a.config?).map fun loaded => loaded.config.override a

/-- The files that a check looks at. -/
def checkedFiles (t : FileTree) (c : Config) (paths : List Path) : Except GateError (List Path) :=
  match FileFilter.ofSettings c.scanner with
  | .error e => .error e
  | .ok filter => discover t filter c.scanner.useIgnoreFiles paths

/-- The result of the gate by a configuration. -/
def gateResult (t : FileTree) (c : Config) (paths : List Path) : Except GateError GateResult :=
  match c.validate with
  | .error e => .error e
  | .ok _ =>
    match checkedFiles t c paths with
    | .error e => .error e
    | .ok files => (Gate.ofConfig c).map fun g => g.run t files c.coverage.report false

/-- The result of a check. -/
def checkResult (s : Surroundings) (noConfig : Bool) (a : CheckChoices) :
    Except GateError GateResult :=
  match checkConfig s noConfig a with
  | .error e => .error e
  | .ok c => gateResult s.files c a.paths

/-- The status that a result stands for. -/
def GateResult.status (r : GateResult) : ExitStatus := if r.passed then .success else .gateFailed

/-- The report on a result, as a check was asked to give it. -/
def checkReport (s : Surroundings) (common : CommonChoices) (a : CheckChoices) (r : GateResult) :
    Except GateError String :=
  r.format a.format (s.usesColour common.colour) s.isText

/-- What a check leaves behind. -/
def runCheck (s : Surroundings) (common : CommonChoices) (a : CheckChoices) : Outcome :=
  match checkResult s common.noConfig a with
  | .error e => .failed s.files e
  | .ok r =>
    match checkReport s common a r with
    | .error e => .failed s.files e
    | .ok report =>
      match a.output? with
      | none => ⟨r.status, if common.quiet then "" else report, "", s.files⟩
      | some p =>
        match s.files.deliver p report with
        | (t, some e) => .failed t (.io e)
        | (t, none) => ⟨r.status, "", "", t⟩

end QualityGate
