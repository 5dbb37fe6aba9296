import QualityGate.Config.Basic
import QualityGate.Documentation
import QualityGate.Error
import QualityGate.Method.Span
import QualityGate.Rule.Scan

/-!
The structural checks of a file: the length of methods, missing documentation, and the line rules.

* `Analysis.violations`: what the checks find, in the order of reports.
* `Analysis.violations_perm`: nothing that one of the checks finds is lost.
-/

namespace QualityGate

/-- What the structural checks look for. -/
structure Analysis where
  methodLimit : Nat
  docs : DocumentationSettings
  rules : List LineRule

namespace Analysis

/-- The checks with their usual settings. -/
def standard : Analysis := ⟨({} : StructureSettings).methodLimit, {}, LineRule.defaults⟩

/-- The checks that a configuration asks for, or the first expression that is none. -/
def ofConfig (c : Config) (n : PatternNotation := .standard) : Except GateError Analysis :=
  match compileAll c.patterns.bannedCalls n with
  | .error pattern => .error (.invalidRegex pattern)
  | .ok expressions =>
    .ok {
      methodLimit := c.structural.methodLimit
      docs := c.docs
      rules := [
        .bannedCall expressions c.patterns.loggingFacility, .hardcodedLiteral,
        .longLine c.structural.lineLimit, .blankRun c.patterns.blankLimit, .wildcardImport,
        .indent c.patterns.disallowedIndent] }

/-- The violations on the lines of a file, check by check. -/
def found (a : Analysis) (path : Path) (ls : List LexedLine) : List Violation :=
  longMethods path a.methodLimit ls ++
    missingDocs path a.docs.window a.docs.cap a.docs.visibilities ls ++
    ruleViolations path a.rules ls

/-- The violations in a source text, in the order of reports. -/
def violations (a : Analysis) (path : Path) (text : List Char) : List Violation :=
  Violation.sort (a.found path (lex text))

/-- Nothing that one of the checks finds is lost. -/
theorem violations_perm (a : Analysis) (path : Path) (text : List Char) :
    (a.violations path text).Perm (a.found path (lex text)) :=
  Violation.sort_perm _

end Analysis

end QualityGate
