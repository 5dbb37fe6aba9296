import QualityGate.Source.Line
import QualityGate.Violation.Basic

/-!
What a rule about single lines sees, and the violations it reports.
-/

namespace QualityGate

/-- What a rule sees of a line. -/
structure LineContext where
  path : Path
  line : LexedLine
  /-- The number of blank lines in a row up to this line, itself included. -/
  blankRun : Nat

/-- A violation on the line. -/
def LineContext.violation (ctx : LineContext) (kind : ViolationKind) (severity : Severity)
    (rule message remediation : String) : Violation :=
  ⟨kind, severity, rule, ctx.path, ctx.line.line.number, message, remediation⟩

/-- White space that may be disallowed at the start of lines. -/
inductive IndentChar where
  | tab
  | space
  deriving DecidableEq, Repr, Inhabited

namespace IndentChar

/-- The character. -/
def toChar : IndentChar → Char
  | tab => '\t'
  | space => ' '

/-- The word for the character. -/
def name : IndentChar → String
  | tab => "tab"
  | space => "space"

/-- The character with the given name. -/
def ofName? (name : String) : Option IndentChar := [tab, space].find? fun i => i.name == name

end IndentChar

end QualityGate
