import QualityGate.Rule.BannedCall
import QualityGate.Rule.HardcodedLiteral
import QualityGate.Rule.Style

/-!
Rules about single lines, and what they find in a file. The rules do not depend on each other: a
line can break any number of them, and the violations of a line come in the order of the rules.
-/

namespace QualityGate

/-- A rule about single lines. -/
inductive LineRule where
  | bannedCall (expressions : List Regex) (facility : String)
  | hardcodedLiteral
  | longLine (limit : Nat)
  | blankRun (limit : Nat)
  | wildcardImport
  | indent (disallowed : IndentChar)

namespace LineRule

/-- The name of a rule. -/
def name : LineRule → String
  | bannedCall _ _ => "banned-call"
  | hardcodedLiteral => "hardcoded-literal"
  | longLine _ => "long-line"
  | blankRun _ => "consecutive-blank-lines"
  | wildcardImport => "wildcard-import"
  | indent _ => "disallowed-indent"

/-- The violation of a rule on a line. -/
def inspect? : LineRule → LineContext → Option Violation
  | bannedCall expressions facility, ctx => bannedCall? expressions facility ctx
  | hardcodedLiteral, ctx => hardcodedLiteral? ctx
  | longLine limit, ctx => longLine? limit ctx
  | blankRun limit, ctx => blankRun? limit ctx
  | wildcardImport, ctx => wildcardImport? ctx
  | indent disallowed, ctx => indent? disallowed ctx

/-- Lines have at most so many characters, unless another limit is given. -/
def defaultLineLimit : Nat := 120

/-- At most so many blank lines stand in a row, unless another limit is given. -/
def defaultBlankLimit : Nat := 1

/-- All rules with their usual settings. -/
def defaults : List LineRule :=
  [bannedCall defaultBannedExpressions defaultLoggingFacility, hardcodedLiteral,
   longLine defaultLineLimit, blankRun defaultBlankLimit, wildcardImport, indent .tab]

end LineRule

/-- The violations on lines, when so many blank lines stand right before them. -/
def ruleViolationsFrom (path : Path) (rules : List LineRule) (blanks : Nat) :
    List LexedLine → List Violation
  | [] => []
  | l :: ls =>
    let blanks := if l.line.isBlank then blanks + 1 else 0
    (rules.filterMap fun r => r.inspect? ⟨path, l, blanks⟩) ++
      ruleViolationsFrom path rules blanks ls

/-- The violations of rules in a file. -/
def ruleViolations (path : Path) (rules : List LineRule) (ls : List LexedLine) : List Violation :=
  ruleViolationsFrom path rules 0 ls

end QualityGate
