import QualityGate.Rule.Basic
import QualityGate.Pattern

/-!
Calls that must not appear in code. The calls are given by regular expressions, and the first
expression in their order that matches on a line gives the violation.
-/

namespace QualityGate

/-- The expressions for calls that are banned unless others are given: debug output. -/
def defaultBannedCalls : List String :=
  ["\\bSystem\\s*\\.\\s*out\\s*\\.\\s*print\\w*\\s*\\(",
   "\\bSystem\\s*\\.\\s*err\\s*\\.\\s*print\\w*\\s*\\(",
   "\\.\\s*printStackTrace\\s*\\(\\s*\\)"]

/-- Where to log instead, unless something else is given. -/
def defaultLoggingFacility : String := "an SLF4J Logger"

/-- The expressions of the calls that are banned by default. -/
def defaultBannedExpressions : List Regex :=
  defaultBannedCalls.filterMap fun t => Regex.ofText? t.toList

/-- A call as it is named in messages: without its opening parentheses and white space around it. -/
def callName (matched : List Char) : List Char :=
  Text.trim (matched.reverse.dropWhile (· == '(')).reverse

/-- The violation of a banned call on a line. -/
def bannedCall? (expressions : List Regex) (facility : String) (ctx : LineContext) :
    Option Violation :=
  (expressions.findSome? fun r => r.find? ctx.line.code).map fun matched =>
    ctx.violation .bannedCall .error "banned-call"
      s!"Banned debug-output call '{String.ofList (callName matched)}'"
      s!"Log through {facility} instead"

end QualityGate
