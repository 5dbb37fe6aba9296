import QualityGate.Rule.Basic
import QualityGate.Regex.Build
import QualityGate.Method.Span

/-!
Comparisons with a literal that stands in the code. Three expressions describe them: a string
literal whose `equals` is called, a literal that is handed to an `equals`, and a string literal next
to an equality sign. Comments, imports, package lines and constants are left alone.
-/

namespace QualityGate

namespace HardcodedLiteral

open Regex

/-- The inside of a literal with the given quote, one character or escape of it. -/
def insideOne (quote : Char) : Regex :=
  .alt (noneOf [quote, '\\']) (.seq (char '\\') dot)

/-- A string literal. -/
def stringLiteral : Regex := seqAll [char '"', star (insideOne '"'), char '"']

/-- A character literal. -/
def charLiteral : Regex := seqAll [char '\'', insideOne '\'', char '\'']

/-- A number, possibly with a sign, a fraction and a type suffix. -/
def numberLiteral : Regex :=
  seqAll [opt (char '-'), digits, opt (.seq (char '.') digits), opt (oneOf "lLfFdD".toList)]

/-- A call of `equals` or `equalsIgnoreCase` up to its opening parenthesis. -/
def equalsCall : Regex :=
  seqAll [char '.', blanks, word "equals", opt (word "IgnoreCase"), blanks, char '(']

/-- An equality sign. -/
def equalitySign : Regex := .alt (word "==") (word "!=")

/-- A string literal whose `equals` is called. -/
def receiver : Regex := seqAll [stringLiteral, blanks, equalsCall]

/-- A literal that is handed to an `equals`. -/
def argument : Regex :=
  seqAll [equalsCall, blanks, altAll [stringLiteral, charLiteral, numberLiteral], blanks, char ')']

/-- A string literal next to an equality sign. -/
def equality : Regex :=
  .alt (seqAll [equalitySign, blanks, stringLiteral]) (seqAll [stringLiteral, blanks, equalitySign])

/-- The expressions in the order in which they are tried. -/
def expressions : List Regex := [receiver, argument, equality]

/-- Lines on which a literal is in place. -/
def isExempt (l : LexedLine) : Bool :=
  l.isComment || "import ".toList.isPrefixOf (Text.trimStart l.code) ||
    "package ".toList.isPrefixOf (Text.trimStart l.code) ||
    occursIn "static final".toList (Text.trimStart l.code) ||
    occursIn "final static".toList (Text.trimStart l.code)

end HardcodedLiteral

/-- The violation of a comparison with a literal on a line. -/
def hardcodedLiteral? (ctx : LineContext) : Option Violation :=
  if ctx.line.entry != .code || HardcodedLiteral.isExempt ctx.line then none
  else
    (HardcodedLiteral.expressions.findSome? fun r => r.find? ctx.line.code).map fun matched =>
      ctx.violation .hardcodedLiteral .warning "hardcoded-literal"
        s!"Comparison against a hardcoded literal: {String.ofList (Text.trim matched)}"
        "Move the literal into a named constant or enum"

end QualityGate
