import QualityGate.Rule.Basic
import QualityGate.Declaration.Shape
import QualityGate.Coverage.Counter

/-!
Rules of style: long lines, runs of blank lines, wildcard imports and indentation.
-/

namespace QualityGate

open Text (Reader)
open Text.Reader

/-- The violation of a line with too many characters. -/
def longLine? (limit : Nat) (ctx : LineContext) : Option Violation :=
  if limit < ctx.line.line.length then
    some (ctx.violation .styleSmell .warning "long-line"
      s!"Line is {ctx.line.line.length} characters long (max {limit})"
      "Wrap the line or extract a local variable")
  else none

/-- The violation of a run of blank lines, on the first line past the limit. The number of that line
in its run is a count like all others, so the one after the greatest count is zero. -/
def blankRun? (limit : Nat) (ctx : LineContext) : Option Violation :=
  if ctx.blankRun = (limit + 1) % (maxCount + 1) then
    some (ctx.violation .styleSmell .info "consecutive-blank-lines"
      s!"More than {limit} consecutive blank line(s)"
      "Remove the extra blank lines")
  else none

/-- The ways to read characters of a class, the most characters first and at least one. -/
def someOf (p : Char → Bool) : Reader (List Char)
  | [] => []
  | c :: rest =>
    if p c then ((someOf p rest).map fun w => (c :: w.1, w.2)) ++ [([c], rest)] else []

/-- An import of everything in a package: the name of the package. -/
def wildcardImport : Reader (List Char) :=
  andThen blanks fun _ => andThen (literal "import".toList) fun _ => andThen blanks1 fun _ =>
    andThen (optional (andThen (literal "static".toList) fun _ => blanks1)) fun _ =>
      andThen (someOf isQualifiedChar) fun package => andThen (literal ".*".toList) fun _ =>
        andThen blanks fun _ => map (fun _ => package) (char (· == ';'))

/-- The violation of a wildcard import. -/
def wildcardImport? (ctx : LineContext) : Option Violation :=
  if ctx.line.entry != .code then none
  else (first? wildcardImport ctx.line.code).map fun package =>
    ctx.violation .styleSmell .warning "wildcard-import"
      s!"Wildcard import of '{String.ofList package}.*'"
      "Import the types you use explicitly"

/-- What to do about a disallowed character. -/
def IndentChar.remedy : IndentChar → String
  | tab => "Indent with spaces"
  | space => "Indent with tabs"

/-- The violation of a line that is indented with the disallowed character. The content of a text
block is no indentation. -/
def indent? (disallowed : IndentChar) (ctx : LineContext) : Option Violation :=
  if ctx.line.entry = .textBlock || ctx.line.line.isBlank then none
  else if ctx.line.line.indentation.contains disallowed.toChar then
    some (ctx.violation .styleSmell .info "disallowed-indent"
      s!"Indentation uses a {disallowed.name} character" disallowed.remedy)
  else none

end QualityGate
