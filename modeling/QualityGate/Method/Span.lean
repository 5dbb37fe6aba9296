import QualityGate.Source.Line
import QualityGate.Declaration.Shape
import QualityGate.Violation.Basic

/-!
The lines of methods. A method starts on the line that declares it and ends on the line on which the
braces opened since then are closed. Methods inside a method belong to it, and one that is still
open at the end of the file does not count.

* `hasBody`: whether the lines from a declaration on open a body.
* `methodSpans`: the methods of a file in order.
* `longMethods`: the violations of the limit on the number of lines.
-/

namespace QualityGate

/-- The lines of a method. -/
structure MethodSpan where
  name : List Char
  /-- The number of the line of the declaration. -/
  startLine : Nat
  /-- The number of lines, from the declaration to the closing brace. -/
  lineCount : Nat
  /-- On how many of the lines the number of open braces changes. -/
  depthChanges : Nat
  deriving DecidableEq, Repr

/-- The number of the last line of a method. -/
def MethodSpan.endLine (m : MethodSpan) : Nat := m.startLine + m.lineCount - 1

/-- The text occurs in another text. -/
def occursIn (w : List Char) : List Char → Bool
  | [] => w.isEmpty
  | c :: rest => w.isPrefixOf (c :: rest) || occursIn w rest

/-- Whether the given lines, the first of which holds a declaration, open a body, when `parens`
parentheses are open before them and `throwing` says whether a `throws` was seen. Lines in an open
parameter list are skipped. After them a brace decides for a body and a semicolon at the end of a
line against it; without either, a `throws` decides for it. -/
def opensBody (parens : Int) (throwing : Bool) : List LexedLine → Bool
  | [] => throwing
  | l :: ls =>
    let parens := parens + l.scan.parenDelta
    if parens > 0 then opensBody parens throwing ls
    else if l.scan.opens > 0 then true
    else if [';'].isSuffixOf (Text.trimEnd l.code) then false
    else opensBody parens (throwing || occursIn "throws".toList (Text.trimEnd l.code)) ls

/-- The declaration on the first of the given lines has a body. -/
def hasBody (ls : List LexedLine) : Bool := opensBody 0 false ls

/-- The method or constructor with a body that the first of the given lines starts. -/
def methodStart? : List LexedLine → Option Declaration
  | [] => none
  | l :: ls =>
    if l.entry != .code || l.line.isComment then none
    else (memberDeclaration? l.code).filter fun _ => hasBody (l :: ls)

/-- A method whose end has not been found yet. -/
structure OpenMethod where
  name : List Char
  startLine : Nat
  /-- Braces open since the declaration. -/
  depth : Int
  lineCount : Nat
  depthChanges : Nat
  /-- A brace was opened. -/
  opened : Bool
  deriving DecidableEq, Repr

namespace OpenMethod

/-- A method before its first line. -/
def start (name : List Char) (line : Nat) : OpenMethod := ⟨name, line, 0, 0, 0, false⟩

/-- A method with one more line. -/
def advance (m : OpenMethod) (l : LexedLine) : OpenMethod :=
  let delta := l.scan.depthDelta
  { m with
    depth := m.depth + delta
    lineCount := m.lineCount + 1
    depthChanges := m.depthChanges + if delta = 0 then 0 else 1
    opened := m.opened || 0 < l.scan.opens }

/-- The braces of the method are closed again. -/
def isClosed (m : OpenMethod) : Bool := m.opened && m.depth ≤ 0

/-- The lines of a method that is closed. -/
def toSpan (m : OpenMethod) : MethodSpan := ⟨m.name, m.startLine, m.lineCount, m.depthChanges⟩

end OpenMethod

/-- The methods that end on the given lines, when the given one is open before them. -/
def methodSpansFrom : Option OpenMethod → List LexedLine → List MethodSpan
  | _, [] => []
  | current, l :: ls =>
    match current.or ((methodStart? (l :: ls)).map fun d => .start d.name l.line.number) with
    | none => methodSpansFrom none ls
    | some m =>
      let m := m.advance l
      if m.isClosed then m.toSpan :: methodSpansFrom none ls else methodSpansFrom (some m) ls

/-- The methods of a file, in order. -/
def methodSpans (ls : List LexedLine) : List MethodSpan := methodSpansFrom none ls

/-- The violation that a method with too many lines is. -/
def longMethod (path : Path) (limit : Nat) (m : MethodSpan) : Violation where
  kind := .longMethod
  severity := .error
  rule := "long-method"
  path := path
  line := m.startLine
  message := s!"Method '{String.ofList m.name}' is {m.lineCount} lines long (max {limit})"
  remediation := "Extract cohesive blocks into smaller, well-named methods"

/-- The methods with more lines than the limit. -/
def longMethods (path : Path) (limit : Nat) (ls : List LexedLine) : List Violation :=
  ((methodSpans ls).filter fun m => limit < m.lineCount).map (longMethod path limit)

end QualityGate
