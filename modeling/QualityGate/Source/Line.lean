import QualityGate.Text.Blank
import QualityGate.Text.Lines
import QualityGate.Source.Scan

/-!
Source files as lines. A `Line` is a physical line with its number; a `LexedLine` is a line together
with the state in which it starts and its scan. `lex` scans the lines of a source text in order,
each from the state in which the one before ended.

* `lexFrom_length`: one scan for each line.
* `lexFrom_line`: scanning keeps the lines and their order.
-/

namespace QualityGate

/-- A physical line of a file. -/
structure Line where
  /-- The line number, from one. -/
  number : Nat
  /-- The text of the line, trailing white space included. -/
  text : List Char
  deriving DecidableEq, Repr

namespace Line

/-- The line without white space at its ends. -/
def trimmed (l : Line) : List Char := Text.trim l.text

/-- Nothing but white space. -/
def isBlank (l : Line) : Bool := l.trimmed.isEmpty

/-- The line opens a block comment. -/
def opensComment (l : Line) : Bool := "/*".toList.isPrefixOf l.trimmed

/-- A line comment, the opening of a block comment, or a continuation that starts with a star. -/
def isComment (l : Line) : Bool :=
  "//".toList.isPrefixOf l.trimmed || l.opensComment || ['*'].isPrefixOf l.trimmed

/-- The line ends like the end of a block comment. -/
def closesComment (l : Line) : Bool := "*/".toList.isSuffixOf l.trimmed

/-- The line starts with an annotation, which the declaration of an annotation type is not. -/
def isAnnotation (l : Line) : Bool :=
  ['@'].isPrefixOf l.trimmed && !"@interface".toList.isPrefixOf l.trimmed

/-- The white space at the front of the line. -/
def indentation (l : Line) : List Char := Text.indentation l.text

/-- The number of characters. -/
def length (l : Line) : Nat := l.text.length

end Line

/-- A line in its lexical context. -/
structure LexedLine where
  line : Line
  /-- The state at the start of the line. -/
  entry : LexState
  scan : Scan
  deriving DecidableEq, Repr

namespace LexedLine

/-- The line starts inside a block comment, or looks like a comment line. -/
def isComment (l : LexedLine) : Bool := l.entry == .blockComment || l.line.isComment

/-- The line without its comments. -/
def code (l : LexedLine) : List Char := l.scan.code

/-- The state at the end of the line. -/
def exit (l : LexedLine) : LexState := l.scan.exit

end LexedLine

/-- The scans of consecutive lines, the first of which starts in the given state. -/
def lexFrom (state : LexState) : List Line → List LexedLine
  | [] => []
  | l :: ls =>
    let scan := Scan.ofLine state l.text
    ⟨l, state, scan⟩ :: lexFrom scan.exit ls

/-- Scanning keeps the lines. -/
theorem lexFrom_line (state : LexState) (ls : List Line) :
    (lexFrom state ls).map LexedLine.line = ls := by
  induction ls generalizing state with
  | nil => rfl
  | cons l ls ih => simp [lexFrom, ih]

/-- One scan for each line. -/
theorem lexFrom_length (state : LexState) (ls : List Line) :
    (lexFrom state ls).length = ls.length := by
  simpa using congrArg List.length (lexFrom_line state ls)

/-- The lines of a text, numbered from the given number on. -/
def numberedFrom (n : Nat) : List (List Char) → List Line
  | [] => []
  | t :: ts => ⟨n, t⟩ :: numberedFrom (n + 1) ts

/-- Numbering keeps the number of lines. -/
theorem numberedFrom_length (n : Nat) (ts : List (List Char)) :
    (numberedFrom n ts).length = ts.length := by
  induction ts generalizing n with
  | nil => rfl
  | cons t ts ih => rw [numberedFrom, List.length_cons, ih, List.length_cons]

/-- The lines of a source text, numbered from one. -/
def sourceLines (text : List Char) : List Line := numberedFrom 1 (Text.lines text)

/-- The scanned lines of a source text, which starts in plain code. -/
def lex (text : List Char) : List LexedLine := lexFrom .code (sourceLines text)

end QualityGate
