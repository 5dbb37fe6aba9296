/-!
The lexical scan of one line. A scan walks over the characters of a line in one of three states,
removes comments, keeps literals as they are, and counts braces and parentheses in plain code.

* A line comment ends the scan. A block comment leaves one space where it closes, and nothing else.
* A triple quote in code opens a text block, and the next one closes it; a backslash takes the
  character after it along.
* A string or character literal that is not closed ends with its line.

`Scan.ofLine` starts from the state in which the line before ended.
-/

namespace QualityGate

/-- What surrounds the characters at a point between two lines. -/
inductive LexState where
  | code
  /-- Between the opening and the closing mark of a block comment. -/
  | blockComment
  /-- Between two triple quotes. -/
  | textBlock
  deriving DecidableEq, Repr, Inhabited

namespace LexState

/-- The word for a state. -/
def name : LexState → String
  | code => "code"
  | blockComment => "block_comment"
  | textBlock => "text_block"

end LexState

/-- What the scan of one line finds. -/
structure Scan where
  /-- Opening braces in plain code. -/
  opens : Nat
  /-- Closing braces in plain code. -/
  closes : Nat
  /-- Opening less closing parentheses in plain code. -/
  parenDelta : Int
  /-- The state at the end of the line. -/
  exit : LexState
  /-- The line without its comments. -/
  code : List Char
  deriving DecidableEq, Repr

namespace Scan

/-- The scan of nothing, which stays in the state it starts in. -/
def empty (s : LexState) : Scan := ⟨0, 0, 0, s, []⟩

/-- Opening less closing braces. -/
def depthDelta (s : Scan) : Int := s.opens - s.closes

/-- A scan with some kept text before it. -/
def keep (text : List Char) (s : Scan) : Scan := { s with code := text ++ s.code }

/-- A scan with one character of plain code before it. -/
def count (c : Char) (s : Scan) : Scan :=
  { s with
    opens := s.opens + if c = '{' then 1 else 0
    closes := s.closes + if c = '}' then 1 else 0
    parenDelta := s.parenDelta + (if c = '(' then 1 else 0) - (if c = ')' then 1 else 0)
    code := c :: s.code }

end Scan

/-- The rest of a literal, from after its opening quote to its closing quote or the end of the
line, and what follows it. A backslash takes the next character along. -/
def splitLiteral (quote : Char) : List Char → List Char × List Char
  | [] => ([], [])
  | ['\\'] => (['\\'], [])
  | '\\' :: c :: rest =>
    let (inside, after) := splitLiteral quote rest
    ('\\' :: c :: inside, after)
  | c :: rest =>
    if c = quote then ([c], rest)
    else
      let (inside, after) := splitLiteral quote rest
      (c :: inside, after)

/-- Nothing is lost when a literal is split off. -/
theorem splitLiteral_append (quote : Char) (s : List Char) :
    (splitLiteral quote s).1 ++ (splitLiteral quote s).2 = s := by
  fun_induction splitLiteral quote s <;> simp_all

/-- What follows a literal is no longer than the text it was split from. -/
theorem splitLiteral_length_le (quote : Char) (s : List Char) :
    (splitLiteral quote s).2.length ≤ s.length := by
  have h := congrArg List.length (splitLiteral_append quote s)
  simp only [List.length_append] at h
  omega

namespace Scan

/-- The scan of a text that starts in the given state. -/
def ofLine : LexState → List Char → Scan
  | state, [] => empty state
  | .blockComment, '*' :: '/' :: rest => keep [' '] (ofLine .code rest)
  | .blockComment, _ :: rest => ofLine .blockComment rest
  | .textBlock, '\\' :: c :: rest => keep ['\\', c] (ofLine .textBlock rest)
  | .textBlock, '"' :: '"' :: '"' :: rest => keep ['"', '"', '"'] (ofLine .code rest)
  | .textBlock, c :: rest => keep [c] (ofLine .textBlock rest)
  | .code, '/' :: '/' :: _ => empty .code
  | .code, '/' :: '*' :: rest => ofLine .blockComment rest
  | .code, '"' :: '"' :: '"' :: rest => keep ['"', '"', '"'] (ofLine .textBlock rest)
  | .code, c :: rest =>
    if c = '"' ∨ c = '\'' then
      keep (c :: (splitLiteral c rest).1) (ofLine .code (splitLiteral c rest).2)
    else count c (ofLine .code rest)
  termination_by _ s => s.length
  decreasing_by
    all_goals simp_wf
    all_goals first
      | omega
      | (have h := splitLiteral_length_le c rest; omega)

end Scan

end QualityGate
