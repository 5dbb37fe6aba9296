import QualityGate.Toml.Basic
import QualityGate.Toml.Number

/-!
The values, keys and statements of a TOML document as they are written.

* `value?`: the value at the front of a text. Arrays and tables inside each other have a limited
  depth, and reading is a recursion on it.
* `statements?`: the statements of a document.
-/

namespace QualityGate.Toml

/-! ### Blanks and comments -/

/-- A text without blanks, comments and line ends at its front; `inComment` says that a comment has
begun. -/
def skipLines (inComment : Bool) : List Char → List Char
  | [] => []
  | '\n' :: rest => skipLines false rest
  | '\r' :: '\n' :: rest => skipLines false rest
  | '#' :: rest => skipLines true rest
  | c :: rest =>
    if isBlank c || (inComment && !isControl c) then skipLines inComment rest else c :: rest

/-- A text without blanks at its front. -/
def skipBlanks (s : List Char) : List Char := s.dropWhile isBlank

/-- The text after the end of a line, which may have a comment. -/
def endLine? (s : List Char) : Option (List Char) :=
  let s := skipBlanks s
  let s := match s with
    | '#' :: rest => rest.dropWhile fun c => !isControl c
    | s => s
  match s with
  | [] => some []
  | '\n' :: rest | '\r' :: '\n' :: rest => some rest
  | _ => none

/-! ### Keys -/

/-- Characters of keys without quotes. -/
def isBare (c : Char) : Bool := c.isAlphanum || c == '_' || c == '-'

/-- The key at the front of a text. -/
def key? (s : List Char) : Option (List Char × List Char) :=
  match s with
  | '"' :: _ | '\'' :: _ => lineString? s
  | _ =>
    if (s.takeWhile isBare).isEmpty then none
    else some (s.takeWhile isBare, s.dropWhile isBare)

/-- Keys with dots between them at the front of a text. -/
def path? (s : List Char) : Option (List (List Char) × List Char) :=
  match key? s with
  | none => none
  | some (key, rest) =>
    match skipBlanks rest with
    | '.' :: more =>
      if _h : (skipBlanks more).length < s.length then
        (path? (skipBlanks more)).map fun (keys, rest) => (key :: keys, rest)
      else none
    | _ => some ([key], skipBlanks rest)
  termination_by s.length

/-! ### Values -/

/-- Characters of values that are neither strings nor lists. -/
def isScalarChar (c : Char) : Bool :=
  c.isAlphanum || c == '_' || c == '-' || c == '+' || c == '.' || c == ':'

/-- The characters of a value at the front of a text. After a date, a blank and a digit belong to
the value too. -/
def scalarText (s : List Char) : List Char :=
  let front := s.takeWhile isScalarChar
  match s.dropWhile isScalarChar with
  | ' ' :: c :: rest =>
    if date? front == some [] && c.isDigit then
      front ++ ' ' :: (c :: rest).takeWhile isScalarChar
    else front
  | _ => front

/-- A value that is neither a string nor a list. -/
def scalar? (s : List Char) : Option TomlValue :=
  if s = "true".toList then some (.boolean true)
  else if s = "false".toList then some (.boolean false)
  else match integer? s with
    | some n => some (.integer n)
    | none =>
      if isFloat s then some .float else if isDateTime s then some .dateTime else none

/-- The things up to a closing bracket, with commas between them, and the text after the bracket. A
comma after the last thing is allowed. -/
def listUntil? {α : Type} (close : Char) (item : List Char → Option (α × List Char))
    (s : List Char) : Option (List α × List Char) :=
  match skipLines false s with
  | [] => none
  | c :: rest =>
    if c = close then some ([], rest)
    else
      match item (c :: rest) with
      | none => none
      | some (a, rest) =>
        match skipLines false rest with
        | [] => none
        | d :: more =>
          if d = close then some ([a], more)
          else if d = ',' then
            if _h : more.length < s.length then
              (listUntil? close item more).map fun (as, rest) => (a :: as, rest)
            else none
          else none
  termination_by s.length

/-- A key with its value, given a reader for values. -/
def assignment? {α : Type} (value : List Char → Option (α × List Char)) (s : List Char) :
    Option ((List (List Char) × α) × List Char) := do
  let (path, s) ← path? s
  let s ← after? '=' s
  let (v, s) ← value (skipBlanks s)
  return ((path, v), s)

/-- A value as it is written: inline tables are still lists of assignments. -/
inductive Written where
  | scalar (v : TomlValue)
  | array (items : List Written)
  | inlineTable (assignments : List (List (List Char) × Written))
  deriving Inhabited

/-- The value at the front of a text that has at most so many lists inside each other. -/
def value? (depth : Nat) (s : List Char) : Option (Written × List Char) :=
  match depth, s with
  | depth + 1, '[' :: rest =>
    (listUntil? ']' (value? depth) rest).map fun (items, rest) => (.array items, rest)
  | depth + 1, '\x7b' :: rest =>
    (listUntil? '\x7d' (assignment? (value? depth)) rest).map fun (items, rest) =>
      (.inlineTable items, rest)
  | _, '"' :: _ | _, '\'' :: _ =>
    (string? s).map fun (text, rest) => (.scalar (.string text), rest)
  | _, s => (scalar? (scalarText s)).map fun v => (.scalar v, s.drop (scalarText s).length)

/-- The number of lists that may stand inside each other. -/
def maxDepth : Nat := 80

/-! ### Statements -/

/-- A statement of a document. -/
inductive Statement where
  /-- The table that the assignments after it belong to. -/
  | table (path : List (List Char))
  /-- The same, as one more item of an array of tables. -/
  | arrayItem (path : List (List Char))
  | assignment (path : List (List Char)) (value : Written)
  deriving Inhabited

/-- The statement at the front of a text. -/
def statement? (s : List Char) : Option (Statement × List Char) :=
  match s with
  | '[' :: '[' :: rest => do
    let (path, s) ← path? (skipBlanks rest)
    let s ← after? ']' s
    let s ← after? ']' s
    return (.arrayItem path, s)
  | '[' :: rest => do
    let (path, s) ← path? (skipBlanks rest)
    let s ← after? ']' s
    return (.table path, s)
  | _ => (assignment? (value? maxDepth) s).map fun ((path, v), s) => (.assignment path v, s)

/-- The statements of a document. -/
def statements? (s : List Char) : Option (List Statement) :=
  match skipLines false s with
  | [] => some []
  | c :: rest =>
    match statement? (c :: rest) with
    | none => none
    | some (statement, rest) =>
      match endLine? rest with
      | none => none
      | some rest =>
        if _h : rest.length < s.length then (statements? rest).map (statement :: ·) else none
  termination_by s.length

end QualityGate.Toml
