import QualityGate.Glob.Match
import QualityGate.Text.Blank
import QualityGate.Text.Utf8

/-!
Ignore files. Each line of an ignore file is a rule: a glob for entries to leave out, or, after an
exclamation mark, for entries to keep. The last rule that matches an entry decides.

* `IgnoreRule.ofLine?`: the rule on a line.
* `keeps?_append`: later rules decide before earlier ones.
-/

namespace QualityGate

/-- A rule about entries of directories. -/
structure IgnoreRule where
  glob : CompiledGlob
  /-- Matching entries are kept. -/
  keeps : Bool
  /-- Only directories match. -/
  onlyDirectories : Bool
  deriving Inhabited

namespace IgnoreRule

/-- In ignore files wildcards do not match slashes. -/
def style : GlobStyle := ⟨true, true⟩

/-- A line without the white space at its end. Before it a backslash may save one blank. -/
def trimLine (line : List Char) : List Char :=
  if ['\\', ' '].isSuffixOf line then line else Text.trimEnd line

/-- A text without a slash at its end, and without a backslash before that slash; and whether there
was a slash. -/
def splitFinalSlash (s : List Char) : List Char × Bool :=
  match s.reverse with
  | '/' :: '\\' :: rest => (rest.reverse, true)
  | '/' :: rest => (rest.reverse, true)
  | _ => (s, false)

/-- The glob for a pattern. A pattern without a slash matches at any depth, and a pattern that ends
in two stars matches only what is below. -/
def anchor (isAnchored : Bool) (pattern : List Char) : List Char :=
  let deep := if isAnchored || pattern.contains '/' || pattern == "**".toList then pattern
    else "**/".toList ++ pattern
  if "/**".toList.isSuffixOf deep then deep ++ "/*".toList else deep

/-- The marks at the front of a line: whether the rule keeps entries, whether the pattern starts
with a slash, and the pattern. -/
def splitMarks (line : List Char) : Bool × Bool × List Char :=
  match line with
  | '\\' :: '!' :: rest => (false, false, '!' :: rest)
  | '\\' :: '#' :: rest => (false, false, '#' :: rest)
  | '!' :: '/' :: rest => (true, true, rest)
  | '!' :: rest => (true, false, rest)
  | '/' :: rest => (false, true, rest)
  | _ => (false, false, line)

/-- The rule on a line. Comments, blank lines and lines without a proper glob have none. -/
def ofLine? (line : List Char) : Option IgnoreRule :=
  if line.head? = some '#' then none
  else
    let line := trimLine line
    if line.isEmpty then none
    else
      let (keeps, isAnchored, pattern) := splitMarks line
      let (pattern, onlyDirectories) := splitFinalSlash pattern
      (CompiledGlob.ofText? style (anchor isAnchored pattern)).map fun glob =>
        ⟨glob, keeps, onlyDirectories⟩

/-- Bytes cut at line feeds. -/
def byteLines : List UInt8 → List (List UInt8)
  | [] => []
  | b :: rest =>
    if b = 10 then [] :: byteLines rest
    else match byteLines rest with
      | [] => [[b]]
      | l :: ls => (b :: l) :: ls

/-- A line without a carriage return at its end. -/
def withoutReturn (line : List Char) : List Char :=
  if line.getLast? = some '\r' then line.dropLast else line

/-- Lines of text, up to the first one that is not well formed. -/
def textLines : List (List UInt8) → List (List Char)
  | [] => []
  | l :: ls =>
    match Text.Utf8.decode? l with
    | some text => withoutReturn text :: textLines ls
    | none => []

/-- The first line without marks for a byte order. -/
def dropByteOrderMarks : List (List Char) → List (List Char)
  | [] => []
  | l :: ls => l.dropWhile (· == '\ufeff') :: ls

/-- The rules in an ignore file. -/
def ofFile (content : List UInt8) : List IgnoreRule :=
  (dropByteOrderMarks (textLines (byteLines content))).filterMap ofLine?

/-- The rule matches an entry, given by its path from the directory of the ignore file. -/
def isMatch (r : IgnoreRule) (path : List Char) (isDirectory : Bool) : Bool :=
  (isDirectory || !r.onlyDirectories) && r.glob.isMatch path

/-- Whether rules keep or leave out an entry; none if they say nothing about it. -/
def keeps? (rules : List IgnoreRule) (path : List Char) (isDirectory : Bool) : Option Bool :=
  (rules.reverse.find? fun r => r.isMatch path isDirectory).map IgnoreRule.keeps

/-- Later rules decide before earlier ones. -/
theorem keeps?_append (rs ss : List IgnoreRule) (path : List Char) (isDirectory : Bool) :
    keeps? (rs ++ ss) path isDirectory =
      (keeps? ss path isDirectory).or (keeps? rs path isDirectory) := by
  simp only [keeps?, List.reverse_append, List.find?_append]
  cases ss.reverse.find? fun r => r.isMatch path isDirectory <;> rfl

end IgnoreRule

end QualityGate
