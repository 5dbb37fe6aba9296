import QualityGate.Glob.Basic
import QualityGate.Regex.Build

/-!
Matching globs. A glob stands for a regular expression over the bytes of a path, and a path matches
if all of its bytes do.

* `Glob.toRegex`: the expression of a glob.
* `Glob.isMatch`: a path matches a glob.
-/

namespace QualityGate

namespace Glob

open Regex

/-- A byte as a character. -/
def ofByte (b : UInt8) : Char := Char.ofNat b.toNat

/-- The bytes of a text, each as a character. -/
def bytes (s : List Char) : List Char := (s.flatMap String.utf8EncodeChar).map ofByte

/-- All bytes. -/
def anyBytes : Regex := .run .all 0 none true

/-- A slash. -/
def slash : Regex := char '/'

/-- The bytes of a range of a class. Of a range between longer characters, the last byte of the
first character and the first byte of the last one are the ends. -/
def rangeSet (first last : Char) : CharSet :=
  if first = last then CharSet.ofList (bytes [first])
  else
    let low := bytes [first]
    let high := bytes [last]
    match low.getLast?, high.head? with
    | some a, some b =>
      .union (CharSet.ofList low.dropLast) (.union (.range a b) (CharSet.ofList high.tail))
    | _, _ => .empty

/-- The bytes of a class. -/
def classSet (negated : Bool) (ranges : List (Char × Char)) : CharSet :=
  let set := CharSet.unionAll (ranges.map fun r => rangeSet r.1 r.2)
  if negated then .not set else set

/-- The bytes that a wildcard matches. -/
def wildSet (style : GlobStyle) : CharSet := if style.keepsSlashes then .allBut '/' else .all

mutual

/-- The expression of a token. -/
def tokenRegex (style : GlobStyle) : GlobToken → Regex
  | .literal c => seqAll ((bytes [c]).map char)
  | .any => .chars (wildSet style)
  | .many => .run (wildSet style) 0 none true
  | .deepFront => .alt (opt slash) (.seq anyBytes slash)
  | .deepEnd => .seq slash anyBytes
  | .deepMiddle => .alt slash (.seq slash (.seq anyBytes slash))
  | .oneOf negated ranges => .chars (classSet negated ranges)
  | .choice branches =>
    match branchRegexes style branches with
    | [] => .empty
    | rs => altAll rs

/-- The expressions of tokens in a row. -/
def tokenRegexes (style : GlobStyle) : List GlobToken → List Regex
  | [] => []
  | t :: ts => tokenRegex style t :: tokenRegexes style ts

/-- The expressions of branches. A branch that asks for nothing is left out. -/
def branchRegexes (style : GlobStyle) : List (List GlobToken) → List Regex
  | [] => []
  | ts :: rest =>
    match (tokenRegexes style ts).filter (· != .empty) with
    | [] => branchRegexes style rest
    | rs => seqAll rs :: branchRegexes style rest

end

/-- The expression of a glob. Two stars alone match everything. -/
def toRegex (g : Glob) : Regex :=
  match g.tokens with
  | [.deepFront] => anyBytes
  | ts => seqAll (tokenRegexes g.style ts)

end Glob

/-- A glob with its expression, ready for use. -/
structure CompiledGlob where
  expression : Regex
  deriving Inhabited

namespace CompiledGlob

/-- A glob made ready. -/
def ofGlob (g : Glob) : CompiledGlob := ⟨g.toRegex⟩

/-- The glob that a text stands for, made ready. -/
def ofText? (style : GlobStyle) (s : List Char) : Option CompiledGlob :=
  (Glob.ofText? style s).map ofGlob

/-- A path matches. -/
def isMatch (g : CompiledGlob) (path : List Char) : Bool :=
  g.expression.matchesAll (Glob.bytes path)

end CompiledGlob

end QualityGate
