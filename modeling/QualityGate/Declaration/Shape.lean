import QualityGate.Text.Reader
import QualityGate.Declaration.Basic
import QualityGate.Declaration.Annotation

/-!
The shapes by which declarations are recognised, one line at a time. A member looks like

  `[visibility] modifiers [<type parameters>] [type] name (`

and a type declaration like `[visibility] modifiers keyword name`. Several readings of a line can
have such a shape; the preferred one counts, in which an optional part is read where it can be.
A member that involves a statement keyword is none, and a bare `name (` is only one when an access
modifier says so.
-/

namespace QualityGate

open Text (Reader isBlank)
open Text.Reader

/-! ### Words -/

/-- Words that stand where a type or a member name could, and only ever start statements. -/
def statementKeywords : List String :=
  ["if", "for", "while", "switch", "catch", "new", "return", "throw", "else", "case", "do", "try",
   "synchronized", "assert", "yield", "record"]

/-- Modifiers of members. -/
def memberModifiers : List String :=
  ["static", "final", "abstract", "synchronized", "native", "default", "strictfp"]

/-- Modifiers of types. -/
def typeModifiers : List String :=
  ["static", "final", "abstract", "sealed", "non-sealed", "strictfp"]

/-- Words that introduce a type. -/
def typeKeywords : List String := ["class", "interface", "enum", "record", "@interface"]

/-- The word only ever starts a statement. -/
def isStatementKeyword (w : List Char) : Bool := statementKeywords.any fun k => k.toList == w

/-- First characters of names. -/
def isNameStart (c : Char) : Bool := c.isAlpha || c == '_' || c == '$'

/-- Characters of names. -/
def isNameChar (c : Char) : Bool := Unicode.isWord c || c == '$'

/-- Characters of qualified names. -/
def isQualifiedChar (c : Char) : Bool := isNameChar c || c == '.'

/-- The characters of the first word of a line, as far as statement keywords are looked for. -/
def isLeadingWordChar (c : Char) : Bool := Unicode.isAlphanumeric c || c == '_' || c == '$'

/-! ### Parts of a shape -/

/-- An access modifier and white space, if there is one. -/
def visibilityPart : Reader (Option Visibility) :=
  optional fun s => Visibility.modifiers.flatMap fun v =>
    andThen (literal v.name.toList) (fun _ => map (fun _ => v) blanks1) s

/-- Modifiers, each with white space after it. -/
def modifiersPart (words : List String) : Reader (List (List Char)) :=
  many (andThen (oneOf (words.map String.toList)) fun w => map (fun _ => w) blanks1)

/-- The ways to end an angle bracket at some `>`, the nearest one first. Parentheses cannot stand
in between. -/
def closeAngle : Reader (List Char)
  | [] => []
  | c :: rest =>
    (if c = '>' then [(['>'], rest)] else []) ++
      if c = '(' ∨ c = ')' then [] else (closeAngle rest).map fun w => (c :: w.1, w.2)

/-- An angle bracket and its content. -/
def angle : Reader (List Char) := andThen (char (· == '<')) fun c => map (c :: ·) closeAngle

/-- An angle bracket of type parameters and white space after it, if there is one. -/
def typeParametersPart : Reader (Option (List Char)) :=
  optional (andThen angle fun a => map (fun _ => a) blanks)

/-- An empty pair of square brackets, white space allowed before it and in it. -/
def arrayBrackets : Reader (List Char) :=
  andThen blanks fun a => andThen (char (· == '[')) fun o =>
    andThen blanks fun b => map (fun c => a ++ o :: b ++ [c]) (char (· == ']'))

/-- A type: a qualified name, an angle bracket if there is one, and array brackets. -/
def typeName : Reader (List Char) :=
  andThen (char isNameChar) fun c => andThen (run isQualifiedChar) fun cs =>
    andThen (optional angle) fun a =>
      map (fun bs => c :: cs ++ a.getD [] ++ bs.flatten) (many arrayBrackets)

/-- A type and white space after it, if there is one. -/
def typePart : Reader (Option (List Char)) :=
  optional (andThen typeName fun t => map (fun _ => t) blanks1)

/-- A name. -/
def namePart : Reader (List Char) :=
  andThen (char isNameStart) fun c => map (c :: ·) (run isNameChar)

/-! ### Members and types -/

/-- What the shape of a member consists of, as far as it matters. -/
structure MemberShape where
  visibility : Option Visibility
  type : Option (List Char)
  name : List Char
  deriving DecidableEq, Repr

/-- The readings of a line as a member. -/
def memberShape : Reader MemberShape :=
  andThen visibilityPart fun v => andThen (modifiersPart memberModifiers) fun _ =>
    andThen typeParametersPart fun _ => andThen typePart fun t => andThen namePart fun n =>
      andThen blanks fun _ => map (fun _ => ⟨v, t, n⟩) (char (· == '('))

/-- The readings of a line as a type declaration: its visibility and name. -/
def typeShape : Reader (Option Visibility × List Char) :=
  andThen visibilityPart fun v => andThen (modifiersPart typeModifiers) fun _ =>
    andThen (oneOf (typeKeywords.map String.toList)) fun _ =>
      andThen blanks1 fun _ => map (fun n => (v, n)) namePart

/-- Some word of the shape, or the first word of the line, only ever starts a statement. -/
def MemberShape.isStatement (m : MemberShape) (code : List Char) : Bool :=
  isStatementKeyword (code.takeWhile isLeadingWordChar) || isStatementKeyword m.name ||
    m.type.any isStatementKeyword

/-- What a line with the given shape declares. -/
def MemberShape.declaration? (m : MemberShape) : Option Declaration :=
  match m.type, m.visibility with
  | some _, v => some ⟨m.name, v.getD .package, .method⟩
  | none, some v => some ⟨m.name, v, .constructor⟩
  | none, none => none

/-- The method or constructor that a line of code declares. Whether it has a body is left open. -/
def memberDeclaration? (line : List Char) : Option Declaration :=
  let code := withoutAnnotations (Text.trim line)
  (first? memberShape code).bind fun m => if m.isStatement code then none else m.declaration?

/-- The type that a line of code declares. -/
def typeDeclaration? (line : List Char) : Option Declaration :=
  (first? typeShape (withoutAnnotations (Text.trim line))).map fun (v, n) =>
    ⟨n, v.getD .package, .type⟩

/-- What a line of code declares. -/
def declaration? (line : List Char) : Option Declaration :=
  (typeDeclaration? line).or (memberDeclaration? line)

end QualityGate
