import QualityGate.Source.Line
import Mathlib.Tactic

/-!
Source texts as sequences of lexical elements: characters of plain code, comments, literals and text
blocks. Elements are delimited from left to right, so an element is only well placed before the text
that follows it: a slash of plain code is not followed by a slash or a star, an element that is not
closed extends to the end of its line or of the text, and a triple quote opens a text block.

* `Element.Delimited`, `WellFormed`: when elements stand where a text can be cut into them.
* `Element.marks`: the characters of an element, each with the region that it belongs to.
* `Region.after`: the lexical state right after a character of a region.
-/

namespace QualityGate

/-! ### Elements -/

/-- What a literal or a text block holds: a character, or a backslash and the character after it. -/
inductive Piece where
  | char (c : Char)
  | escape (c : Char)
  deriving DecidableEq, Repr

/-- The characters of a piece. -/
def Piece.text : Piece → List Char
  | char c => [c]
  | escape c => ['\\', c]

/-- How a literal or a text block ends. -/
inductive Ending where
  | closed
  | unclosed
  /-- Not closed, and the last character is a backslash that has nothing to take along. -/
  | backslash
  deriving DecidableEq, Repr

/-- The characters at the end of an element, given its closing mark. -/
def Ending.text (closer : List Char) : Ending → List Char
  | closed => closer
  | unclosed => []
  | backslash => ['\\']

/-- The mark that opens and closes a text block. -/
def tripleQuote : List Char := ['"', '"', '"']

/-- A lexical element. -/
inductive Element where
  | plain (c : Char)
  /-- A comment up to the end of its line, given without its two slashes. -/
  | lineComment (body : List Char)
  /-- A comment between its marks; one that is not closed extends to the end of the text. -/
  | blockComment (body : List Char) (closed : Bool)
  /-- A string or character literal; one that is not closed extends to the end of its line. -/
  | literal (quote : Char) (body : List Piece) (ending : Ending)
  /-- A text block; one that is not closed extends to the end of the text. -/
  | textBlock (body : List Piece) (ending : Ending)
  deriving DecidableEq, Repr

/-- The characters of pieces. -/
def piecesText (ps : List Piece) : List Char := ps.flatMap Piece.text

/-- The characters of an element. -/
def Element.text : Element → List Char
  | plain c => [c]
  | lineComment body => '/' :: '/' :: body
  | blockComment body closed => '/' :: '*' :: body ++ if closed then ['*', '/'] else []
  | literal quote body ending => quote :: piecesText body ++ ending.text [quote]
  | textBlock body ending => tripleQuote ++ piecesText body ++ ending.text tripleQuote

@[simp] lemma piecesText_nil : piecesText [] = [] := rfl

@[simp] lemma piecesText_char (c : Char) (ps : List Piece) :
    piecesText (.char c :: ps) = c :: piecesText ps := rfl

@[simp] lemma piecesText_escape (c : Char) (ps : List Piece) :
    piecesText (.escape c :: ps) = '\\' :: c :: piecesText ps := rfl

/-- The text that elements make up. -/
def render (es : List Element) : List Char := es.flatMap Element.text

/-! ### Delimiting -/

/-- The text is over or goes on with a new line. -/
def AtLineEnd (rest : List Char) : Prop := ∀ c ∈ rest.head?, c = '\n'

/-- The text does not go on with a character that a slash before it would start a comment with. -/
def AtNoComment (rest : List Char) : Prop := ∀ d ∈ rest.head?, d ≠ '/' ∧ d ≠ '*'

/-- A piece can stand in a literal with the given quote, which is on one line. -/
def Piece.InLiteral (quote : Char) : Piece → Prop
  | char c => c ≠ quote ∧ c ≠ '\\' ∧ c ≠ '\n'
  | escape c => c ≠ '\n'

/-- A piece can stand in a text block, where a backslash always takes a character along. -/
def Piece.InTextBlock : Piece → Prop
  | char c => c ≠ '\\'
  | escape _ => True

/-- No triple quote starts at one of the pieces, which are followed by the given text. -/
def NoTripleQuote (after : List Char) : List Piece → Prop
  | [] => True
  | p :: ps => ¬ tripleQuote <+: p.text ++ (piecesText ps ++ after) ∧ NoTripleQuote after ps

/-- The element ends where it says when it is read from left to right with the given text after
it. -/
def Element.Delimited (rest : List Char) : Element → Prop
  | plain c => c ≠ '"' ∧ c ≠ '\'' ∧ (c = '/' → AtNoComment rest)
  | lineComment body => '\n' ∉ body ∧ AtLineEnd rest
  | blockComment body closed => ¬ ['*', '/'] <:+: body ∧ (closed = false → rest = [])
  | literal quote body ending =>
      (quote = '"' ∨ quote = '\'') ∧ (∀ p ∈ body, p.InLiteral quote) ∧
        (ending ≠ .closed → AtLineEnd rest) ∧
        ¬ tripleQuote <+: quote :: (piecesText body ++ (ending.text [quote] ++ rest))
  | textBlock body ending =>
      (∀ p ∈ body, p.InTextBlock) ∧ NoTripleQuote (ending.text tripleQuote ++ rest) body ∧
        (ending ≠ .closed → rest = [])

/-- Every element ends where the next one starts. -/
def WellFormed : List Element → Prop
  | [] => True
  | e :: es => e.Delimited (render es) ∧ WellFormed es

/-- What follows an element of well-formed elements is well-formed too. -/
lemma WellFormed.of_append {es fs : List Element} (h : WellFormed (es ++ fs)) : WellFormed fs := by
  induction es with
  | nil => exact h
  | cons e es ih => exact ih h.2

instance (rest : List Char) : Decidable (AtLineEnd rest) :=
  Option.decidableForallMem rest.head?

instance (rest : List Char) : Decidable (AtNoComment rest) :=
  Option.decidableForallMem rest.head?

instance (quote : Char) : DecidablePred (Piece.InLiteral quote)
  | .char c => inferInstanceAs (Decidable (c ≠ quote ∧ c ≠ '\\' ∧ c ≠ '\n'))
  | .escape c => inferInstanceAs (Decidable (c ≠ '\n'))

instance : DecidablePred Piece.InTextBlock
  | .char c => inferInstanceAs (Decidable (c ≠ '\\'))
  | .escape _ => inferInstanceAs (Decidable True)

instance decidableNoTripleQuote (after : List Char) : DecidablePred (NoTripleQuote after)
  | [] => inferInstanceAs (Decidable True)
  | p :: ps =>
    have := decidableNoTripleQuote after ps
    inferInstanceAs (Decidable (¬ tripleQuote <+: p.text ++ (piecesText ps ++ after) ∧ _))

instance (rest : List Char) : DecidablePred (Element.Delimited rest)
  | .plain c => inferInstanceAs (Decidable (c ≠ '"' ∧ c ≠ '\'' ∧ (c = '/' → AtNoComment rest)))
  | .lineComment body => inferInstanceAs (Decidable ('\n' ∉ body ∧ AtLineEnd rest))
  | .blockComment body closed =>
    inferInstanceAs (Decidable (¬ ['*', '/'] <:+: body ∧ (closed = false → rest = [])))
  | .literal quote body ending => inferInstanceAs
      (Decidable ((quote = '"' ∨ quote = '\'') ∧ (∀ p ∈ body, p.InLiteral quote) ∧
        (ending ≠ .closed → AtLineEnd rest) ∧
        ¬ tripleQuote <+: quote :: (piecesText body ++ (ending.text [quote] ++ rest))))
  | .textBlock body ending => inferInstanceAs
      (Decidable ((∀ p ∈ body, p.InTextBlock) ∧
        NoTripleQuote (ending.text tripleQuote ++ rest) body ∧ (ending ≠ .closed → rest = [])))

instance decidableWellFormed : DecidablePred WellFormed
  | [] => inferInstanceAs (Decidable True)
  | e :: es =>
    have := decidableWellFormed es
    inferInstanceAs (Decidable (e.Delimited (render es) ∧ WellFormed es))

/-! ### Marked characters -/

/-- What a character belongs to. The last character of a closing mark closes its element. -/
inductive Region where
  | code
  | lineComment
  | blockComment (closes : Bool)
  | literal
  | textBlock (closes : Bool)
  deriving DecidableEq, Repr

/-- The state right after a character: inside a block comment or a text block that is still open. -/
def Region.after : Region → LexState
  | blockComment false => .blockComment
  | textBlock false => .textBlock
  | code | lineComment | literal | blockComment true | textBlock true => .code

/-- A character of a text with what it belongs to. -/
structure Mark where
  char : Char
  region : Region
  deriving DecidableEq, Repr

/-- Characters that belong to the same. -/
def marked (r : Region) (s : List Char) : List Mark := s.map fun c => ⟨c, r⟩

/-- The closing mark of a text block. -/
def closingQuotes : List Mark :=
  [⟨'"', .textBlock false⟩, ⟨'"', .textBlock false⟩, ⟨'"', .textBlock true⟩]

/-- The characters at the end of a text block with what they belong to. -/
def Ending.blockMarks : Ending → List Mark
  | closed => closingQuotes
  | unclosed => []
  | backslash => [⟨'\\', .textBlock false⟩]

/-- The characters of an element with what they belong to. -/
def Element.marks : Element → List Mark
  | plain c => [⟨c, .code⟩]
  | lineComment body => marked .lineComment ('/' :: '/' :: body)
  | blockComment body closed => marked (.blockComment false) ('/' :: '*' :: body) ++
      if closed then [⟨'*', .blockComment false⟩, ⟨'/', .blockComment true⟩] else []
  | literal quote body ending =>
      marked .literal (quote :: piecesText body ++ ending.text [quote])
  | textBlock body ending =>
      marked (.textBlock false) (tripleQuote ++ piecesText body) ++ ending.blockMarks

/-- The characters of elements with what they belong to. -/
def marks (es : List Element) : List Mark := es.flatMap Element.marks

@[simp] lemma map_char_marked (r : Region) (s : List Char) :
    (marked r s).map Mark.char = s := by
  simp [marked, Function.comp_def]

@[simp] lemma marked_append (r : Region) (s t : List Char) :
    marked r (s ++ t) = marked r s ++ marked r t :=
  List.map_append

/-- Marking keeps the characters of an element. -/
lemma Element.map_char_marks (e : Element) : e.marks.map Mark.char = e.text := by
  cases e with
  | plain c | lineComment body | literal quote body ending => simp [Element.marks, Element.text]
  | blockComment body closed => cases closed <;> simp [Element.marks, Element.text]
  | textBlock body ending =>
      cases ending <;> simp [Element.marks, Element.text, Ending.blockMarks, closingQuotes,
        Ending.text, tripleQuote]

/-- Marking keeps the characters of elements. -/
lemma map_char_marks (es : List Element) : (marks es).map Mark.char = render es := by
  rw [marks, render, List.map_flatMap]
  exact List.flatMap_congr fun e _ => e.map_char_marks

/-! ### What a scan keeps and counts -/

/-- What is kept of a character: comments are dropped, and where a block comment closes, a space
takes its place. -/
def Mark.kept (m : Mark) : List Char :=
  match m.region with
  | .code | .literal | .textBlock _ => [m.char]
  | .lineComment | .blockComment false => []
  | .blockComment true => [' ']

/-- The characters of plain code. -/
def plainChars (ms : List Mark) : List Char :=
  (ms.filter fun m => m.region = .code).map Mark.char

/-- The state after marked characters that start in the given state. -/
def stateAfter (s : LexState) (ms : List Mark) : LexState :=
  (ms.getLast?.map fun m => m.region.after).getD s

@[simp] lemma stateAfter_nil (s : LexState) : stateAfter s [] = s := rfl

@[simp] lemma stateAfter_cons (s : LexState) (m : Mark) (ms : List Mark) :
    stateAfter s (m :: ms) = stateAfter m.region.after ms := by
  cases ms with
  | nil => rfl
  | cons n ms =>
      rw [stateAfter, stateAfter, List.getLast?_cons_cons]
      cases h : (n :: ms).getLast? with
      | none => simp at h
      | some k => rfl

lemma stateAfter_append (s : LexState) (ms ns : List Mark) :
    stateAfter s (ms ++ ns) = stateAfter (stateAfter s ms) ns := by
  induction ms generalizing s with
  | nil => rfl
  | cons m ms ih => simp [ih]

/-- After characters of one region the state is the one of the region. -/
@[simp] lemma stateAfter_marked_cons (s : LexState) (r : Region) (c : Char) (t : List Char) :
    stateAfter s (marked r (c :: t)) = r.after := by
  induction t generalizing s c with
  | nil => rfl
  | cons d t ih => rw [marked, List.map_cons, ← marked, stateAfter_cons, ih]

/-- The scan that marked characters of one line give: the counts of their plain code, and what is
kept of them. -/
def scanOf (s : LexState) (ms : List Mark) : Scan where
  opens := (plainChars ms).count '{'
  closes := (plainChars ms).count '}'
  parenDelta := (plainChars ms).count '(' - (plainChars ms).count ')'
  exit := stateAfter s ms
  code := ms.flatMap Mark.kept

end QualityGate
