import QualityGate.Text.Blank
import QualityGate.Unicode.Class
import QualityGate.Unicode.Fold

/-!
Sets of characters, as regular expressions name them: ranges, the classes of words, digits and white
space, and what set operations and case folding make of them.

`CharSet.contains` decides membership; the lemmas say what each operation does to it.
-/

namespace QualityGate.Regex

/-- The classes that sets of characters are built from beside ranges. -/
inductive CharClass where
  | word
  | digit
  | blank
  | letter
  | mark
  | alphabetic
  | alphanumeric
  /-- A general category, by its spans. -/
  | spans (list : List Unicode.Span)
  deriving DecidableEq, Repr

/-- Membership in a class. -/
def CharClass.contains : CharClass → Char → Bool
  | word, c => Unicode.isWord c
  | digit, c => Unicode.isDigit c
  | blank, c => Text.isBlank c
  | letter, c => Unicode.isLetter c
  | mark, c => Unicode.isMark c
  | alphabetic, c => Unicode.isAlphabetic c
  | alphanumeric, c => Unicode.isAlphanumeric c
  | spans list, c => Unicode.inSpans list c

/-- A set of characters. -/
inductive CharSet where
  | empty
  /-- All characters from the first to the last. -/
  | range (first last : Char)
  | ofClass (k : CharClass)
  | not (s : CharSet)
  | union (s t : CharSet)
  | inter (s t : CharSet)
  /-- The characters that are equal, up to case, to one in the set. -/
  | folded (s : CharSet)
  /-- The same, where only ASCII letters have two cases. -/
  | foldedAscii (s : CharSet)
  deriving DecidableEq, Repr, Inhabited

namespace CharSet

/-- The other case of an ASCII letter, and any other character itself. -/
def otherAsciiCase (c : Char) : Char :=
  if c.isUpper then c.toLower else if c.isLower then c.toUpper else c

/-- Membership in a set of characters. -/
def contains : CharSet → Char → Bool
  | empty, _ => false
  | range first last, c => first.toNat ≤ c.toNat && c.toNat ≤ last.toNat
  | ofClass k, c => k.contains c
  | not s, c => !s.contains c
  | union s t, c => s.contains c || t.contains c
  | inter s t, c => s.contains c && t.contains c
  | folded s, c => s.contains c || (Unicode.caseVariants c).any s.contains
  | foldedAscii s, c => s.contains c || s.contains (otherAsciiCase c)

/-- The set of one character. -/
def single (c : Char) : CharSet := range c c

/-- All characters. -/
def all : CharSet := not empty

/-- All characters but one. -/
def allBut (c : Char) : CharSet := not (single c)

/-- The union of some sets. -/
def unionAll (sets : List CharSet) : CharSet := sets.foldr union empty

/-- The characters of a text. -/
def ofList (cs : List Char) : CharSet := unionAll (cs.map single)

/-- What is in the first set and not in the second. -/
def diff (s t : CharSet) : CharSet := inter s (not t)

/-- What is in one of two sets only. -/
def symmDiff (s t : CharSet) : CharSet := union (diff s t) (diff t s)

/-- A set of one character has that character in it and no other. -/
@[simp] theorem contains_single (c d : Char) : (single c).contains d = decide (d = c) := by
  simp only [single, contains]
  rw [← Bool.decide_and]
  congr 1
  rw [← Char.toNat_inj]
  exact propext (by omega)

/-- A union has what one of its sets has. -/
@[simp] theorem contains_unionAll (sets : List CharSet) (c : Char) :
    (unionAll sets).contains c = sets.any fun s => s.contains c := by
  induction sets with
  | nil => rfl
  | cons s sets ih => simp [unionAll, contains, ← ih]

/-- The set of the characters of a text. -/
@[simp] theorem contains_ofList (cs : List Char) (c : Char) :
    (ofList cs).contains c = decide (c ∈ cs) := by
  induction cs with
  | nil => rfl
  | cons d cs ih =>
    rw [ofList, List.map_cons, contains_unionAll, List.any_cons, ← contains_unionAll]
    change (_ || (ofList cs).contains c) = _
    rw [ih, contains_single]
    simp [Bool.decide_or]

end CharSet

end QualityGate.Regex
