/-!
White space. `isBlank` is the `White_Space` property of the Unicode standard, and the three
trimming functions drop the characters that have it from one end of a text or from both.

* `trimStart_eq_nil`: trimming leaves nothing exactly of a text that is blank throughout.
* `trimStart_append` splits a text into its leading white space and the rest.
-/

namespace QualityGate.Text

/-- The characters with the `White_Space` property. -/
def isBlank (c : Char) : Bool :=
  let n := c.toNat
  (9 ≤ n && n ≤ 13) || n == 0x20 || n == 0x85 || n == 0xA0 || n == 0x1680 ||
    (0x2000 ≤ n && n ≤ 0x200A) || n == 0x2028 || n == 0x2029 || n == 0x202F ||
    n == 0x205F || n == 0x3000

/-- The leading white space of a text. -/
def indentation (s : List Char) : List Char := s.takeWhile isBlank

/-- A text without its leading white space. -/
def trimStart (s : List Char) : List Char := s.dropWhile isBlank

/-- A text without its trailing white space. -/
def trimEnd (s : List Char) : List Char := (s.reverse.dropWhile isBlank).reverse

/-- A text without its leading and trailing white space. -/
def trim (s : List Char) : List Char := trimEnd (trimStart s)

/-- Leading white space and the rest make up the text. -/
theorem trimStart_append (s : List Char) : indentation s ++ trimStart s = s :=
  List.takeWhile_append_dropWhile

/-- Nothing is left exactly of a blank text. -/
theorem trimStart_eq_nil {s : List Char} : trimStart s = [] ↔ ∀ c ∈ s, isBlank c = true := by
  induction s with
  | nil => simp [trimStart]
  | cons c s ih =>
    simp only [trimStart, List.dropWhile_cons, List.mem_cons, forall_eq_or_imp] at ih ⊢
    cases h : isBlank c <;> simp [ih]

/-- A text whose first character is no white space is left alone at the front. -/
theorem trimStart_cons_of_not_blank {c : Char} (h : isBlank c = false) (s : List Char) :
    trimStart (c :: s) = c :: s := by
  simp [trimStart, h]

end QualityGate.Text
