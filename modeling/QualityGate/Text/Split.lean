/-!
Cutting a text at a separator.

* `splitAt_ne_nil`: there is always at least one part.
* `intercalate_splitAt`: putting the separator back between the parts gives the text.
-/

namespace QualityGate.Text

/-- The parts of a text between the occurrences of a separator. -/
def splitAt (sep : Char) : List Char → List (List Char)
  | [] => [[]]
  | c :: rest =>
    if c = sep then [] :: splitAt sep rest
    else match splitAt sep rest with
      | [] => [[c]]
      | p :: ps => (c :: p) :: ps

/-- There is always at least one part. -/
theorem splitAt_ne_nil (sep : Char) (s : List Char) : splitAt sep s ≠ [] := by
  cases s with
  | nil => simp [splitAt]
  | cons c s =>
    rw [splitAt]
    split
    · simp
    · split <;> simp

/-- Putting the separator back between the parts gives the text. -/
theorem intercalate_splitAt (sep : Char) (s : List Char) :
    [sep].intercalate (splitAt sep s) = s := by
  induction s with
  | nil => simp [splitAt, List.intercalate]
  | cons c s ih =>
    rw [splitAt]
    split
    · next h =>
      subst h
      cases hs : splitAt c s with
      | nil => exact absurd hs (splitAt_ne_nil c s)
      | cons p ps => rw [hs] at ih; simp [List.intercalate, ← ih]
    · split
      · next hs => exact absurd hs (splitAt_ne_nil sep s)
      · next p ps hs =>
        rw [hs] at ih
        cases ps with
        | nil => simp_all [List.intercalate]
        | cons q qs => simp_all [List.intercalate]

end QualityGate.Text
