import QualityGate.Text.Split
import Mathlib.Tactic

/-!
The parts of a text that is put together. Cutting at a separator undoes putting texts without it
together with the separator in between.

* `splitAt_append`: a text is cut at a separator in it.
* `splitAt_intercalate`: parts without the separator are the parts of the text made of them.
-/

namespace QualityGate.Text

variable {sep : Char}

/-- A text is cut at a separator in it, and elsewhere as the texts around that separator are. -/
lemma splitAt_append (s t : List Char) :
    splitAt sep (s ++ sep :: t) = splitAt sep s ++ splitAt sep t := by
  induction s with
  | nil =>
      show splitAt sep (sep :: t) = [] :: splitAt sep t
      rw [splitAt, if_pos rfl]
  | cons c s ih =>
      rw [List.cons_append, splitAt, splitAt, ih]
      split_ifs with hc
      · rfl
      · obtain ⟨p, ps, hs⟩ := List.exists_cons_of_ne_nil (splitAt_ne_nil sep s)
        rw [hs]
        rfl

/-- A text without the separator is not cut. -/
lemma splitAt_of_not_mem {s : List Char} (hs : sep ∉ s) : splitAt sep s = [s] := by
  induction s with
  | nil => rfl
  | cons c s ih =>
      rw [List.mem_cons, not_or] at hs
      rw [splitAt, if_neg (Ne.symm hs.1), ih hs.2]

/-- A text without the separator is the first part of what goes on after a separator. -/
lemma splitAt_append_of_not_mem {s : List Char} (hs : sep ∉ s) (t : List Char) :
    splitAt sep (s ++ sep :: t) = s :: splitAt sep t := by
  rw [splitAt_append, splitAt_of_not_mem hs]
  rfl

/-- Parts without the separator are the parts of the text made of them. -/
lemma splitAt_intercalate {parts : List (List Char)} (hne : parts ≠ [])
    (hparts : ∀ p ∈ parts, sep ∉ p) : splitAt sep ([sep].intercalate parts) = parts := by
  induction parts with
  | nil => exact absurd rfl hne
  | cons p ps ih =>
      obtain ⟨hp, hps⟩ := List.forall_mem_cons.1 hparts
      cases ps with
      | nil =>
          rw [List.intercalate_singleton]
          exact splitAt_of_not_mem hp
      | cons q qs =>
          rw [List.intercalate_cons_cons, List.append_assoc, List.singleton_append,
            splitAt_append_of_not_mem hp, ih (List.cons_ne_nil _ _) hps]

end QualityGate.Text
