import QualityGate.Text.Blank
import QualityGate.Unicode.Class
import Mathlib.Tactic

/-!
White space in texts that are put together, and properties of all characters of a text.

* `mem_blankChars`: all characters of white space, as a list.
* `isWord_of_isBlank`: white space is no part of a word.
* `trim_append_cons`: a character that is no white space ends the white space on either side of it,
  so only what is outside of it is trimmed.
* `forall_head?_append`: what the first character of a text is like that starts with a run.
* `takeWhile_stop`, `dropWhile_stop`: a run ends at a character of another kind at the latest.
* `takeWhile_append_of_head`, `append_inj_of_run`: where a run of characters ends, and where it
  starts.
-/

namespace QualityGate

/-- What holds of all characters of a text is decided by going through the text, and not through all
characters that there are. -/
instance (priority := high) decidableForallMem (s : List Char) (p : Char → Prop) [DecidablePred p] :
    Decidable (∀ c ∈ s, p c) :=
  List.decidableBAll p s

/-- The same for one character, which may be missing. -/
instance (priority := high) decidableForallMemOption (o : Option Char) (p : Char → Prop)
    [DecidablePred p] : Decidable (∀ c ∈ o, p c) :=
  o.decidableForallMem

/-- The characters of white space. -/
def blankChars : List Char :=
  (List.range' 9 5 ++ [0x20, 0x85, 0xA0, 0x1680] ++ List.range' 0x2000 11 ++
    [0x2028, 0x2029, 0x202F, 0x205F, 0x3000]).map Char.ofNat

/-- There is no other white space. -/
lemma mem_blankChars {c : Char} (h : Text.isBlank c = true) : c ∈ blankChars := by
  refine List.mem_map.2 ⟨c.toNat, ?_, Char.ofNat_toNat c⟩
  simp only [Text.isBlank, Bool.or_eq_true, Bool.and_eq_true, decide_eq_true_eq, beq_iff_eq] at h
  simp only [List.mem_append, List.mem_range'_1, List.mem_cons, List.not_mem_nil]
  omega

/-- White space is no part of a word. -/
theorem isWord_of_isBlank {c : Char} (h : Text.isBlank c = true) :
    Unicode.isWord c = false ∧ Unicode.isAlphanumeric c = false := by
  -- the tables are gone through once for both classes
  have hall : ∀ d ∈ blankChars,
      (Unicode.isWord d || Unicode.inSpans Unicode.otherNumber d) = false := by decide +kernel
  have hc := hall c (mem_blankChars h)
  simp only [Bool.or_eq_false_iff] at hc
  refine ⟨hc.1, ?_⟩
  rw [Unicode.isWord] at hc
  rw [Unicode.isAlphanumeric]
  split_ifs at hc ⊢ with hascii
  · exact (Bool.or_eq_false_iff.1 hc.1).1
  · simp only [Bool.or_eq_false_iff] at hc ⊢
    exact ⟨⟨hc.1.1.1.1.1.1, hc.1.1.1.1.2⟩, hc.2⟩

/-- White space is not the same as another character. -/
lemma ne_of_isBlank {c d : Char} (h : Text.isBlank c = true) (hd : Text.isBlank d = false) :
    c ≠ d := by
  rintro rfl
  rw [h] at hd
  cases hd

/-- What holds of all characters of a text that is not empty holds of the first one of what starts
with the text. -/
lemma forall_head?_append {P : Char → Prop} {u : List Char} (hne : u ≠ []) (hu : ∀ c ∈ u, P c)
    (v : List Char) : ∀ c ∈ (u ++ v).head?, P c := by
  rw [List.head?_append_of_ne_nil _ hne]
  exact fun c hc => hu c (List.mem_of_mem_head? hc)

/-- The same where the text may be empty, and the character after it has the property too. -/
lemma forall_head?_append_cons {P : Char → Prop} {u : List Char} {d : Char} (hu : ∀ c ∈ u, P c)
    (hd : P d) (v : List Char) : ∀ c ∈ (u ++ d :: v).head?, P c := by
  have hall : ∀ c ∈ u ++ [d], P c := by simpa [or_imp, forall_and] using ⟨hu, hd⟩
  rw [List.append_cons]
  exact forall_head?_append (by simp) hall v

/-- What is taken from the front of a text ends at a character of another kind at the latest. -/
lemma takeWhile_stop {p : Char → Bool} {c : Char} (hc : p c = false) (s rest : List Char) :
    (s ++ c :: rest).takeWhile p = s.takeWhile p := by
  induction s with
  | nil => exact List.takeWhile_cons_of_neg (by simp [hc])
  | cons d s ih => by_cases hd : p d = true <;> simp [hd, ih]

/-- What is left then ends with this character and what is behind it. -/
lemma dropWhile_stop {p : Char → Bool} {c : Char} (hc : p c = false) (s rest : List Char) :
    (s ++ c :: rest).dropWhile p = s.dropWhile p ++ c :: rest := by
  induction s with
  | nil => exact List.dropWhile_cons_of_neg (by simp [hc])
  | cons d s ih => by_cases hd : p d = true <;> simp [hd, ih]

/-- A run of characters of a class ends in front of what is not in the class. -/
lemma takeWhile_append_of_head {α : Type} {p : α → Bool} {u v : List α} (hu : ∀ c ∈ u, p c = true)
    (hv : ∀ c ∈ v.head?, p c = false) :
    (u ++ v).takeWhile p = u ∧ (u ++ v).dropWhile p = v := by
  rw [List.takeWhile_append_of_pos hu, List.dropWhile_append_of_pos hu]
  cases v with
  | nil => simp
  | cons c v => simp [hv c rfl]

/-- A text, or another list, is cut in one way only into a front and a run of characters of a class
that the front does not end in. -/
lemma append_inj_of_run {α : Type} {p : α → Bool} {a b c d : List α} (h : a ++ b = c ++ d)
    (hb : ∀ x ∈ b, p x = true) (hd : ∀ x ∈ d, p x = true) (ha : ∀ x ∈ a.getLast?, p x = false)
    (hc : ∀ x ∈ c.getLast?, p x = false) : a = c ∧ b = d := by
  have hcut {a b : List α} (hb : ∀ x ∈ b, p x = true) (ha : ∀ x ∈ a.getLast?, p x = false) :
      (a ++ b).reverse.takeWhile p = b.reverse ∧ (a ++ b).reverse.dropWhile p = a.reverse := by
    rw [List.reverse_append]
    exact takeWhile_append_of_head (fun x hx => hb x (List.mem_reverse.1 hx))
      (fun x hx => ha x (by rwa [← List.head?_reverse]))
  have hfirst := hcut hb ha
  have hsecond := hcut hd hc
  rw [h] at hfirst
  exact ⟨List.reverse_injective (hfirst.2.symm.trans hsecond.2),
    List.reverse_injective (hfirst.1.symm.trans hsecond.1)⟩

variable {c : Char}

/-- A character that is no white space ends the leading white space. -/
lemma trimStart_append_cons (hc : Text.isBlank c = false) (u t : List Char) :
    Text.trimStart (u ++ c :: t) = Text.trimStart u ++ c :: t :=
  dropWhile_stop hc u t

/-- A character that is no white space ends the trailing white space. -/
lemma trimEnd_append_cons (hc : Text.isBlank c = false) (u t : List Char) :
    Text.trimEnd (u ++ c :: t) = u ++ c :: Text.trimEnd t := by
  have hreverse : (u ++ c :: t).reverse = t.reverse ++ c :: u.reverse := by simp
  have hstart := trimStart_append_cons hc t.reverse u.reverse
  rw [Text.trimStart] at hstart
  rw [Text.trimEnd, hreverse, hstart]
  simp [Text.trimEnd, Text.trimStart]

lemma trim_append_cons (hc : Text.isBlank c = false) (u t : List Char) :
    Text.trim (u ++ c :: t) = Text.trimStart u ++ c :: Text.trimEnd t := by
  rw [Text.trim, trimStart_append_cons hc, trimEnd_append_cons hc]

/-- White space in front of a text is trimmed away. -/
lemma trim_cons_of_blank (hc : Text.isBlank c = true) (t : List Char) :
    Text.trim (c :: t) = Text.trim t := by
  rw [Text.trim, Text.trim, Text.trimStart, List.dropWhile_cons_of_pos hc, Text.trimStart]

/-- White space in front of a text is dropped. -/
lemma trimStart_blank_append {u : List Char} (hu : ∀ d ∈ u, Text.isBlank d = true) (t : List Char) :
    Text.trimStart (u ++ t) = Text.trimStart t :=
  List.dropWhile_append_of_pos hu

/-- Nothing but white space is trimmed away at the end of a text. -/
lemma exists_trimEnd_append (t : List Char) :
    ∃ w, (∀ c ∈ w, Text.isBlank c = true) ∧ Text.trimEnd t ++ w = t := by
  refine ⟨(t.reverse.takeWhile Text.isBlank).reverse, fun c hc => ?_, ?_⟩
  · exact List.all_eq_true.1 List.all_takeWhile c (List.mem_reverse.1 hc)
  · rw [Text.trimEnd, ← List.reverse_append, List.takeWhile_append_dropWhile, List.reverse_reverse]

/-- A text starts with what is left of it without trailing white space. -/
lemma trimEnd_prefix_self (t : List Char) : Text.trimEnd t <+: t := by
  obtain ⟨w, -, hw⟩ := exists_trimEnd_append t
  exact ⟨w, hw⟩

end QualityGate
