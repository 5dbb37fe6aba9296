import QualityGate.Proofs.Source.Marking
import Mathlib.Tactic

/-!
Scanning a line whose comments are gone. A comment leaves a space where it closes, or nothing at the
end of the line, so two characters that a comment kept apart never form a new mark. The code of a
scan is therefore scanned as the line was, and nothing more is removed from it.

* `LexState.uncommented`, `Scan.uncommented`: a state or a scan in a text without comments.
* `mem_head?_code`: the first character that is left of a line is its first one, or the space of a
  comment.
* `splitLiteral_inside_append`: a literal ends where it ended, whatever follows its closing quote.
* **`Scan.ofLine_code`**: the code of a scan is scanned as the line was.
-/

namespace QualityGate

/-- The state in a text without comments: where a comment was, there is code. -/
def LexState.uncommented : LexState → LexState
  | .blockComment => .code
  | s => s

namespace Scan

/-- The scan of a text without comments. -/
def uncommented (s : Scan) : Scan := { s with exit := s.exit.uncommented }

@[simp] lemma uncommented_keep (text : List Char) (s : Scan) :
    (s.keep text).uncommented = s.uncommented.keep text := rfl

@[simp] lemma uncommented_count (c : Char) (s : Scan) :
    (s.count c).uncommented = s.uncommented.count c := rfl

@[simp] lemma code_keep (text : List Char) (s : Scan) : (s.keep text).code = text ++ s.code := rfl

@[simp] lemma code_count (c : Char) (s : Scan) : (s.count c).code = c :: s.code := rfl

/-- A space is kept, and counts for nothing. -/
lemma count_space (s : Scan) : s.count ' ' = s.keep [' '] := by simp [count, keep]

/-! ### The first character that is left -/

/-- From inside a comment nothing is left before the space at its end. -/
lemma head?_code_blockComment {t : List Char} {c : Char}
    (h : c ∈ (ofLine .blockComment t).code.head?) : c = ' ' := by
  induction t with
  | nil => simp [ofLine, empty] at h
  | cons d t ih =>
      by_cases hclose : ∃ rest, d :: t = '*' :: '/' :: rest
      · obtain ⟨rest, hclose⟩ := hclose
        rw [hclose, ofLine.eq_2] at h
        exact (Option.some.inj h).symm
      · rw [ofLine.eq_3 _ _ fun rest hd ht => hclose ⟨rest, by rw [hd, ht]⟩] at h
        exact ih h

/-- **What is left of a text starts** with the first character of the text, or with the space that a
comment leaves. -/
theorem mem_head?_code {s : LexState} {t : List Char} {c : Char}
    (h : c ∈ (ofLine s t).code.head?) : c = ' ' ∨ c ∈ t.head? := by
  fun_cases ofLine s t with
  | case1 s =>
      rw [ofLine.eq_1] at h
      cases h
  | case2 rest =>
      rw [ofLine.eq_2] at h
      exact .inl (Option.some.inj h).symm
  | case3 d rest hclose =>
      exact .inl (head?_code_blockComment h)
  | case4 d rest =>
      rw [ofLine.eq_4] at h
      exact .inr h
  | case5 rest =>
      rw [ofLine.eq_5] at h
      exact .inr h
  | case6 d rest hescape hclose =>
      rw [ofLine.eq_6 _ _ hescape hclose] at h
      exact .inr h
  | case7 rest =>
      rw [ofLine.eq_7] at h
      cases h
  | case8 rest =>
      rw [ofLine.eq_8] at h
      exact .inl (head?_code_blockComment h)
  | case9 rest =>
      rw [ofLine.eq_9] at h
      exact .inr h
  | case10 d rest hline hblock htext hquote =>
      rw [ofLine.eq_10 _ _ hline hblock htext, if_pos hquote] at h
      exact .inr h
  | case11 d rest hline hblock htext hquote =>
      rw [ofLine.eq_10 _ _ hline hblock htext, if_neg hquote] at h
      exact .inr h

/-- If another character than a space comes first in what is left of a text, it comes first in the
text. -/
lemma exists_cons_of_code {s : LexState} {t u : List Char} {c : Char} (hc : c ≠ ' ')
    (h : (ofLine s t).code = c :: u) : ∃ v, t = c :: v := by
  have hhead : c ∈ (ofLine s t).code.head? := by rw [h]; rfl
  exact List.head?_eq_some_iff.1 ((mem_head?_code hhead).resolve_left hc)

/-- In a text block, two quotes come first in what is left only if they come first in the text. -/
lemma exists_quotes_of_code_textBlock {t u : List Char}
    (h : (ofLine .textBlock t).code = '"' :: '"' :: u) : ∃ v, t = '"' :: '"' :: v := by
  obtain ⟨v, rfl⟩ := exists_cons_of_code (by decide) h
  by_cases hclose : ∃ w, v = '"' :: '"' :: w
  · obtain ⟨w, rfl⟩ := hclose
    exact ⟨'"' :: w, rfl⟩
  · rw [ofLine.eq_6 _ _ (by simp) fun w _ hw => hclose ⟨w, hw⟩] at h
    obtain ⟨w, rfl⟩ := exists_cons_of_code (by decide) (List.cons.inj h).2
    exact ⟨w, rfl⟩

/-- Plain code does not turn into the opening of a comment. -/
lemma not_opens_comment {c d : Char} {rest : List Char} (hd : d ≠ ' ')
    (hopen : ∀ u, c = '/' → rest = d :: u → False) (u : List Char) (hc : c = '/')
    (hrest : (ofLine .code rest).code = d :: u) : False := by
  obtain ⟨v, hv⟩ := exists_cons_of_code hd hrest
  exact hopen v hc hv

end Scan

/-! ### Literals -/

/-- A literal ends where it ended, whatever follows its closing quote. Behind a literal that is not
closed there is nothing. -/
lemma splitLiteral_inside_append (quote : Char) {s t : List Char}
    (ht : (splitLiteral quote s).2 = [] → t = []) :
    splitLiteral quote ((splitLiteral quote s).1 ++ t) = ((splitLiteral quote s).1, t) := by
  fun_induction splitLiteral quote s with
  | case1 =>
      rw [ht rfl]
      rfl
  | case2 =>
      rw [ht rfl]
      rfl
  | case3 c rest inside after hsplit ih =>
      rw [hsplit] at ih
      rw [List.cons_append, List.cons_append, splitLiteral, ih ht]
  | case4 rest hsingle hescape =>
      have hback := ne_backslash_of_cases hsingle hescape
      rw [List.singleton_append, splitLiteral.eq_4 _ _ _ (fun hc _ => hback hc)
        (fun _ _ hc _ => hback hc), if_pos rfl]
  | case5 c rest hsingle hescape hquote inside after hsplit ih =>
      have hback := ne_backslash_of_cases hsingle hescape
      rw [hsplit] at ih
      rw [List.cons_append, splitLiteral.eq_4 _ _ _ (fun hc _ => hback hc)
        (fun _ _ hc _ => hback hc), if_neg hquote, ih ht]

namespace Scan

/-! ### The scan -/

/-- A literal does not turn into the opening of a text block. -/
lemma not_opens_textBlock {rest : List Char} (hopen : ∀ u, rest = '"' :: '"' :: u → False)
    (u : List Char)
    (h : (splitLiteral '"' rest).1 ++ (ofLine .code (splitLiteral '"' rest).2).code =
      '"' :: '"' :: u) : False := by
  fun_cases splitLiteral '"' rest with
  | case1 =>
      rw [splitLiteral.eq_1, ofLine.eq_1] at h
      cases h
  | case2 =>
      rw [splitLiteral.eq_2] at h
      exact absurd (List.cons.inj h).1 (by decide)
  | case3 d rest inside after hsplit =>
      rw [splitLiteral.eq_3] at h
      exact absurd (List.cons.inj h).1 (by decide)
  | case4 rest =>
      rw [splitLiteral.eq_4 _ _ _ (by simp) (by simp), if_pos rfl] at h
      obtain ⟨v, rfl⟩ := exists_cons_of_code (by decide) (List.cons.inj h).2
      exact hopen v rfl
  | case5 d rest hsingle hescape hquote inside after hsplit =>
      rw [splitLiteral.eq_4 _ _ _ hsingle hescape, if_neg hquote] at h
      exact hquote (List.cons.inj h).1

/-- **The code of a scan is scanned as the line was.** -/
theorem ofLine_code (s : LexState) (t : List Char) :
    ofLine s.uncommented (ofLine s t).code = (ofLine s t).uncommented := by
  fun_induction ofLine s t with
  | case1 s => exact ofLine.eq_1 ..
  | case2 rest ih =>
      rw [uncommented_keep, ← ih]
      show ofLine .code (' ' :: (ofLine .code rest).code) = _
      rw [ofLine.eq_10 _ _ (by simp) (by simp) (by simp), if_neg (by simp), count_space]
      rfl
  | case3 c rest hclose ih => exact ih
  | case4 c rest ih =>
      rw [uncommented_keep, ← ih]
      exact ofLine.eq_4 ..
  | case5 rest ih =>
      rw [uncommented_keep, ← ih]
      exact ofLine.eq_5 ..
  | case6 c rest hescape hclose ih =>
      rw [uncommented_keep, ← ih]
      refine ofLine.eq_6 _ _ (fun d u hc hrest => ?_) fun u hc hrest => ?_
      · cases rest with
        | nil =>
            rw [ofLine.eq_1] at hrest
            cases hrest
        | cons e rest => exact hescape e rest hc rfl
      · obtain ⟨v, hv⟩ := exists_quotes_of_code_textBlock hrest
        exact hclose v hc hv
  | case7 rest => exact ofLine.eq_1 ..
  | case8 rest ih => exact ih
  | case9 rest ih =>
      rw [uncommented_keep, ← ih]
      exact ofLine.eq_9 ..
  | case10 c rest hline hblock htext hquote ih =>
      rw [uncommented_keep, ← ih, code_keep]
      show ofLine .code (c :: ((splitLiteral c rest).1 ++ _)) = _
      have hempty (h : (splitLiteral c rest).2 = []) :
          (ofLine .code (splitLiteral c rest).2).code = [] := by
        rw [h, ofLine.eq_1]
        rfl
      have hslash : c ≠ '/' := by rcases hquote with rfl | rfl <;> decide
      rw [ofLine.eq_10 _ _ (fun _ hc _ => hslash hc) (fun _ hc _ => hslash hc), if_pos hquote,
        splitLiteral_inside_append c hempty]
      · rfl
      · rintro u rfl hinside
        exact not_opens_textBlock (fun v => htext v rfl) u hinside
  | case11 c rest hline hblock htext hquote ih =>
      rw [uncommented_count, ← ih, code_count]
      show ofLine .code (c :: (ofLine .code rest).code) = _
      rw [ofLine.eq_10 _ _ (not_opens_comment (by decide) hline)
        (not_opens_comment (by decide) hblock) fun _ hc _ => hquote (.inl hc), if_neg hquote]
      rfl

end Scan

end QualityGate
