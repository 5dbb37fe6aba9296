import QualityGate.Proofs.Source.Marking
import Mathlib.Tactic

/-!
Every text can be cut into lexical elements, so what is said of the texts of well-formed elements is
said of all texts. A text is cut from left to right: its first characters tell which element comes
first, and the element extends up to its closing mark, or else up to the end of the line or of the
text.

* `exists_cut_comment`, `exists_cut_literal`, `exists_cut_textBlock`: where an element ends.
* `exists_cut`: the first element of a text.
* `exists_wellFormed`: **every text is made of well-formed elements**.
-/

namespace QualityGate

/-! ### The end of an element -/

/-- A block comment goes up to the first closing mark. -/
lemma exists_cut_comment (t : List Char) :
    ∃ body closed rest, ¬ ['*', '/'] <:+: body ∧ (closed = false → rest = []) ∧
      body ++ ((if closed then ['*', '/'] else []) ++ rest) = t := by
  induction t with
  | nil => exact ⟨[], false, [], by simp, fun _ => rfl, rfl⟩
  | cons c t ih =>
      by_cases hcloses : ['*', '/'] <+: c :: t
      · obtain ⟨rest, hrest⟩ := hcloses
        exact ⟨[], true, rest, by simp, by simp, hrest⟩
      · obtain ⟨body, closed, rest, hbody, hclosed, rfl⟩ := ih
        refine ⟨c :: body, closed, rest, ?_, hclosed, rfl⟩
        rw [List.infix_cons_iff, not_or]
        exact ⟨fun h => hcloses (h.trans (List.prefix_append (c :: body) _)), hbody⟩

/-- The end of a line is the end of the text or a line feed. -/
lemma atLineEnd_dropWhile (t : List Char) : AtLineEnd (t.dropWhile inLine) := by
  intro c hc
  have hstop := List.head?_dropWhile_not inLine t
  rw [hc] at hstop
  simpa using hstop

/-- A literal goes up to the first quote that no backslash takes along, or up to the end of its
line. -/
lemma exists_cut_literal (quote : Char) (t : List Char) :
    ∃ body ending rest, (∀ p ∈ body, Piece.InLiteral quote p) ∧
      (ending ≠ .closed → AtLineEnd rest) ∧
      piecesText body ++ (Ending.text [quote] ending ++ rest) = t := by
  -- a backslash takes a character along, so the recursion may drop two characters at once
  induction h : t.length using Nat.strong_induction_on generalizing t with
  | _ n ih =>
  subst h
  cases t with
  | nil => exact ⟨[], .unclosed, [], by simp, fun _ => by simp [AtLineEnd], rfl⟩
  | cons c t =>
    by_cases hfeed : c = '\n'
    · exact ⟨[], .unclosed, c :: t, by simp, fun _ => by simp [AtLineEnd, hfeed], rfl⟩
    by_cases hcloses : c = quote
    · exact ⟨[], .closed, t, by simp, by simp, by simp [Ending.text, hcloses]⟩
    by_cases hback : c = '\\'
    · subst hback
      cases t with
      | nil => exact ⟨[], .backslash, [], by simp, fun _ => by simp [AtLineEnd], rfl⟩
      | cons d t =>
        by_cases hd : d = '\n'
        · exact ⟨[], .backslash, d :: t, by simp, fun _ => by simp [AtLineEnd, hd], rfl⟩
        · obtain ⟨body, ending, rest, hbody, hending, htext⟩ := ih t.length (by simp) t rfl
          refine ⟨.escape d :: body, ending, rest, ?_, hending, by simp [htext]⟩
          exact List.forall_mem_cons.2 ⟨hd, hbody⟩
    · obtain ⟨body, ending, rest, hbody, hending, htext⟩ := ih t.length (by simp) t rfl
      refine ⟨.char c :: body, ending, rest, ?_, hending, by simp [htext]⟩
      exact List.forall_mem_cons.2 ⟨⟨hcloses, hback, hfeed⟩, hbody⟩

/-- A text block goes up to the first triple quote that no backslash takes along. -/
lemma exists_cut_textBlock (t : List Char) :
    ∃ body ending rest, (∀ p ∈ body, Piece.InTextBlock p) ∧
      NoTripleQuote (Ending.text tripleQuote ending ++ rest) body ∧
      (ending ≠ .closed → rest = []) ∧
      piecesText body ++ (Ending.text tripleQuote ending ++ rest) = t := by
  induction h : t.length using Nat.strong_induction_on generalizing t with
  | _ n ih =>
  subst h
  match t with
  | [] => exact ⟨[], .unclosed, [], by simp, trivial, fun _ => rfl, rfl⟩
  | c :: t =>
    by_cases hcloses : tripleQuote <+: c :: t
    · obtain ⟨rest, hrest⟩ := hcloses
      exact ⟨[], .closed, rest, by simp, trivial, by simp, hrest⟩
    by_cases hback : c = '\\'
    · subst hback
      match t with
      | [] => exact ⟨[], .backslash, [], by simp, trivial, fun _ => rfl, rfl⟩
      | d :: t =>
        obtain ⟨body, ending, rest, hbody, hquotes, hending, htext⟩ := ih t.length (by simp) t rfl
        refine ⟨.escape d :: body, ending, rest, ?_, ⟨?_, hquotes⟩, hending, by simp [htext]⟩
        · exact List.forall_mem_cons.2 ⟨trivial, hbody⟩
        · rwa [htext]
    · obtain ⟨body, ending, rest, hbody, hquotes, hending, htext⟩ := ih t.length (by simp) t rfl
      refine ⟨.char c :: body, ending, rest, ?_, ⟨?_, hquotes⟩, hending, by simp [htext]⟩
      · exact List.forall_mem_cons.2 ⟨hback, hbody⟩
      · rwa [htext]

/-! ### The first element -/

/-- A text that is not empty starts with an element. -/
lemma exists_cut {t : List Char} (ht : t ≠ []) :
    ∃ e rest, Element.Delimited rest e ∧ e.text ++ rest = t := by
  obtain ⟨c, t, rfl⟩ := List.exists_cons_of_ne_nil ht
  by_cases hblock : tripleQuote <+: c :: t
  · obtain ⟨u, hu⟩ := hblock
    obtain ⟨body, ending, rest, hbody, hquotes, hending, rfl⟩ := exists_cut_textBlock u
    exact ⟨.textBlock body ending, rest, ⟨hbody, hquotes, hending⟩, by simp [Element.text, ← hu]⟩
  by_cases hquote : c = '"' ∨ c = '\''
  · obtain ⟨body, ending, rest, hbody, hending, rfl⟩ := exists_cut_literal c t
    exact ⟨.literal c body ending, rest, ⟨hquote, hbody, hending, hblock⟩, by simp [Element.text]⟩
  by_cases hline : ['/', '/'] <+: c :: t
  · obtain ⟨u, hu⟩ := hline
    refine ⟨.lineComment (u.takeWhile inLine), u.dropWhile inLine, ⟨?_, atLineEnd_dropWhile u⟩, ?_⟩
    · exact fun h => by simpa using List.all_eq_true.1 List.all_takeWhile _ h
    · simp [Element.text, ← hu]
  by_cases hcomment : ['/', '*'] <+: c :: t
  · obtain ⟨u, hu⟩ := hcomment
    obtain ⟨body, closed, rest, hbody, hclosed, rfl⟩ := exists_cut_comment u
    exact ⟨.blockComment body closed, rest, ⟨hbody, hclosed⟩, by simp [Element.text, ← hu]⟩
  · obtain ⟨hdouble, hsingle⟩ := not_or.1 hquote
    refine ⟨.plain c, t, ⟨hdouble, hsingle, ?_⟩, rfl⟩
    rintro rfl d hd
    obtain ⟨u, rfl⟩ := List.head?_eq_some_iff.1 hd
    exact ⟨fun h => hline ⟨u, by simp [h]⟩, fun h => hcomment ⟨u, by simp [h]⟩⟩

/-- An element has characters. -/
lemma Element.text_ne_nil (e : Element) : e.text ≠ [] := by
  cases e <;> simp [Element.text, tripleQuote]

/-- **Every text is made of well-formed elements.** -/
theorem exists_wellFormed (text : List Char) : ∃ es, WellFormed es ∧ render es = text := by
  induction h : text.length using Nat.strong_induction_on generalizing text with
  | _ n ih =>
  subst h
  by_cases hnil : text = []
  · exact ⟨[], trivial, hnil.symm⟩
  · obtain ⟨e, rest, he, rfl⟩ := exists_cut hnil
    have hlength : rest.length < (e.text ++ rest).length := by
      have hpos := List.length_pos_iff.2 e.text_ne_nil
      rw [List.length_append]
      omega
    obtain ⟨es, hes, rfl⟩ := ih rest.length hlength rest rfl
    exact ⟨e :: es, ⟨he, hes⟩, rfl⟩

end QualityGate
