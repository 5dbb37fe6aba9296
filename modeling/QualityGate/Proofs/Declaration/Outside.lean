import QualityGate.Proofs.Declaration.Annotation
import QualityGate.Proofs.Source.Quoted
import QualityGate.Proofs.Source.Stable
import Mathlib.Tactic

/-!
Places outside of literals, and how many parentheses are open there. Code in which no comment and no
text block starts is made of plain characters and literals only, and the balance of its parentheses
is that of its plain characters.

* `OutsideLiterals`: the place behind a text of plain characters and closed literals.
* `SimpleCode`: code in which no comment and no text block starts.
* `codeInduction`: going through code, a literal at a time.
* `SimpleCode.parenDelta_append`: **the balances of two texts add up** where they meet outside of
  literals.
* `SimpleCode.of_code_eq`: what a scan leaves of a line is simple, if it has no triple quote.
-/

namespace QualityGate

/-! ### Places outside of literals -/

/-- The place behind the text is outside of literals: the text is made of plain characters and of
literals that are closed. -/
def OutsideLiterals (u : List Char) : Prop :=
  ∃ ps : List ArgumentPart, (∀ p ∈ ps, p.WellFormed) ∧ argumentsText ps = u

lemma OutsideLiterals.append {u v : List Char} (hu : OutsideLiterals u) (hv : OutsideLiterals v) :
    OutsideLiterals (u ++ v) := by
  obtain ⟨ps, hps, rfl⟩ := hu
  obtain ⟨qs, hqs, rfl⟩ := hv
  exact ⟨ps ++ qs, List.forall_mem_append.2 ⟨hps, hqs⟩, by simp [argumentsText]⟩

/-- One part of arguments ends outside of literals. -/
lemma ArgumentPart.WellFormed.outsideLiterals {p : ArgumentPart} (h : p.WellFormed) :
    OutsideLiterals p.text :=
  ⟨[p], by simpa using h, by simp [argumentsText]⟩

/-- A character that is no quote is a part of its own. -/
lemma outsideLiterals_singleton {c : Char} (hc : ¬ IsQuote c) : OutsideLiterals [c] := by
  obtain ⟨hdouble, hsingle⟩ := not_or.1 hc
  by_cases hopening : c = '('
  · exact hopening ▸ ArgumentPart.WellFormed.outsideLiterals (p := .opening) trivial
  by_cases hclosing : c = ')'
  · exact hclosing ▸ ArgumentPart.WellFormed.outsideLiterals (p := .closing) trivial
  · refine ArgumentPart.WellFormed.outsideLiterals (p := .plain c) ?_
    simp [ArgumentPart.WellFormed, hopening, hclosing, hdouble, hsingle]

/-- A part is a character that is no quote, which counts if it is a parenthesis, or a literal, which
does not count. -/
lemma ArgumentPart.WellFormed.char_or_literal {p : ArgumentPart} (h : p.WellFormed) :
    (∃ c, ¬ IsQuote c ∧ p.text = [c] ∧
        p.depth = (if c = '(' then 1 else 0) - (if c = ')' then 1 else 0)) ∨
      ∃ q body, IsQuote q ∧ (∀ d ∈ body, Piece.IsInside q d) ∧ p.depth = 0 ∧
        ∀ s, p.text ++ s = q :: (piecesText body ++ q :: s) := by
  cases p with
  | plain c =>
      simp only [ArgumentPart.WellFormed, List.mem_cons, List.not_mem_nil, not_or] at h
      obtain ⟨hopening, hclosing, hdouble, hsingle, -⟩ := h
      exact .inl ⟨c, not_or.2 ⟨hdouble, hsingle⟩, rfl, by simp [depth, hopening, hclosing]⟩
  | opening => exact .inl ⟨'(', by decide, rfl, by decide⟩
  | closing => exact .inl ⟨')', by decide, rfl, by decide⟩
  | literal q body => exact .inr ⟨q, body, h.1, h.2, rfl, fun s => by simp [text]⟩

/-- A text without quotes is outside of literals throughout. -/
lemma QuoteFree.outsideLiterals {w : List Char} (hw : QuoteFree w) : OutsideLiterals w := by
  induction w with
  | nil => exact ⟨[], by simp, rfl⟩
  | cons c w ih =>
      obtain ⟨hc, hw⟩ := List.forall_mem_cons.1 hw
      exact (outsideLiterals_singleton hc).append (ih hw)

/-! ### Literals -/

/-- A quote is no backslash. -/
lemma IsQuote.ne_backslash {q : Char} (hq : IsQuote q) : q ≠ '\\' := by
  rcases hq with rfl | rfl <;> decide

/-- What is split off as a literal is pieces and an end. Behind a literal that is not closed there
is nothing. -/
lemma exists_splitLiteral (q : Char) (s : List Char) :
    ∃ body ending, (∀ p ∈ body, Piece.IsInside q p) ∧
      (splitLiteral q s).1 = piecesText body ++ Ending.text [q] ending ∧
      (ending ≠ .closed → (splitLiteral q s).2 = []) := by
  fun_induction splitLiteral q s with
  | case1 => exact ⟨[], .unclosed, by simp, rfl, fun _ => rfl⟩
  | case2 => exact ⟨[], .backslash, by simp, rfl, fun _ => rfl⟩
  | case3 c rest inside after hsplit ih =>
      obtain ⟨body, ending, hbody, htext, hending⟩ := ih
      rw [hsplit] at htext hending
      refine ⟨.escape c :: body, ending, List.forall_mem_cons.2 ⟨trivial, hbody⟩, ?_, hending⟩
      simpa using htext
  | case4 rest hsingle hescape => exact ⟨[], .closed, by simp, rfl, by simp⟩
  | case5 c rest hsingle hescape hc inside after hsplit ih =>
      obtain ⟨body, ending, hbody, htext, hending⟩ := ih
      have hback := ne_backslash_of_cases hsingle hescape
      rw [hsplit] at htext hending
      refine ⟨.char c :: body, ending, List.forall_mem_cons.2 ⟨⟨hc, hback⟩, hbody⟩, ?_, hending⟩
      simpa using htext

/-- A literal that is closed is split off up to its closing quote. -/
lemma splitLiteral_closed {q : Char} (hq : IsQuote q) {body : List Piece}
    (hbody : ∀ p ∈ body, Piece.IsInside q p) (s : List Char) :
    splitLiteral q (piecesText body ++ q :: s) = (piecesText body ++ [q], s) := by
  have hend : splitLiteral q (q :: s) = ([q], s) :=
    splitLiteral_ending hq.ne_backslash .closed (by simp)
  rw [splitLiteral_piecesText_append (fun c hc => hbody (.char c) hc), hend]

/-- **Going through code** from left to right: a character that is no quote is followed by code, and
a quote by the rest of its literal and then by code. -/
@[elab_as_elim]
theorem codeInduction {P : List Char → Prop} (nil : P [])
    (plain : ∀ c s, ¬ IsQuote c → P s → P (c :: s))
    (literal : ∀ q s, IsQuote q → P (splitLiteral q s).2 → P (q :: s)) (s : List Char) : P s := by
  induction h : s.length using Nat.strong_induction_on generalizing s with
  | _ n ih =>
  subst h
  cases s with
  | nil => exact nil
  | cons c s =>
      by_cases hc : IsQuote c
      · have hlength := splitLiteral_length_le c s
        exact literal c s hc (ih _ (by rw [List.length_cons]; omega) _ rfl)
      · exact plain c s hc (ih s.length (by simp) s rfl)

/-! ### The scan of code -/

/-- A comment starts at the front of the text. -/
def StartsComment (s : List Char) : Prop := ['/', '/'] <+: s ∨ ['/', '*'] <+: s

instance : DecidablePred StartsComment := fun s =>
  inferInstanceAs (Decidable (['/', '/'] <+: s ∨ ['/', '*'] <+: s))

namespace Scan

variable {c q : Char} {s : List Char}

/-- Plain code is counted. -/
lemma ofLine_plain (hc : ¬ IsQuote c) (hcomment : ¬ StartsComment (c :: s)) :
    ofLine .code (c :: s) = (ofLine .code s).count c := by
  obtain ⟨hline, hblock⟩ := not_or.1 hcomment
  refine (ofLine.eq_10 _ _ ?_ ?_ ?_).trans (if_neg hc)
  · rintro u rfl rfl
    exact hline ⟨u, rfl⟩
  · rintro u rfl rfl
    exact hblock ⟨u, rfl⟩
  · rintro u rfl rfl
    exact hc (.inl rfl)

/-- A literal is kept as it is. -/
lemma ofLine_literal (hq : IsQuote q) (htriple : ¬ tripleQuote <+: q :: s) :
    ofLine .code (q :: s) =
      (ofLine .code (splitLiteral q s).2).keep (q :: (splitLiteral q s).1) := by
  have hslash : q ≠ '/' := by rcases hq with rfl | rfl <;> decide
  refine (ofLine.eq_10 _ _ ?_ ?_ ?_).trans (if_pos hq)
  · exact fun _ h => absurd h hslash
  · exact fun _ h => absurd h hslash
  · rintro u rfl rfl
    exact htriple ⟨u, rfl⟩

@[simp] lemma parenDelta_keep (text : List Char) (s : Scan) :
    (s.keep text).parenDelta = s.parenDelta := rfl

lemma parenDelta_count (c : Char) (s : Scan) :
    (s.count c).parenDelta =
      (if c = '(' then 1 else 0) - (if c = ')' then 1 else 0) + s.parenDelta := by
  simp only [count]
  omega

/-- A text at whose front a comment starts does not survive its scan. -/
lemma not_startsComment_of_code_eq (h : (ofLine .code s).code = s) : ¬ StartsComment s := by
  rintro (⟨u, rfl⟩ | ⟨u, rfl⟩)
  · rw [List.cons_append, List.singleton_append, ofLine.eq_7] at h
    cases h
  · have hhead : '/' ∈ (ofLine .blockComment u).code.head? := by
      rw [List.cons_append, List.singleton_append, ofLine.eq_8] at h
      rw [h]
      rfl
    exact absurd (head?_code_blockComment hhead) (by decide)

end Scan

/-! ### Simple code -/

/-- No comment starts in the code outside of literals, and no text block: there is no triple
quote. -/
structure SimpleCode (s : List Char) : Prop where
  no_comment : ∀ u v, u ++ v = s → OutsideLiterals u → ¬ StartsComment v
  no_textBlock : ¬ tripleQuote <:+: s

namespace SimpleCode

variable {c q : Char} {s u v w : List Char}

lemma nil : SimpleCode [] where
  no_comment u v h _ := by
    obtain ⟨-, rfl⟩ := List.append_eq_nil_iff.1 h
    decide
  no_textBlock := by simp [tripleQuote]

/-- What simple code starts with is simple. -/
lemma of_append_left (h : SimpleCode (u ++ v)) : SimpleCode u where
  no_comment a b hab ha hb := by
    refine h.no_comment a (b ++ v) (by rw [← hab, List.append_assoc]) ha ?_
    exact hb.imp (·.trans (List.prefix_append b v)) (·.trans (List.prefix_append b v))
  no_textBlock ht := h.no_textBlock (ht.trans (List.prefix_append u v).isInfix)

/-- What follows a place outside of literals in simple code is simple. -/
lemma of_append (h : SimpleCode (u ++ v)) (hu : OutsideLiterals u) : SimpleCode v where
  no_comment a b hab ha :=
    h.no_comment (u ++ a) b (by rw [← hab, List.append_assoc]) (hu.append ha)
  no_textBlock ht := h.no_textBlock (ht.trans (List.suffix_append u v).isInfix)

/-- No comment starts at the front of simple code. -/
lemma not_startsComment (h : SimpleCode s) : ¬ StartsComment s :=
  h.no_comment [] s rfl ⟨[], by simp, rfl⟩

lemma not_tripleQuote_prefix (h : SimpleCode s) : ¬ tripleQuote <+: s :=
  fun ht => h.no_textBlock ht.isInfix

lemma tail (h : SimpleCode (c :: s)) (hc : ¬ IsQuote c) : SimpleCode s :=
  of_append (u := [c]) h (outsideLiterals_singleton hc)

/-- What follows a literal is simple. -/
lemma afterLiteral (h : SimpleCode (q :: s)) (hq : IsQuote q) :
    SimpleCode (splitLiteral q s).2 := by
  obtain ⟨body, ending, hbody, htext, hending⟩ := exists_splitLiteral q s
  by_cases hclosed : ending = .closed
  · have hliteral : (ArgumentPart.literal q body).WellFormed := ⟨hq, hbody⟩
    have hwhole : (ArgumentPart.literal q body).text ++ (splitLiteral q s).2 = q :: s := by
      rw [hclosed, Ending.text] at htext
      rw [ArgumentPart.text, ← htext, List.cons_append, splitLiteral_append]
    exact of_append (hwhole ▸ h) hliteral.outsideLiterals
  · rw [hending hclosed]
    exact nil

/-! ### The balance of parentheses -/

/-- The balance up to a place outside of literals is that of the parts in front of it. -/
lemma parenDelta_argumentsText_append {ps : List ArgumentPart} (hps : ∀ p ∈ ps, p.WellFormed)
    (h : SimpleCode (argumentsText ps ++ v)) :
    (Scan.ofLine .code (argumentsText ps ++ v)).parenDelta =
      argumentsDepth ps + (Scan.ofLine .code v).parenDelta := by
  induction ps with
  | nil => simp [argumentsText, argumentsDepth]
  | cons p ps ih =>
      obtain ⟨hp, hps⟩ := List.forall_mem_cons.1 hps
      have htext : argumentsText (p :: ps) ++ v = p.text ++ (argumentsText ps ++ v) := by
        simp [argumentsText]
      have hdepth : argumentsDepth (p :: ps) = p.depth + argumentsDepth ps := by
        simp [argumentsDepth]
      rw [htext] at h ⊢
      have ih := ih hps (h.of_append hp.outsideLiterals)
      rw [hdepth, add_assoc, ← ih]
      rcases hp.char_or_literal with ⟨c, hc, hchar, hcount⟩ | ⟨q, body, hq, hbody, hcount, hliteral⟩
      · rw [hchar, List.singleton_append] at h ⊢
        rw [Scan.ofLine_plain hc h.not_startsComment, hcount, Scan.parenDelta_count]
      · rw [hliteral] at h ⊢
        rw [Scan.ofLine_literal hq h.not_tripleQuote_prefix, splitLiteral_closed hq hbody,
          Scan.parenDelta_keep, hcount, zero_add]

/-- **The balances of two texts add up** where they meet outside of literals. -/
theorem parenDelta_append (h : SimpleCode (u ++ v)) (hu : OutsideLiterals u) :
    (Scan.ofLine .code (u ++ v)).parenDelta =
      (Scan.ofLine .code u).parenDelta + (Scan.ofLine .code v).parenDelta := by
  obtain ⟨ps, hps, rfl⟩ := hu
  have hfront := parenDelta_argumentsText_append (v := []) hps
    (by rw [List.append_nil]; exact h.of_append_left)
  rw [List.append_nil, Scan.ofLine.eq_1] at hfront
  rw [parenDelta_argumentsText_append hps h, hfront]
  simp [Scan.empty]

/-- Characters that are neither parentheses nor quotes do not change the balance in front of them,
not even at the end of a literal that is not closed. -/
theorem parenDelta_append_plain (h : SimpleCode (u ++ w))
    (hw : ∀ c ∈ w, c ∉ ['(', ')', '"', '\'']) :
    (Scan.ofLine .code (u ++ w)).parenDelta = (Scan.ofLine .code u).parenDelta := by
  induction u using codeInduction with
  | nil =>
      rw [List.nil_append] at h ⊢
      induction w with
      | nil => rfl
      | cons c w ih =>
          obtain ⟨hc, hw⟩ := List.forall_mem_cons.1 hw
          simp only [List.mem_cons, List.not_mem_nil, not_or] at hc
          obtain ⟨hopening, hclosing, hdouble, hsingle, -⟩ := hc
          have hquote : ¬ IsQuote c := not_or.2 ⟨hdouble, hsingle⟩
          rw [Scan.ofLine_plain hquote h.not_startsComment, Scan.parenDelta_count,
            ih hw (h.tail hquote)]
          simp [hopening, hclosing]
  | plain c s hc ih =>
      rw [List.cons_append] at h ⊢
      have hfront : SimpleCode (c :: s) := of_append_left (v := w) h
      rw [Scan.ofLine_plain hc h.not_startsComment, Scan.ofLine_plain hc hfront.not_startsComment]
      rw [Scan.parenDelta_count, Scan.parenDelta_count, ih (h.tail hc)]
  | literal q s hq ih =>
      rw [List.cons_append] at h ⊢
      have hfront : SimpleCode (q :: s) := of_append_left (v := w) h
      have hqw : q ∉ w := fun hmem => by
        have hq' := hw q hmem
        rcases hq with rfl | rfl <;> exact hq' (by decide)
      have hafter := h.afterLiteral hq
      rw [Scan.ofLine_literal hq h.not_tripleQuote_prefix,
        Scan.ofLine_literal hq hfront.not_tripleQuote_prefix, Scan.parenDelta_keep,
        Scan.parenDelta_keep]
      rcases splitLiteral_append_of_not_mem hqw s with hsplit | ⟨hnil, hsplit⟩
      · rw [hsplit] at hafter ⊢
        exact ih hafter
      · rw [hsplit, hnil]

/-- A text without parentheses and quotes has no quotes. -/
lemma quoteFree_of_plain (hw : ∀ c ∈ w, c ∉ ['(', ')', '"', '\'']) : QuoteFree w :=
  fun c hc hquote => hw c hc (by rcases hquote with rfl | rfl <;> decide)

/-- What follows such characters is simple. -/
lemma of_append_plain (h : SimpleCode (w ++ v)) (hw : ∀ c ∈ w, c ∉ ['(', ')', '"', '\'']) :
    SimpleCode v :=
  h.of_append (quoteFree_of_plain hw).outsideLiterals

/-- They do not change the balance behind them either. -/
lemma parenDelta_plain_append (h : SimpleCode (w ++ v))
    (hw : ∀ c ∈ w, c ∉ ['(', ')', '"', '\'']) :
    (Scan.ofLine .code (w ++ v)).parenDelta = (Scan.ofLine .code v).parenDelta := by
  have hzero := parenDelta_append_plain (u := []) h.of_append_left hw
  rw [List.nil_append, Scan.ofLine.eq_1] at hzero
  rw [h.parenDelta_append (quoteFree_of_plain hw).outsideLiterals, hzero]
  simp [Scan.empty]

/-! ### What a scan leaves -/

/-- In a text that its scan leaves as it is no comment starts outside of literals. -/
lemma not_startsComment_of_code_eq {ps : List ArgumentPart} (hps : ∀ p ∈ ps, p.WellFormed)
    (hcode : (Scan.ofLine .code (argumentsText ps ++ v)).code = argumentsText ps ++ v)
    (htriple : ¬ tripleQuote <:+: argumentsText ps ++ v) : ¬ StartsComment v := by
  induction ps with
  | nil => exact Scan.not_startsComment_of_code_eq hcode
  | cons p ps ih =>
      obtain ⟨hp, hps⟩ := List.forall_mem_cons.1 hps
      have htext : argumentsText (p :: ps) ++ v = p.text ++ (argumentsText ps ++ v) := by
        simp [argumentsText]
      rw [htext] at hcode htriple
      have hrest : ¬ tripleQuote <:+: argumentsText ps ++ v := fun h =>
        htriple (h.trans (List.suffix_append _ _).isInfix)
      refine ih hps ?_ hrest
      rcases hp.char_or_literal with ⟨c, hc, hchar, -⟩ | ⟨q, body, hq, hbody, -, hliteral⟩
      · rw [hchar, List.singleton_append] at hcode
        rw [Scan.ofLine_plain hc (Scan.not_startsComment_of_code_eq hcode),
          Scan.code_count] at hcode
        exact (List.cons.inj hcode).2
      · rw [hliteral] at hcode htriple
        rw [Scan.ofLine_literal hq fun h => htriple h.isInfix, splitLiteral_closed hq hbody,
          Scan.code_keep] at hcode
        simpa using hcode

/-- **What a scan leaves as it is** is simple code, if it has no triple quote. -/
theorem of_code_eq (hcode : (Scan.ofLine .code s).code = s) (htriple : ¬ tripleQuote <:+: s) :
    SimpleCode s where
  no_comment := by
    rintro u v rfl ⟨ps, hps, rfl⟩
    exact not_startsComment_of_code_eq hps hcode htriple
  no_textBlock := htriple

end SimpleCode

end QualityGate
