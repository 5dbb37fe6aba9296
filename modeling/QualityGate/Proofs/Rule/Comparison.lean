import QualityGate.Proofs.Rule.Literal
import Mathlib.Tactic

/-!
Comparisons with literals on lines of the same shape. A comparison consists of a literal and of a
text without quotes next to it: a call of `equals` or an equality sign. If that text stands in code,
the comparison is there whatever the contents of the literals are.

* `NoComparison`: contents that hold neither, and nothing that makes a line the line of a constant.
* `isSome_find?_receiver`, `isSome_find?_argument`, `isSome_find?_equality`: **comparisons are found
  in lines of the same shape**, one statement for each expression.
-/

namespace QualityGate

open Regex HardcodedLiteral

/-! ### Parts of expressions -/

section Parts

variable {r s t : Regex} {w : List Char}

lemma isSome_find?_alt : ((alt r s).find? w).isSome = true ↔
    (r.find? w).isSome = true ∨ (s.find? w).isSome = true := by
  simp only [isSome_find?_iff, Matches]
  constructor
  · rintro ⟨u, x, v, hw, h | h⟩
    · exact .inl ⟨u, x, v, hw, h⟩
    · exact .inr ⟨u, x, v, hw, h⟩
  · rintro (⟨u, x, v, hw, h⟩ | ⟨u, x, v, hw, h⟩)
    · exact ⟨u, x, v, hw, .inl h⟩
    · exact ⟨u, x, v, hw, .inr h⟩

lemma accepts_seq_assoc (h : (seq r (seq s t)).onlyBoundaries .empty = true) :
    (seq r (seq s t)).Accepts w ↔ (seq (seq r s) t).Accepts w := by
  obtain ⟨hr, hst⟩ := Bool.and_eq_true_iff.1 h
  obtain ⟨hs, ht⟩ := Bool.and_eq_true_iff.1 hst
  have hrs : (seq r s).onlyBoundaries .empty = true := Bool.and_eq_true_iff.2 ⟨hr, hs⟩
  have hrst : (seq (seq r s) t).onlyBoundaries .empty = true := Bool.and_eq_true_iff.2 ⟨hrs, ht⟩
  simp only [accepts_seq h, accepts_seq hst, accepts_seq hrs, accepts_seq hrst]
  constructor
  · rintro ⟨u, _, rfl, hu, v, x, rfl, hv, hx⟩
    exact ⟨u ++ v, x, by simp, ⟨u, v, rfl, hu, hv⟩, hx⟩
  · rintro ⟨_, x, rfl, ⟨u, v, rfl, hu, hv⟩, hx⟩
    exact ⟨u, v ++ x, by simp, hu, v, x, rfl, hv, hx⟩

lemma isSome_find?_seq_assoc (h : (seq r (seq s t)).onlyBoundaries .empty = true) :
    ((seq r (seq s t)).find? w).isSome = true ↔ ((seq (seq r s) t).find? w).isSome = true := by
  have hassoc : (seq (seq r s) t).onlyBoundaries .empty = true := by
    simpa only [onlyBoundaries, Bool.and_assoc] using h
  rw [isSome_find?_iff_accepts h, isSome_find?_iff_accepts hassoc]
  simp only [accepts_seq_assoc h]

/-- Where an expression is found, its first part is found. -/
lemma find?_seq_eq_none_left (h : r.find? w = none) : (seq r s).find? w = none := by
  rw [← Option.not_isSome_iff_eq_none, isSome_find?_iff] at h ⊢
  rintro ⟨a, _, b, rfl, u, v, rfl, hu, -⟩
  exact h ⟨a, u, v ++ b, by rw [List.append_assoc], hu⟩

/-- Where an expression is found, its second part is found. -/
lemma find?_seq_eq_none_right (h : s.find? w = none) : (seq r s).find? w = none := by
  rw [← Option.not_isSome_iff_eq_none, isSome_find?_iff] at h ⊢
  rintro ⟨a, _, b, rfl, u, v, rfl, -, hv⟩
  refine h ⟨a ++ u, v, b, by simp, ?_⟩
  rwa [List.getLast?_append]

/-- An expression without conditions on places that is found nowhere in a text matches no part of
it. -/
lemma not_infix_of_find?_eq_none (hr : r.onlyBoundaries .empty = true) (h : r.find? w = none)
    {x : List Char} (hx : r.Accepts x) : ¬ x <:+: w := by
  rintro ⟨u, v, rfl⟩
  rw [← Option.not_isSome_iff_eq_none, isSome_find?_iff_accepts hr] at h
  exact h ⟨u, x, v, List.append_assoc _ _ _, hx⟩

end Parts

/-! ### Signs of comparisons -/

/-- The text holds no `equals` call and no equality sign, and nothing that makes a line the line of
a constant. -/
structure NoComparison (w : List Char) : Prop where
  equalsCall : equalsCall.find? w = none
  equalitySign : equalitySign.find? w = none
  staticFinal : ¬ "static final".toList <:+: w
  finalStatic : ¬ "final static".toList <:+: w

instance : DecidablePred NoComparison := fun w =>
  decidable_of_iff (HardcodedLiteral.equalsCall.find? w = none ∧
      HardcodedLiteral.equalitySign.find? w = none ∧ ¬ "static final".toList <:+: w ∧
      ¬ "final static".toList <:+: w)
    ⟨fun h => ⟨h.1, h.2.1, h.2.2.1, h.2.2.2⟩, fun h => ⟨h.1, h.2, h.3, h.4⟩⟩

/-- The letter `x` makes no comparison. -/
lemma noComparison_of_forall {w : List Char} (hw : ∀ c ∈ w, c = 'x') : NoComparison w := by
  have hnot {v : List Char} (hv : 's' ∈ v) : ¬ v <:+: w := fun h => by
    have hs := hw 's' (h.mem hv)
    cases hs
  exact ⟨find?_eq_none_of_forall (by decide) hw, find?_eq_none_of_forall (by decide) hw,
    hnot (by decide), hnot (by decide)⟩

/-- A part of an expression that matches no quotes, wherever it stands. -/
structure IsSign (r : Regex) : Prop where
  unquoted : r.Unquoted
  plain : r.onlyBoundaries .empty = true

instance (r : Regex) : Decidable (IsSign r) :=
  decidable_of_iff (r.Unquoted ∧ r.onlyBoundaries .empty = true)
    ⟨fun h => ⟨h.1, h.2⟩, fun h => ⟨h.1, h.2⟩⟩

/-- The front of a literal that is handed to an `equals`. -/
def argumentFront : Regex := seq equalsCall blanks

/-- The end of a literal that is handed to an `equals`. -/
def argumentBack : Regex := seq blanks (char ')')

lemma isSign_argumentFront : IsSign argumentFront := by decide +kernel

lemma isSign_argumentBack : IsSign argumentBack := by decide +kernel

/-- An argument is a literal with quotes, or there are no quotes in it. -/
lemma accepts_argument {w : List Char} :
    argument.Accepts w ↔
      (∃ x quote ps y, w = x ++ (quoted quote ps ++ y) ∧ argumentFront.Accepts x ∧ IsBody quote ps ∧
        argumentBack.Accepts y) ∨
      (seq argumentFront (seq numberLiteral argumentBack)).Accepts w := by
  have hargument : argument = seq equalsCall (seq blanks
      (seq (alt stringLiteral (alt charLiteral numberLiteral)) argumentBack)) := rfl
  have hbody (v : List Char) : stringLiteral.Accepts v ∨ charLiteral.Accepts v ↔
      ∃ quote ps, IsBody quote ps ∧ v = quoted quote ps := by
    rw [accepts_stringLiteral, accepts_charLiteral]
    constructor
    · rintro (⟨ps, hps, rfl⟩ | ⟨p, hp, rfl⟩)
      · exact ⟨'"', ps, ⟨hps, .inl rfl⟩, rfl⟩
      · exact ⟨'\'', [p], ⟨by simpa using hp, .inr ⟨rfl, rfl⟩⟩, rfl⟩
    · rintro ⟨quote, ps, ⟨hps, rfl | ⟨rfl, hone⟩⟩, rfl⟩
      · exact .inl ⟨ps, hps, rfl⟩
      · obtain ⟨p, rfl⟩ := List.length_eq_one_iff.1 hone
        exact .inr ⟨p, hps p (List.mem_singleton_self p), rfl⟩
  have hnumber : (seq argumentFront (seq numberLiteral argumentBack)).onlyBoundaries .empty =
      true := by decide
  have hall : (seq argumentFront (seq (alt stringLiteral (alt charLiteral numberLiteral))
      argumentBack)).onlyBoundaries .empty = true := by decide
  rw [hargument, accepts_seq_assoc (by decide), ← argumentFront, accepts_seq hnumber,
    accepts_seq hall]
  simp only [accepts_seq (Bool.and_eq_true_iff.1 hnumber).2,
    accepts_seq (Bool.and_eq_true_iff.1 hall).2, accepts_alt, ← or_assoc, hbody]
  constructor
  · rintro ⟨x, _, rfl, hx, _, y, rfl, ⟨quote, ps, hps, rfl⟩ | hn, hy⟩
    · exact .inl ⟨x, quote, ps, y, rfl, hx, hps, hy⟩
    · exact .inr ⟨x, _, rfl, hx, _, y, rfl, hn, hy⟩
  · rintro (⟨x, quote, ps, y, rfl, hx, hps, hy⟩ | ⟨x, _, rfl, hx, v, y, rfl, hn, hy⟩)
    · exact ⟨x, _, rfl, hx, _, y, rfl, .inl ⟨quote, ps, hps, rfl⟩, hy⟩
    · exact ⟨x, _, rfl, hx, v, y, rfl, .inr hn, hy⟩

/-! ### Comparisons -/

section Comparison

variable {es es' : List Element} (h : OneLine es) (h' : OneLine es')
  (hs : List.Forall₂ SameShape es es')

include h h' hs

/-- A string literal and a sign after it. -/
lemma isSome_find?_literal_seq {r : Regex} (hr : IsSign r)
    (hcontent : ∀ e ∈ es, e.isQuoted = true → r.find? e.content = none)
    (hfound : ((seq stringLiteral r).find? (keptText es)).isSome = true) :
    ((seq stringLiteral r).find? (keptText es')).isSome = true := by
  have hplain : (seq stringLiteral r).onlyBoundaries .empty = true :=
    Bool.and_eq_true_iff.2 ⟨by decide, hr.plain⟩
  rw [isSome_find?_iff_accepts hplain] at hfound ⊢
  obtain ⟨a, _, b, htext, hmatch⟩ := hfound
  obtain ⟨_, w, rfl, hlit, hw⟩ := (accepts_seq hplain).1 hmatch
  obtain ⟨ps, -, rfl⟩ := accepts_stringLiteral.1 hlit
  have htext : keptText es = (a ++ quoted '"' ps) ++ (w ++ b) := by simpa using htext
  obtain ⟨a', ps', b', hps', htext'⟩ := exists_literal_before h h' hs
    (hw.ne_nil hr.unquoted.beside) (hr.unquoted.quoteFree hw)
    (fun e he hq => not_infix_of_find?_eq_none hr.plain (hcontent e he hq) hw) htext
  exact ⟨a', quoted '"' ps' ++ w, b', by simpa using htext',
    (accepts_seq hplain).2 ⟨_, w, rfl, accepts_stringLiteral.2 ⟨ps', hps'.1, rfl⟩, hw⟩⟩

/-- A sign and a string literal after it. -/
lemma isSome_find?_seq_literal {r : Regex} (hr : IsSign r)
    (hcontent : ∀ e ∈ es, e.isQuoted = true → r.find? e.content = none)
    (hfound : ((seq r stringLiteral).find? (keptText es)).isSome = true) :
    ((seq r stringLiteral).find? (keptText es')).isSome = true := by
  have hplain : (seq r stringLiteral).onlyBoundaries .empty = true :=
    Bool.and_eq_true_iff.2 ⟨hr.plain, by decide⟩
  rw [isSome_find?_iff_accepts hplain] at hfound ⊢
  obtain ⟨a, _, b, htext, hmatch⟩ := hfound
  obtain ⟨w, _, rfl, hw, hlit⟩ := (accepts_seq hplain).1 hmatch
  obtain ⟨ps, hps, rfl⟩ := accepts_stringLiteral.1 hlit
  have htext : keptText es = a ++ (w ++ (quoted '"' ps ++ b)) := by simpa using htext
  obtain ⟨a', ps', b', hps', htext', -⟩ := exists_literal_after h h' hs
    (hw.ne_nil hr.unquoted.beside) (hr.unquoted.quoteFree hw)
    (fun e he hq => not_infix_of_find?_eq_none hr.plain (hcontent e he hq) hw) ⟨hps, .inl rfl⟩ htext
  exact ⟨a', w ++ quoted '"' ps', b', by simpa using htext',
    (accepts_seq hplain).2 ⟨w, _, rfl, hw, accepts_stringLiteral.2 ⟨ps', hps'.1, rfl⟩⟩⟩

variable (hcontent : ∀ e ∈ es, e.isQuoted = true → NoComparison e.content)

include hcontent

/-- **A string literal whose `equals` is called.** -/
theorem isSome_find?_receiver (hfound : (receiver.find? (keptText es)).isSome = true) :
    (receiver.find? (keptText es')).isSome = true :=
  isSome_find?_literal_seq h h' hs (r := seq blanks equalsCall) (by decide +kernel)
    (fun e he hq => find?_seq_eq_none_right (hcontent e he hq).equalsCall) hfound

/-- **A string literal next to an equality sign.** -/
theorem isSome_find?_equality (hfound : (equality.find? (keptText es)).isSome = true) :
    (equality.find? (keptText es')).isSome = true := by
  have hsign : equality = alt (seq equalitySign (seq blanks stringLiteral))
      (seq stringLiteral (seq blanks equalitySign)) := rfl
  rw [hsign, isSome_find?_alt, isSome_find?_seq_assoc (by decide)] at hfound ⊢
  refine hfound.imp (fun hfound => ?_) fun hfound => ?_
  · exact isSome_find?_seq_literal h h' hs (by decide +kernel)
      (fun e he hq => find?_seq_eq_none_left (hcontent e he hq).equalitySign) hfound
  · exact isSome_find?_literal_seq h h' hs (by decide +kernel)
      (fun e he hq => find?_seq_eq_none_right (hcontent e he hq).equalitySign) hfound

/-- **A literal that is handed to an `equals`.** -/
theorem isSome_find?_argument (hfound : (argument.find? (keptText es)).isSome = true) :
    (argument.find? (keptText es')).isSome = true := by
  have hplain : argument.onlyBoundaries .empty = true := by decide
  have hnumber : IsSign (seq argumentFront (seq numberLiteral argumentBack)) := by decide +kernel
  have hnone : ∀ e ∈ es, e.isQuoted = true → argumentFront.find? e.content = none :=
    fun e he hq => find?_seq_eq_none_left (hcontent e he hq).equalsCall
  rw [isSome_find?_iff_accepts hplain] at hfound ⊢
  simp only [accepts_argument] at hfound ⊢
  obtain ⟨a, w, b, htext, hmatch⟩ := hfound
  rcases hmatch with ⟨x, quote, ps, y, rfl, hx, hps, hy⟩ | hw
  · have htext : keptText es = a ++ (x ++ (quoted quote ps ++ (y ++ b))) := by simpa using htext
    obtain ⟨a', ps', b', hps', htext', hnext⟩ := exists_literal_after h h' hs
      (hx.ne_nil isSign_argumentFront.unquoted.beside) (isSign_argumentFront.unquoted.quoteFree hx)
      (fun e he hq => not_infix_of_find?_eq_none isSign_argumentFront.plain (hnone e he hq) hx) hps
      htext
    have hyne : y ≠ [] := hy.ne_nil isSign_argumentBack.unquoted.beside
    have hyfree : QuoteFree y := isSign_argumentBack.unquoted.quoteFree hy
    rcases hnext with hquote | hnext
    · rw [List.head?_append_of_ne_nil _ hyne] at hquote
      exact absurd (.inl rfl) (hyfree '"' (List.mem_of_head? hquote))
    · obtain ⟨c, rfl⟩ := hnext y b hyne hyfree rfl
      exact ⟨a', x ++ (quoted quote ps' ++ y), c, by simpa using htext',
        .inl ⟨x, quote, ps', y, rfl, hx, hps', hy⟩⟩
  · have hfound : ((seq argumentFront (seq numberLiteral argumentBack)).find?
        (keptText es)).isSome = true :=
      (isSome_find?_iff_accepts hnumber.plain _).2 ⟨a, w, b, htext, hw⟩
    rcases isSome_find?_keptText hnumber.unquoted h hs hfound with hfound | ⟨e, he, hq, hfound⟩
    · obtain ⟨a', w', b', htext', hw'⟩ := (isSome_find?_iff_accepts hnumber.plain _).1 hfound
      exact ⟨a', w', b', htext', .inr hw'⟩
    · rw [find?_seq_eq_none_left (hnone e he hq)] at hfound
      cases hfound

end Comparison

end QualityGate
