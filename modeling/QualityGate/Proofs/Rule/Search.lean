import QualityGate.Proofs.Regex.Matching
import QualityGate.Proofs.Source.Blanked
import QualityGate.Rule.BannedCall
import Mathlib.Tactic

/-!
Searching what is kept of a line for an expression that matches no quotes. What is found stands in
plain code or in the content of one literal or text block, and nothing but the content can keep it
from being found when contents are replaced.

* `Unquoted`: the expressions that match no quotes.
* `exists_sameShape_code`, `exists_sameShape_front`: a text without quotes stays where it is when
  contents are replaced, if it is in no content or at the front of the line.
* `isSome_find?_keptText`: **what is found in one line is found in a line of the same shape**, or
  else it was found in a content.
* `KeptAlike.isSome_find?_iff`: the same for a line and the line with its contents crossed out.
-/

namespace QualityGate

namespace Regex

/-- The characters of words. -/
def wordChars : CharSet := .ofClass .word

/-- An expression that matches texts without quotes only, and takes notice of nothing around them
but whether they are surrounded by word characters. -/
structure Unquoted (r : Regex) : Prop where
  double : r.avoids '"' = true
  single : r.avoids '\'' = true
  beside : r.needsBeside 'x' = true
  boundaries : r.onlyBoundaries wordChars = true

instance (r : Regex) : Decidable r.Unquoted :=
  decidable_of_iff (r.avoids '"' = true ∧ r.avoids '\'' = true ∧ r.needsBeside 'x' = true ∧
      r.onlyBoundaries wordChars = true)
    ⟨fun h => ⟨h.1, h.2.1, h.2.2.1, h.2.2.2⟩, fun h => ⟨h.1, h.2, h.3, h.4⟩⟩

variable {r : Regex} {b : Option Char} {w a : List Char}

lemma Unquoted.quoteFree (hr : r.Unquoted) (h : r.Matches b w a) : QuoteFree w := by
  rintro c hc (rfl | rfl)
  · exact h.not_mem hr.double hc
  · exact h.not_mem hr.single hc

/-- A quote is no word character. -/
lemma sameWord_of_isQuote {c : Char} (hc : IsQuote c) : SameWord wordChars none (some c) := by
  rw [SameWord, Option.any_none, Option.any_some]
  rcases hc with rfl | rfl <;> decide +kernel

/-- A quote, or nothing, at the end of a text that is left out. -/
lemma sameWord_getLast?_append {u v : List Char} (hu : ∀ c ∈ u.getLast?, IsQuote c) :
    SameWord wordChars v.getLast? (u ++ v).getLast? := by
  rw [List.getLast?_append]
  have hlast : SameWord wordChars none u.getLast? := by
    cases hl : u.getLast? with
    | none => rfl
    | some c => exact sameWord_of_isQuote (hu c hl)
  simpa using hlast.or v.getLast?

/-- A quote, or nothing, at the start of a text that is left out. -/
lemma sameWord_head?_append {u v : List Char} (hv : ∀ c ∈ v.head?, IsQuote c) :
    SameWord wordChars u.head? (u ++ v).head? := by
  rw [List.head?_append]
  have hhead : SameWord wordChars none v.head? := by
    cases hl : v.head? with
    | none => rfl
    | some c => exact sameWord_of_isQuote (hv c hl)
  simpa using hhead.or u.head?

/-- Quotes in front of a text have no influence on what is found in it. -/
lemma Unquoted.isSome_find?_cons (hr : r.Unquoted) {q : Char} (hq : IsQuote q) (s : List Char) :
    (r.find? (q :: s)).isSome = true ↔ (r.find? s).isSome = true := by
  have hlast (u : List Char) : SameWord wordChars u.getLast? (q :: u).getLast? :=
    sameWord_getLast?_append (u := [q]) (by simpa using hq)
  rw [isSome_find?_iff, isSome_find?_iff]
  constructor
  · rintro ⟨u, w, v, hs, h⟩
    cases u with
    | nil =>
        obtain ⟨c, w, rfl⟩ := List.exists_cons_of_ne_nil (h.ne_nil hr.beside)
        obtain ⟨rfl, -⟩ := List.cons.inj hs
        exact absurd hq (hr.quoteFree h _ List.mem_cons_self)
    | cons c u =>
        obtain ⟨rfl, rfl⟩ := List.cons.inj hs
        exact ⟨u, w, v, rfl, h.congr hr.boundaries (hlast u).symm rfl⟩
  · rintro ⟨u, w, v, rfl, h⟩
    exact ⟨q :: u, w, v, rfl, h.congr hr.boundaries (hlast u) rfl⟩

lemma Unquoted.isSome_find?_append (hr : r.Unquoted) {u : List Char} (hu : ∀ c ∈ u, IsQuote c)
    (s : List Char) : (r.find? (u ++ s)).isSome = true ↔ (r.find? s).isSome = true := by
  induction u with
  | nil => rfl
  | cons q u ih =>
      obtain ⟨hq, hu⟩ := List.forall_mem_cons.1 hu
      exact (hr.isSome_find?_cons hq (u ++ s)).trans (ih hu)

end Regex

open Regex

section SameShape

variable {es es' es₁ es₂ es₃ : List Element} {a w b : List Char}

/-- A text in plain code stands at the same place in a line of the same shape. -/
lemma InCode.exists_sameShape (hin : InCode es a w b es₁ es₂ es₃)
    (hs : List.Forall₂ SameShape es es') :
    ∃ es₁' es₃', InCode es' (keptText es₁') w (keptText es₃') es₁' es₂ es₃' ∧
      List.Forall₂ SameShape es₁ es₁' ∧ List.Forall₂ SameShape es₃ es₃' := by
  rw [hin.eq] at hs
  obtain ⟨es₁', rest, rfl, hleft, hrest⟩ := SameShape.exists_append hs
  obtain ⟨es₂', es₃', rfl, hmid, hright⟩ := SameShape.exists_append hrest
  rw [SameShape.eq_of_forall hmid hin.plain]
  exact ⟨es₁', es₃', ⟨rfl, rfl, hin.mid, rfl, hin.plain⟩, hleft, hright⟩

/-- A text without quotes that is in no content. -/
lemma exists_sameShape_code (h : OneLine es) (hs : List.Forall₂ SameShape es es') (hw : w ≠ [])
    (hfree : QuoteFree w) (hcontent : ∀ e ∈ es, e.isQuoted = true → ¬ w <:+: e.content)
    (htext : keptText es = a ++ (w ++ b)) :
    ∃ es₁ es₂ es₃ es₁' es₃', InCode es a w b es₁ es₂ es₃ ∧
      InCode es' (keptText es₁') w (keptText es₃') es₁' es₂ es₃' ∧
      List.Forall₂ SameShape es₁ es₁' ∧ List.Forall₂ SameShape es₃ es₃' := by
  rcases exists_infix_keptText h hw hfree htext with
    ⟨es₁, es₂, es₃, hin⟩ | ⟨es₁, e, es₂, x, y, hin⟩
  · obtain ⟨es₁', es₃', hin', hleft, hright⟩ := hin.exists_sameShape hs
    exact ⟨es₁, es₂, es₃, es₁', es₃', hin, hin', hleft, hright⟩
  · refine absurd ⟨x, y, ?_⟩ (hcontent e (by rw [hin.eq]; simp) hin.isQuoted)
    rw [hin.content, List.append_assoc]

/-- A text without quotes at the front. -/
lemma exists_sameShape_front (h : OneLine es) (hs : List.Forall₂ SameShape es es') (hw : w ≠ [])
    (hfree : QuoteFree w) (htext : keptText es = w ++ b) : ∃ b', keptText es' = w ++ b' := by
  rcases exists_infix_keptText (a := []) h hw hfree htext with
    ⟨es₁, es₂, es₃, hin⟩ | ⟨es₁, e, es₂, x, y, hin⟩
  · obtain ⟨es₁', es₃', hin', hleft, -⟩ := hin.exists_sameShape hs
    refine ⟨keptText es₃', ?_⟩
    rw [hin'.eq, keptText_append, keptText_append, hin'.mid,
      SameShape.keptText_eq_nil hleft hin.left, List.nil_append]
  · exact absurd rfl hin.left_ne_nil

/-- **What is found in a line** is found in a line of the same shape, or else in a content. -/
theorem isSome_find?_keptText {r : Regex} (hr : r.Unquoted) (h : OneLine es)
    (hs : List.Forall₂ SameShape es es') (hfound : (r.find? (keptText es)).isSome = true) :
    (r.find? (keptText es')).isSome = true ∨
      ∃ e ∈ es, e.isQuoted = true ∧ (r.find? e.content).isSome = true := by
  obtain ⟨a, w, b, htext, hmatch⟩ := (isSome_find?_iff r _).1 hfound
  have hw := hmatch.ne_nil hr.beside
  rcases exists_infix_keptText h hw (hr.quoteFree hmatch) htext with
    ⟨es₁, es₂, es₃, hin⟩ | ⟨es₁, e, es₂, x, y, hin⟩
  · obtain ⟨es₁', es₃', hin', hleft, hright⟩ := hin.exists_sameShape hs
    have hne : es₂ ++ es₃ ≠ [] := by
      rintro hnil
      rw [← hin.mid, (List.append_eq_nil_iff.1 hnil).1] at hw
      exact hw rfl
    have hclosed := OneLine.isClosed_of_append (hin.eq ▸ h) hne
    refine .inl ((isSome_find?_iff r _).2 ⟨keptText es₁', w, keptText es₃', ?_, ?_⟩)
    · rw [hin'.eq, keptText_append, keptText_append, hin'.mid]
    · rw [← hin.left, ← hin.right] at hmatch
      refine hmatch.congr hr.boundaries ?_ ?_
      · rw [SameShape.getLast?_keptText hleft hclosed]
        rfl
      · rw [SameShape.head?_keptText hright]
        rfl
  · have hmem : e ∈ es := by rw [hin.eq]; simp
    refine .inr ⟨e, hmem, hin.isQuoted, (isSome_find?_iff r _).2 ⟨x, w, y, hin.content, ?_⟩⟩
    have hline : OneLine (e :: es₂) := OneLine.of_append (hin.eq ▸ h)
    rw [hin.left, hin.right] at hmatch
    refine hmatch.congr hr.boundaries ?_ ?_
    · -- the quotes come before what is in front of it in the content
      rw [← List.append_assoc]
      refine (sameWord_getLast?_append fun c hc => hline.isQuote c ?_).symm
      rw [List.getLast?_append_of_ne_nil _ (Element.quotes_ne_nil hin.isQuoted)] at hc
      exact List.mem_of_getLast? hc
    · -- and after what follows it there, if the literal does not end with the line
      refine (sameWord_head?_append fun c hc => ?_).symm
      cases hclosed : e.isClosed with
      | true =>
          rw [Element.closer, if_pos hclosed,
            List.head?_append_of_ne_nil _ (Element.quotes_ne_nil hin.isQuoted)] at hc
          exact hline.isQuote c (List.mem_of_head? hc)
      | false =>
          rw [Element.closer, if_neg (by simp [hclosed]), hline.eq_nil hclosed] at hc
          cases hc

end SameShape

lemma LexState.isQuote_of_mem_keptOpener (s : LexState) : ∀ c ∈ s.keptOpener, IsQuote c := by
  cases s <;> simp [keptOpener, tripleQuote, IsQuote]

/-- **Contents in which nothing is found** have no influence on whether something is found in the
line. -/
theorem KeptAlike.isSome_find?_iff {P : ℕ → List Char → Prop} {l k : LexedLine}
    {es es' : List Element} (h : KeptAlike P l k es es') {r : Regex} (hr : r.Unquoted)
    (hP : ∀ w, P l.line.number w → r.find? w = none) :
    (r.find? k.code).isSome = true ↔ (r.find? l.code).isSome = true := by
  have hopener := l.entry.isQuote_of_mem_keptOpener
  rw [← hr.isSome_find?_append hopener k.code, ← hr.isSome_find?_append hopener l.code, ← h.kept,
    ← h.kept']
  constructor
  · intro hfound
    refine (isSome_find?_keptText hr h.oneLine' (SameShape.symm_all h.shape)
      hfound).resolve_right ?_
    rintro ⟨e, he, hq, hfound⟩
    rw [find?_eq_none_of_forall hr.beside (h.content' e he hq)] at hfound
    cases hfound
  · intro hfound
    refine (isSome_find?_keptText hr h.oneLine h.shape hfound).resolve_right ?_
    rintro ⟨e, he, hq, hfound⟩
    rw [hP _ (h.content e he hq)] at hfound
    cases hfound

end QualityGate
