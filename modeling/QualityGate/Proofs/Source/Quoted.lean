import QualityGate.Proofs.Source.Replacement
import QualityGate.Proofs.Text.Blank
import Mathlib.Tactic

/-!
Literals and text blocks on a line: their quotes and their content. The content of one of them can
be replaced without moving anything else.

* `Element.quotes`, `Element.content`: what a literal or a text block consists of.
* `exists_infix_keptText`: **a text without quotes that is kept of a line stands in plain code, or in
  the content of one literal or text block**.
-/

namespace QualityGate

/-! ### Quotes and content -/

/-- A quote of either kind. -/
def IsQuote (c : Char) : Prop := c = '"' ∨ c = '\''

instance : DecidablePred IsQuote := fun c => inferInstanceAs (Decidable (c = '"' ∨ c = '\''))

/-- No quote stands in the text. -/
def QuoteFree (w : List Char) : Prop := ∀ c ∈ w, ¬ IsQuote c

lemma quoteFree_append {u v : List Char} : QuoteFree (u ++ v) ↔ QuoteFree u ∧ QuoteFree v :=
  List.forall_mem_append

namespace Element

/-- A literal or a text block. -/
def isQuoted : Element → Bool
  | literal _ _ _ | textBlock _ _ => true
  | plain _ | lineComment _ | blockComment _ _ => false

/-- The quotes in front of the content. -/
def quotes : Element → List Char
  | literal quote _ _ => [quote]
  | textBlock _ _ => tripleQuote
  | plain _ | lineComment _ | blockComment _ _ => []

/-- What stands between the quotes. -/
def content : Element → List Char
  | literal _ body ending | textBlock body ending => piecesText body ++ ending.text []
  | plain _ | lineComment _ | blockComment _ _ => []

/-- The element has its closing quotes. -/
def isClosed : Element → Bool
  | literal _ _ ending | textBlock _ ending => ending = .closed
  | plain _ | lineComment _ | blockComment _ _ => true

/-- The closing quotes that are there. -/
def closer (e : Element) : List Char := if e.isClosed then e.quotes else []

/-- A literal or text block consists of its quotes and its content. -/
lemma kept_eq_of_isQuoted {e : Element} (h : e.isQuoted = true) :
    e.kept = e.quotes ++ (e.content ++ e.closer) := by
  cases e with
  | literal quote body ending =>
      cases ending <;> simp [kept, text, quotes, content, closer, isClosed, Ending.text]
  | textBlock body ending =>
      cases ending <;>
        simp [kept, text, quotes, content, closer, isClosed, Ending.text, tripleQuote]
  | plain c | lineComment body | blockComment body closed => cases h

/-- Of other elements at most one character is kept. -/
lemma kept_of_not_isQuoted {e : Element} (h : e.isQuoted = false) :
    e.kept = [] ∨ ∃ c, e.kept = [c] := by
  cases e with
  | plain c => exact .inr ⟨c, rfl⟩
  | lineComment body => exact .inl rfl
  | blockComment body closed =>
      cases closed
      · exact .inl rfl
      · exact .inr ⟨' ', rfl⟩
  | literal quote body ending | textBlock body ending => cases h

lemma quotes_ne_nil {e : Element} (h : e.isQuoted = true) : e.quotes ≠ [] := by
  cases e <;> simp_all [isQuoted, quotes, tripleQuote]

/-- The quotes of an element are quotes. -/
lemma Delimited.isQuote {e : Element} {s : List Char} (h : e.Delimited s) :
    ∀ c ∈ e.quotes, IsQuote c := by
  cases e with
  | literal quote body ending => simpa [quotes, IsQuote] using h.1
  | textBlock body ending => simp [quotes, tripleQuote, IsQuote]
  | plain c | lineComment body | blockComment body closed => simp [quotes]

/-- What is kept of other elements is no quote. -/
lemma Delimited.not_isQuote {e : Element} {s : List Char} (h : e.Delimited s)
    (hq : e.isQuoted = false) {c : Char} (hkept : e.kept = [c]) : ¬ IsQuote c := by
  cases e with
  | plain d =>
      cases hkept
      exact not_or.2 ⟨h.1, h.2.1⟩
  | lineComment body => cases hkept
  | blockComment body closed =>
      cases closed
      · cases hkept
      · cases hkept
        decide
  | literal quote body ending | textBlock body ending => cases hq

lemma closer_subset (e : Element) : ∀ c ∈ e.closer, c ∈ e.quotes := by
  intro c hc
  rw [closer] at hc
  split at hc
  · exact hc
  · cases hc

end Element

/-! ### Elements of one line -/

/-- Well-formed elements that are all on one line. -/
structure OneLine (es : List Element) : Prop where
  wellFormed : WellFormed es
  newline : '\n' ∉ render es

namespace OneLine

variable {e : Element} {es : List Element}

lemma tail (h : OneLine (e :: es)) : OneLine es := by
  refine ⟨h.wellFormed.2, ?_⟩
  have hnewline := h.newline
  rw [render_cons, List.mem_append, not_or] at hnewline
  exact hnewline.2

/-- Nothing follows an element without its closing quotes. -/
lemma eq_nil (h : OneLine (e :: es)) (hopen : e.isClosed = false) : es = [] := by
  have hrest := h.tail.newline
  cases e with
  | literal quote body ending =>
      have hend := h.wellFormed.1.2.2.1 (by simpa [Element.isClosed] using hopen)
      exact render_eq_nil_iff.1 (hend.eq_nil hrest)
  | textBlock body ending =>
      exact render_eq_nil_iff.1 (h.wellFormed.1.2.2 (by simpa [Element.isClosed] using hopen))
  | plain c | lineComment body | blockComment body closed => cases hopen

lemma isQuote (h : OneLine (e :: es)) : ∀ c ∈ e.quotes, IsQuote c := h.wellFormed.1.isQuote

/-- All elements in front of others have their closing quotes. -/
lemma isClosed_of_append {es₁ es₂ : List Element} (h : OneLine (es₁ ++ es₂))
    (hne : es₂ ≠ []) : ∀ e ∈ es₁, e.isClosed = true := by
  induction es₁ with
  | nil => simp
  | cons e es₁ ih =>
      refine List.forall_mem_cons.2 ⟨?_, ih h.tail⟩
      cases hclosed : e.isClosed with
      | true => rfl
      | false => exact absurd (List.append_eq_nil_iff.1 (h.eq_nil hclosed)).2 hne

lemma of_append {es₁ es₂ : List Element} (h : OneLine (es₁ ++ es₂)) : OneLine es₂ := by
  induction es₁ with
  | nil => exact h
  | cons e es₁ ih => exact ih h.tail

end OneLine

/-! ### Where a text without quotes stands -/

/-- A text in plain code: the elements that it is kept of, and those on either side of it. -/
structure InCode (es : List Element) (a w b : List Char) (es₁ es₂ es₃ : List Element) : Prop where
  eq : es = es₁ ++ (es₂ ++ es₃)
  left : keptText es₁ = a
  mid : keptText es₂ = w
  right : keptText es₃ = b
  plain : ∀ e ∈ es₂, e.isQuoted = false

/-- A text in the content of an element: what stands on either side of it in the content, and the
elements on either side of the element. -/
structure InContent (es : List Element) (a w b : List Char) (es₁ : List Element) (e : Element)
    (es₂ : List Element) (x y : List Char) : Prop where
  eq : es = es₁ ++ e :: es₂
  isQuoted : e.isQuoted = true
  content : e.content = x ++ (w ++ y)
  left : a = keptText es₁ ++ (e.quotes ++ x)
  right : b = y ++ (e.closer ++ keptText es₂)

/-- Elements of which nothing is kept have no quotes. -/
lemma isQuoted_of_keptText_eq_nil {es : List Element} (h : keptText es = []) :
    ∀ e ∈ es, e.isQuoted = false := by
  intro e he
  have hkept := List.flatMap_eq_nil_iff.1 h e he
  cases hq : e.isQuoted with
  | false => rfl
  | true => simp [e.kept_eq_of_isQuoted hq, Element.quotes_ne_nil hq] at hkept

section Behind

variable {e : Element} {es es₁ es₂ es₃ : List Element} {a w b : List Char}

/-- A text in plain code, when one more element stands in front. -/
lemma InCode.behind (h : InCode es a w b es₁ es₂ es₃) (e : Element) :
    InCode (e :: es) (e.kept ++ a) w b (e :: es₁) es₂ es₃ :=
  ⟨by rw [h.eq]; rfl, by rw [keptText_cons, h.left], h.mid, h.right, h.plain⟩

/-- A text in the content of an element, when one more element stands in front. -/
lemma InContent.behind {d : Element} {x y : List Char} (h : InContent es a w b es₁ d es₂ x y)
    (e : Element) : InContent (e :: es) (e.kept ++ a) w b (e :: es₁) d es₂ x y :=
  ⟨by rw [h.eq]; rfl, h.isQuoted, h.content,
    by rw [keptText_cons, List.append_assoc, ← h.left], h.right⟩

/-- A text that goes on in plain code right behind an element that is no literal. -/
lemma InCode.from_front (h : InCode es [] w b es₁ es₂ es₃) (he : e.isQuoted = false) :
    InCode (e :: es) [] (e.kept ++ w) b [] (e :: (es₁ ++ es₂)) es₃ := by
  refine ⟨by rw [h.eq]; simp, rfl, ?_, h.right, ?_⟩
  · rw [keptText_cons, keptText_append, h.left, h.mid]
    rfl
  · exact List.forall_mem_cons.2 ⟨he, List.forall_mem_append.2
      ⟨isQuoted_of_keptText_eq_nil h.left, h.plain⟩⟩

/-- There are quotes in front of a content. -/
lemma InContent.left_ne_nil {d : Element} {x y : List Char}
    (h : InContent es a w b es₁ d es₂ x y) : a ≠ [] := by
  rw [h.left]
  simp [Element.quotes_ne_nil h.isQuoted]

end Behind

/-- A text without quotes that starts between quotes lies between them. -/
lemma exists_content_eq {quotes content closer rest a c w b : List Char} (hw : w ≠ [])
    (hfree : QuoteFree w) (hquotes : ∀ d ∈ quotes, IsQuote d) (hcloser : ∀ d ∈ closer, IsQuote d)
    (hopen : closer = [] → rest = []) (hc : c ≠ [])
    (hkept : quotes ++ (content ++ closer) = a ++ c) (htext : w ++ b = c ++ rest) :
    ∃ x y, content = x ++ (w ++ y) ∧ a = quotes ++ x ∧ b = y ++ (closer ++ rest) := by
  obtain ⟨d, c, rfl⟩ := List.exists_cons_of_ne_nil hc
  have hd : ¬ IsQuote d := by
    obtain ⟨d', w, rfl⟩ := List.exists_cons_of_ne_nil hw
    exact (List.cons.inj htext).1 ▸ hfree d' List.mem_cons_self
  -- it starts after the opening quotes
  obtain ⟨x, rfl, hx⟩ : ∃ x, a = quotes ++ x ∧ content ++ closer = x ++ d :: c := by
    rcases List.append_eq_append_iff.1 hkept with ⟨x, hx, hx'⟩ | ⟨z, hz, hz'⟩
    · exact ⟨x, hx, hx'⟩
    · cases z with
      | nil => exact ⟨[], by simpa using hz.symm, by simpa using hz'.symm⟩
      | cons d' z =>
          refine absurd (hquotes d ?_) hd
          rw [hz, (List.cons.inj hz').1]
          simp
  -- and in front of the closing ones
  obtain ⟨z, rfl, hz⟩ : ∃ z, content = x ++ z ∧ d :: c = z ++ closer := by
    rcases List.append_eq_append_iff.1 hx with ⟨z, -, hz⟩ | ⟨z, hz, hz'⟩
    · exact absurd (hcloser d (by rw [hz]; simp)) hd
    · exact ⟨z, hz, hz'⟩
  -- and it goes on in front of them
  rw [hz, List.append_assoc] at htext
  rcases List.append_eq_append_iff.1 htext with ⟨y, rfl, hy⟩ | ⟨t, rfl, ht⟩
  · exact ⟨x, y, rfl, rfl, hy⟩
  · cases t with
    | nil => exact ⟨x, [], by simp, rfl, ht.symm⟩
    | cons t₀ t =>
        cases hcl : closer with
        | nil =>
            rw [hcl, hopen hcl] at ht
            cases ht
        | cons q closer =>
            rw [hcl] at ht hcloser
            have hq : q = t₀ := (List.cons.inj ht).1
            exact absurd (hcloser q List.mem_cons_self) (hfree q (by simp [hq]))

/-- **A text without quotes** that is kept of a line stands in plain code, or in the content of one
literal or text block. -/
theorem exists_infix_keptText {es : List Element} (h : OneLine es) {a w b : List Char} (hw : w ≠ [])
    (hfree : QuoteFree w) (htext : keptText es = a ++ (w ++ b)) :
    (∃ es₁ es₂ es₃, InCode es a w b es₁ es₂ es₃) ∨
      ∃ es₁ e es₂ x y, InContent es a w b es₁ e es₂ x y := by
  induction es generalizing a w with
  | nil =>
      have hnil := (List.append_eq_nil_iff.1 htext.symm).2
      exact absurd (List.append_eq_nil_iff.1 hnil).1 hw
  | cons e es ih =>
      rw [keptText_cons] at htext
      -- the text starts behind the element
      have hbehind (a' : List Char) (hkept : keptText es = a' ++ (w ++ b)) :
          (∃ es₁ es₂ es₃, InCode (e :: es) (e.kept ++ a') w b es₁ es₂ es₃) ∨
            ∃ es₁ e' es₂ x y, InContent (e :: es) (e.kept ++ a') w b es₁ e' es₂ x y := by
        rcases ih h.tail hw hfree hkept with ⟨es₁, es₂, es₃, hin⟩ | ⟨es₁, e', es₂, x, y, hin⟩
        · exact .inl ⟨_, _, _, hin.behind e⟩
        · exact .inr ⟨_, _, _, _, _, hin.behind e⟩
      rcases List.append_eq_append_iff.1 htext with ⟨a', rfl, hkept⟩ | ⟨c, hc, hc'⟩
      · exact hbehind a' hkept
      · cases c with
        | nil =>
            have hbehind := hbehind [] hc'.symm
            rwa [List.append_nil, hc, List.append_nil] at hbehind
        | cons c₀ c =>
            cases hq : e.isQuoted with
            | true =>
                have hopen (hcloser : e.closer = []) : keptText es = [] := by
                  have hclosed : e.isClosed = false := by
                    by_contra hclosed
                    rw [Element.closer, if_pos (by simpa using hclosed)] at hcloser
                    exact Element.quotes_ne_nil hq hcloser
                  rw [h.eq_nil hclosed]
                  rfl
                obtain ⟨x, y, hcontent, ha, hb⟩ := exists_content_eq hw hfree h.isQuote
                  (fun d hd => h.isQuote d (e.closer_subset d hd)) hopen (by simp)
                  ((e.kept_eq_of_isQuoted hq).symm.trans hc) hc'
                exact .inr ⟨[], e, es, x, y, rfl, hq, hcontent, ha, hb⟩
            | false =>
                -- the element has one character, with which the text starts
                obtain ⟨d, hd⟩ : ∃ d, e.kept = [d] := by
                  rcases e.kept_of_not_isQuoted hq with hnil | hone
                  · rw [hnil] at hc
                    simp at hc
                  · exact hone
                obtain ⟨rfl, rfl, rfl⟩ : a = [] ∧ d = c₀ ∧ c = [] := by
                  rw [hd] at hc
                  cases a <;> simp_all
                obtain ⟨w₀, w, rfl⟩ := List.exists_cons_of_ne_nil hw
                obtain ⟨rfl, htail⟩ := List.cons.inj hc'
                cases w with
                | nil =>
                    exact .inl ⟨[], [e], es, rfl, rfl, by simpa using hd, htail.symm, by simp [hq]⟩
                | cons w₁ w =>
                    have hfree' : QuoteFree (w₁ :: w) := (List.forall_mem_cons.1 hfree).2
                    rcases ih (a := []) h.tail (by simp) hfree' htail.symm with
                      ⟨es₁, es₂, es₃, hin⟩ | ⟨es₁, e', es₂, x, y, hin⟩
                    · have hfront := hin.from_front hq
                      rw [hd] at hfront
                      exact .inl ⟨_, _, _, hfront⟩
                    · exact absurd rfl hin.left_ne_nil

end QualityGate
