import QualityGate.Proofs.Source.Replacement
import QualityGate.Proofs.Text.Blank
import Mathlib.Tactic

/-!
Lines without their comments. A comment that is closed on its line gives way to a space, and a line
comment to nothing.

* `ofLine_withoutComments`: the scan of the line stays the same.
* `look_of_wellFormed`: whether a line with code on it looks like a comment is told by its code,
  unless a comment stands in front of the code.
-/

namespace QualityGate

/-! ### Taking comments away -/

/-- What a comment on a line gives way to. A comment that is not closed stays. -/
def Element.withoutComment : Element → List Element
  | lineComment _ => []
  | blockComment _ true => [.plain ' ']
  | e => [e]

/-- The elements of a line without comments. -/
def withoutComments (es : List Element) : List Element := es.flatMap Element.withoutComment

@[simp] lemma withoutComments_nil : withoutComments [] = [] := rfl

@[simp] lemma withoutComments_cons (e : Element) (es : List Element) :
    withoutComments (e :: es) = e.withoutComment ++ withoutComments es := rfl

/-- A line comment is the last element of its line. -/
lemma eq_nil_of_lineComment {body : List Char} {es : List Element}
    (h : (Element.lineComment body).Delimited (render es)) (hline : '\n' ∉ render es) : es = [] :=
  render_eq_nil_iff.1 (h.2.eq_nil hline)

/-- The line without comments starts as the line does, or with a space. -/
lemma head?_withoutComments {es : List Element} (h : WellFormed es) (hline : '\n' ∉ render es) :
    ∀ c ∈ (render (withoutComments es)).head?, c ∈ (render es).head? ∨ Neutral c := by
  cases es with
  | nil => simp
  | cons e es =>
      rw [render_cons, List.mem_append, not_or] at hline
      cases e with
      | lineComment body =>
          rw [eq_nil_of_lineComment h.1 hline.2]
          simp [Element.withoutComment]
      | blockComment body closed =>
          cases closed with
          | true =>
              rintro c hc
              cases hc
              exact .inr (by simp [Neutral])
          | false =>
              exact fun c hc => .inl (by simpa [Element.withoutComment, Element.text] using hc)
      | plain d => exact fun c hc => .inl (by simpa [Element.withoutComment, Element.text] using hc)
      | literal quote body ending =>
          exact fun c hc => .inl (by simpa [Element.withoutComment, Element.text] using hc)
      | textBlock body ending =>
          exact fun c hc =>
            .inl (by simpa [Element.withoutComment, Element.text, tripleQuote] using hc)

/-- A line without its comments is made of well-formed elements again. -/
lemma WellFormed.withoutComments {es : List Element} (h : WellFormed es)
    (hline : '\n' ∉ render es) : WellFormed (withoutComments es) := by
  induction es with
  | nil => trivial
  | cons e es ih =>
      obtain ⟨he, hes⟩ := h
      rw [render_cons, List.mem_append, not_or] at hline
      have ih := ih hes hline.2
      have hnil (hrest : render es = []) : render (QualityGate.withoutComments es) = [] := by
        rw [render_eq_nil_iff.1 hrest]
        rfl
      have hstays : e.Delimited (render (QualityGate.withoutComments es)) :=
        he.of_head hnil (fun hend => by rw [hnil (hend.eq_nil hline.2)]; simp [AtLineEnd])
          (head?_withoutComments hes hline.2)
      cases e with
      | lineComment body => exact ih
      | blockComment body closed =>
          cases closed with
          | true => exact ⟨⟨by decide, by decide, fun h => absurd h (by decide)⟩, ih⟩
          | false => exact ⟨hstays, ih⟩
      | plain c | literal quote body ending | textBlock body ending => exact ⟨hstays, ih⟩

/-- No comment that is closed on its line is left. -/
lemma closedComment_not_mem_withoutComments (es : List Element) (body : List Char) :
    Element.blockComment body true ∉ withoutComments es := by
  rw [withoutComments, List.mem_flatMap]
  rintro ⟨e, -, he⟩
  cases e with
  | blockComment b closed => cases closed <;> simp [Element.withoutComment] at he
  | plain c | lineComment b | literal q b n | textBlock b n =>
      simp [Element.withoutComment] at he

/-! ### The scan of the line -/

/-- Characters that are scanned alike, after characters that are scanned alike. -/
lemma scanOf_append_congr {s : LexState} {ms ms' ns ns' : List Mark}
    (hms : scanOf s ms' = scanOf s ms)
    (hns : scanOf (stateAfter s ms) ns' = scanOf (stateAfter s ms) ns) :
    scanOf s (ms' ++ ns') = scanOf s (ms ++ ns) := by
  have hexit : stateAfter s ms' = stateAfter s ms := congrArg Scan.exit hms
  rw [scanOf_append, scanOf_append, hexit, hms, hns]

/-- A comment that is closed on its line is scanned like a space. -/
lemma scanOf_closedComment (body : List Char) :
    scanOf .code (Element.blockComment body true).marks =
      scanOf .code (Element.plain ' ').marks := by
  have hplain : plainChars (Element.blockComment body true).marks = [] := by
    simp [plainChars, Element.marks, marked]
  have hstate := (Element.blockComment body true).stateAfter_marks
  have hkept := (Element.blockComment body true).flatMap_kept_marks
  simp only [scanOf, hplain, hstate, hkept]
  rfl

lemma scanOf_withoutComments {es : List Element} (h : WellFormed es) (hline : '\n' ∉ render es) :
    scanOf .code (marks (withoutComments es)) = scanOf .code (marks es) := by
  induction es with
  | nil => rfl
  | cons e es ih =>
      obtain ⟨he, hes⟩ := h
      rw [render_cons, List.mem_append, not_or] at hline
      have ih := ih hes hline.2
      have hmarks : marks (e :: es) = e.marks ++ marks es := rfl
      have hstays : scanOf .code (e.marks ++ marks (withoutComments es)) =
          scanOf .code (e.marks ++ marks es) := by
        by_cases hopen : e.isOpen = true
        · rw [render_eq_nil_iff.1 (he.eq_nil_of_isOpen hopen)]
          rfl
        · refine scanOf_append_congr rfl ?_
          rwa [e.stateAfter_marks, if_neg hopen]
      rw [hmarks]
      cases e with
      | lineComment body =>
          exact ih.trans (scanOf_lineComment _ _ _ _).symm
      | blockComment body closed =>
          cases closed with
          | true =>
              refine scanOf_append_congr (scanOf_closedComment body).symm ?_
              rwa [Element.stateAfter_marks]
          | false => exact hstays
      | plain c | literal quote body ending | textBlock body ending => exact hstays

/-- **Without its comments a line is scanned alike.** -/
theorem ofLine_withoutComments {es : List Element} (h : WellFormed es) (hline : '\n' ∉ render es)
    (hline' : '\n' ∉ render (withoutComments es)) :
    Scan.ofLine .code (render (withoutComments es)) = Scan.ofLine .code (render es) := by
  rw [ofLine_eq_scanOf _ hline', ofLine_eq_scanOf _ hline, marksFrom_render h,
    marksFrom_render (h.withoutComments hline), scanOf_withoutComments h hline]

/-! ### How the line looks -/

/-- What a line with code on it looks like: it is not blank, and it looks like a comment exactly if
its code starts with a star. -/
structure LooksLikeCode (line code : List Char) : Prop where
  isComment : ∀ n, Line.isComment ⟨n, line⟩ = ['*'].isPrefixOf (Text.trim code)
  isBlank : ∀ n, Line.isBlank ⟨n, line⟩ = false

/-- White space in front does not matter. -/
lemma LooksLikeCode.of_blank {line code : List Char} (h : LooksLikeCode line code) {c : Char}
    (hc : Text.isBlank c = true) : LooksLikeCode (c :: line) (c :: code) := by
  have htrim (s : List Char) : Text.trim (c :: s) = Text.trim s := trim_cons_of_blank hc s
  refine ⟨fun n => ?_, fun n => ?_⟩
  · simp only [Line.isComment, Line.opensComment, Line.trimmed, htrim]
    exact h.isComment n
  · simp only [Line.isBlank, Line.trimmed, htrim]
    exact h.isBlank n

/-- A line that starts with a character other than white space, and not with a mark that opens a
comment. -/
lemma looksLikeCode_cons {c : Char} (hc : Text.isBlank c = false) {line code : List Char}
    (hslash : c = '/' → AtNoComment line) : LooksLikeCode (c :: line) (c :: code) := by
  have htrim (s : List Char) : Text.trim (c :: s) = c :: Text.trimEnd s := trim_append_cons hc [] s
  have hopens : ∀ w ∈ [['/', '/'], ['/', '*']], w.isPrefixOf (c :: Text.trimEnd line) = false := by
    intro w hw
    rw [Bool.eq_false_iff]
    intro hprefix
    have hprefix := (List.isPrefixOf_iff_prefix.1 hprefix).trans
      (List.cons_prefix_cons.2 ⟨rfl, trimEnd_prefix_self line⟩)
    simp only [List.mem_cons, List.not_mem_nil, or_false] at hw
    rcases hw with rfl | rfl
    · obtain ⟨rest, hrest⟩ := hprefix
      cases hrest
      exact (hslash rfl _ rfl).1 rfl
    · obtain ⟨rest, hrest⟩ := hprefix
      cases hrest
      exact (hslash rfl _ rfl).2 rfl
  refine ⟨fun n => ?_, fun n => ?_⟩
  · have hline : "//".toList = ['/', '/'] := rfl
    have hblock : "/*".toList = ['/', '*'] := rfl
    rw [Line.isComment, Line.opensComment, Line.trimmed, htrim, htrim, hline, hblock,
      hopens _ (by simp), hopens _ (by simp)]
    rfl
  · rw [Line.isBlank, Line.trimmed, htrim]
    rfl

/-- **How a line looks.** It has no code on it, or a comment that is closed stands at its front, or
else its code tells how it looks. -/
theorem look_of_wellFormed {es : List Element} (h : WellFormed es) (hline : '\n' ∉ render es) :
    Text.trim (keptText es) = [] ∨
      ((∀ n, Line.opensComment ⟨n, render es⟩ = true) ∧ ∃ body, .blockComment body true ∈ es) ∨
      LooksLikeCode (render es) (keptText es) := by
  induction es with
  | nil => exact .inl rfl
  | cons e es ih =>
      obtain ⟨he, hes⟩ := h
      rw [render_cons, List.mem_append, not_or] at hline
      cases e with
      | plain c =>
          cases hc : Text.isBlank c with
          | false => exact .inr (.inr (looksLikeCode_cons hc he.2.2))
          | true =>
              have htrim (s : List Char) : Text.trim (c :: s) = Text.trim s :=
                trim_cons_of_blank hc s
              rcases ih hes hline.2 with hnil | ⟨hopens, body, hbody⟩ | hlook
              · exact .inl ((htrim (keptText es)).trans hnil)
              · refine .inr (.inl ⟨fun n => ?_, body, List.mem_cons_of_mem _ hbody⟩)
                have hline : Line.trimmed ⟨n, c :: render es⟩ = Text.trim (render es) :=
                  htrim (render es)
                exact (congrArg _ hline).trans (hopens n)
              · exact .inr (.inr (hlook.of_blank hc))
      | lineComment body =>
          rw [eq_nil_of_lineComment he hline.2]
          exact .inl rfl
      | blockComment body closed =>
          cases closed with
          | true =>
              refine .inr (.inl ⟨fun n => ?_, body, List.mem_cons_self⟩)
              have htrim : Text.trim ('/' :: '*' :: (body ++ ['*', '/'] ++ render es)) =
                  '/' :: '*' :: Text.trimEnd (body ++ ['*', '/'] ++ render es) :=
                (trim_append_cons (by decide) [] _).trans
                  (congrArg (List.cons '/') (trimEnd_append_cons (by decide) [] _))
              rw [Line.opensComment, Line.trimmed]
              simp only [render_cons, Element.text, if_true, List.cons_append]
              rw [htrim]
              rfl
          | false =>
              rw [render_eq_nil_iff.1 (he.2 rfl)]
              exact .inl rfl
      | literal quote body ending =>
          have hquote : Text.isBlank quote = false ∧ quote ≠ '/' := by
            rcases he.1 with rfl | rfl <;> decide
          exact .inr (.inr (looksLikeCode_cons hquote.1 fun h => absurd h hquote.2))
      | textBlock body ending =>
          exact .inr (.inr (looksLikeCode_cons (by decide) fun h => absurd h (by decide)))

end QualityGate
