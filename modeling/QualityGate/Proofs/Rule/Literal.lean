import QualityGate.Proofs.Rule.Search
import QualityGate.Rule.HardcodedLiteral
import Mathlib.Tactic

/-!
Literals as the expressions for comparisons describe them: pieces between two quotes. Any two quotes
of a line can be those of such a literal, but one that follows a text without quotes that stands in
code starts where a literal or text block of the line starts, and one in front of such a text ends
where one ends. So there is one at the same place when contents are replaced.

* `accepts_stringLiteral`, `accepts_charLiteral`: the literals that the expressions match.
* `piecesText_append_inj`: **where a literal ends** is determined by where it starts.
* `exists_literal_after`, `exists_literal_before`: a literal next to a text stays next to it.
-/

namespace QualityGate

open Regex HardcodedLiteral

/-! ### The literals of the expressions -/

/-- A piece that the expression for the inside of a literal matches. -/
def Piece.Inside (quote : Char) : Piece → Prop
  | char c => c ≠ quote ∧ c ≠ '\\'
  | escape c => c ≠ '\n'

lemma Piece.InLiteral.inside {quote : Char} {p : Piece} (h : p.InLiteral quote) :
    p.Inside quote := by
  cases p with
  | char c => exact ⟨h.1, h.2.1⟩
  | escape c => exact h

/-- Pieces between two quotes. -/
def quoted (quote : Char) (body : List Piece) : List Char := quote :: (piecesText body ++ [quote])

/-- The pieces are those of a string literal, or of a character literal with one piece. -/
def IsBody (quote : Char) (body : List Piece) : Prop :=
  (∀ p ∈ body, p.Inside quote) ∧ (quote = '"' ∨ quote = '\'' ∧ body.length = 1)

lemma IsBody.isQuote {quote : Char} {body : List Piece} (h : IsBody quote body) : IsQuote quote :=
  h.2.imp_right And.left

lemma accepts_insideOne {quote : Char} {w : List Char} :
    (insideOne quote).Accepts w ↔ ∃ p : Piece, p.Inside quote ∧ w = p.text := by
  have hescape : (Regex.seq (char '\\') dot).Accepts w ↔ ∃ c, c ≠ '\n' ∧ w = ['\\', c] := by
    rw [accepts_seq (by decide)]
    constructor
    · rintro ⟨u, v, rfl, hu, c, rfl, hc⟩
      rw [accepts_char.1 hu]
      exact ⟨c, by simpa [CharSet.allBut, CharSet.contains] using hc, rfl⟩
    · rintro ⟨c, hc, rfl⟩
      exact ⟨['\\'], [c], rfl, accepts_char.2 rfl, c, rfl,
        by simpa [CharSet.allBut, CharSet.contains] using hc⟩
  rw [insideOne, accepts_alt, hescape]
  constructor
  · rintro (⟨c, rfl, hc⟩ | ⟨c, hc, rfl⟩)
    · exact ⟨.char c, by simpa [CharSet.contains, Piece.Inside] using hc, rfl⟩
    · exact ⟨.escape c, hc, rfl⟩
  · rintro ⟨p, hp, rfl⟩
    cases p with
    | char c => exact .inl ⟨c, rfl, by simpa [CharSet.contains, Piece.Inside] using hp⟩
    | escape c => exact .inr ⟨c, hp, rfl⟩

lemma accepts_stringLiteral {w : List Char} :
    stringLiteral.Accepts w ↔ ∃ ps : List Piece, (∀ p ∈ ps, p.Inside '"') ∧ w = quoted '"' ps := by
  have hstar (v : List Char) : (star (insideOne '"')).Accepts v ↔
      ∃ ps : List Piece, (∀ p ∈ ps, p.Inside '"') ∧ v = ps.flatMap Piece.text :=
    accepts_star (by decide) fun _ => accepts_insideOne
  have hseq : stringLiteral = .seq (char '"') (.seq (star (insideOne '"')) (char '"')) := rfl
  have hend : onlyBoundaries .empty ((star (insideOne '"')).seq (char '"')) = true := by decide
  rw [hseq, accepts_seq (by decide)]
  simp only [accepts_seq hend, accepts_char, hstar]
  constructor
  · rintro ⟨_, _, rfl, rfl, _, _, rfl, ⟨ps, hps, rfl⟩, rfl⟩
    exact ⟨ps, hps, rfl⟩
  · rintro ⟨ps, hps, rfl⟩
    exact ⟨['"'], _, rfl, rfl, _, ['"'], rfl, ⟨ps, hps, rfl⟩, rfl⟩

lemma accepts_charLiteral {w : List Char} :
    charLiteral.Accepts w ↔ ∃ p : Piece, p.Inside '\'' ∧ w = quoted '\'' [p] := by
  have hseq : charLiteral = .seq (char '\'') (.seq (insideOne '\'') (char '\'')) := rfl
  have hend : onlyBoundaries .empty ((insideOne '\'').seq (char '\'')) = true := by decide
  rw [hseq, accepts_seq (by decide)]
  simp only [accepts_seq hend, accepts_char, accepts_insideOne]
  constructor
  · rintro ⟨_, _, rfl, rfl, _, _, rfl, ⟨p, hp, rfl⟩, rfl⟩
    exact ⟨p, hp, by simp [quoted, piecesText]⟩
  · rintro ⟨p, hp, rfl⟩
    exact ⟨['\''], _, rfl, rfl, p.text, ['\''], by simp [piecesText], ⟨p, hp, rfl⟩, rfl⟩

/-- A text starts with one piece only. -/
lemma Piece.text_append_inj {quote : Char} {p q : Piece} (hp : p.Inside quote) (hq : q.Inside quote)
    {u v : List Char} (h : p.text ++ u = q.text ++ v) : p = q ∧ u = v := by
  cases p with
  | char c =>
      cases q with
      | char d =>
          obtain ⟨rfl, htail⟩ := List.cons.inj h
          exact ⟨rfl, htail⟩
      | escape d => exact absurd (List.cons.inj h).1 hp.2
  | escape c =>
      cases q with
      | char d => exact absurd (List.cons.inj h).1.symm hq.2
      | escape d =>
          obtain ⟨rfl, htail⟩ := List.cons.inj (List.cons.inj h).2
          exact ⟨rfl, htail⟩

/-- How a literal can go on behind its pieces: with its closing quote, or with what ends a literal at
the end of its line. -/
def AtEnding (quote : Char) (s : List Char) : Prop := s.head? = some quote ∨ s = [] ∨ s = ['\\']

/-- No piece starts where a literal ends. -/
lemma AtEnding.ne_text_append {quote : Char} (hquote : quote ≠ '\\') {s : List Char}
    (hs : AtEnding quote s) {p : Piece} (hp : p.Inside quote) (u : List Char) : p.text ++ u ≠ s := by
  rintro rfl
  cases p with
  | char c =>
      rcases hs with hs | hs | hs
      · exact hp.1 (Option.some.inj hs)
      · cases hs
      · exact hp.2 (List.cons.inj hs).1
  | escape c =>
      rcases hs with hs | hs | hs
      · exact hquote (Option.some.inj hs).symm
      · cases hs
      · cases hs

/-- **Where a literal ends** is determined by where it starts. -/
theorem piecesText_append_inj {quote : Char} (hquote : quote ≠ '\\') {ps qs : List Piece}
    (hps : ∀ p ∈ ps, p.Inside quote) (hqs : ∀ p ∈ qs, p.Inside quote) {t s : List Char}
    (hs : AtEnding quote s) (h : piecesText ps ++ quote :: t = piecesText qs ++ s) :
    ps = qs ∧ s = quote :: t := by
  have hclosed : AtEnding quote (quote :: t) := .inl rfl
  have hcons (p : Piece) (ps : List Piece) (u : List Char) :
      piecesText (p :: ps) ++ u = p.text ++ (piecesText ps ++ u) := List.append_assoc _ _ _
  induction ps generalizing qs with
  | nil =>
      cases qs with
      | nil => exact ⟨rfl, h.symm⟩
      | cons q qs =>
          rw [hcons] at h
          exact absurd h.symm (hclosed.ne_text_append hquote (hqs q List.mem_cons_self) _)
  | cons p ps ih =>
      cases qs with
      | nil =>
          rw [hcons] at h
          exact absurd h (hs.ne_text_append hquote (hps p List.mem_cons_self) _)
      | cons q qs =>
          rw [hcons, hcons] at h
          obtain ⟨rfl, htail⟩ :=
            Piece.text_append_inj (hps p List.mem_cons_self) (hqs q List.mem_cons_self) h
          obtain ⟨rfl, hs⟩ := ih (fun p' hp' => hps p' (List.mem_cons_of_mem p hp'))
            (fun p' hp' => hqs p' (List.mem_cons_of_mem p hp')) htail
          exact ⟨rfl, hs⟩

/-! ### Literals at the ends of elements -/

section Elements

variable {es es' : List Element} {quote : Char} {ps : List Piece}

/-- A literal of the expressions at the front of a line that starts with a literal is that one. -/
lemma eq_of_literal_eq_quoted {body : List Piece} {ending : Ending}
    (h : OneLine (.literal quote body ending :: es)) (hps : IsBody quote ps) {r : List Char}
    (htext : piecesText body ++ (ending.text [quote] ++ keptText es) =
      piecesText ps ++ quote :: r) : body = ps ∧ ending = .closed ∧ keptText es = r := by
  have hquote : quote ≠ '\\' := by
    rintro rfl
    exact absurd hps.isQuote (by decide)
  have hend : AtEnding quote (ending.text [quote] ++ keptText es) := by
    cases ending with
    | closed => exact .inl rfl
    | unclosed | backslash =>
        rw [h.eq_nil rfl]
        simp [AtEnding, Ending.text]
  obtain ⟨rfl, hr⟩ := piecesText_append_inj hquote hps.1
    (fun p hp => (h.wellFormed.1.2.1 p hp).inside) hend htext.symm
  cases ending with
  | closed => exact ⟨rfl, rfl, (List.cons.inj hr).2⟩
  | unclosed =>
      rw [h.eq_nil rfl] at hr
      cases hr
  | backslash =>
      rw [h.eq_nil rfl] at hr
      exact absurd (List.cons.inj hr).1.symm hquote

/-- The text goes on with a quote, or else a text without quotes at its front is at the front of the
other text too. -/
def SameFront (r r' : List Char) : Prop :=
  r.head? = some '"' ∨ ∀ v b, v ≠ [] → QuoteFree v → r = v ++ b → ∃ b', r' = v ++ b'

/-- A literal at the front of a line: there is one at the front of a line of the same shape, and
what follows it without quotes follows that one. Only the first two quotes of a text block are
followed by another quote. -/
lemma exists_quoted_front (h : OneLine es) (h' : OneLine es') (hs : List.Forall₂ SameShape es es')
    (hps : IsBody quote ps) {r : List Char} (htext : keptText es = quoted quote ps ++ r) :
    ∃ ps' r', IsBody quote ps' ∧ keptText es' = quoted quote ps' ++ r' ∧ SameFront r r' := by
  induction hs with
  | nil => cases htext
  | @cons e e' es es' he hs ih =>
      cases he with
      | same hq =>
          rcases e.kept_of_not_isQuoted hq with hkept | ⟨c, hkept⟩
          · rw [keptText_cons, hkept, List.nil_append] at htext ⊢
            exact ih h.tail h'.tail htext
          · rw [keptText_cons, hkept] at htext
            obtain ⟨rfl, -⟩ := List.cons.inj htext
            exact absurd hps.isQuote (h.wellFormed.1.not_isQuote hq hkept)
      | @literal q body body' ending ending' hend hlength =>
          obtain rfl : q = quote := (List.cons.inj htext).1
          have htail : piecesText body ++ (ending.text [q] ++ keptText es) =
              piecesText ps ++ q :: r := by simpa [Element.kept, Element.text, quoted] using htext
          obtain ⟨rfl, rfl, rfl⟩ := eq_of_literal_eq_quoted h hps htail
          obtain rfl := hend.1 rfl
          have hbody' : IsBody q body' :=
            ⟨fun p hp => (h'.wellFormed.1.2.1 p hp).inside,
              hps.2.imp_right fun hone => ⟨hone.1, (hlength rfl).symm.trans hone.2⟩⟩
          refine ⟨body', keptText es', hbody', ?_, .inr fun v b hv hfree htext => ?_⟩
          · simp [Element.kept, Element.text, Ending.text, quoted]
          · exact exists_sameShape_front h.tail hs hv hfree htext
      | @textBlock body body' ending ending' hend =>
          obtain ⟨rfl, htail⟩ := List.cons.inj htext
          -- the second quote closes the literal
          obtain rfl : ps = [] := by
            cases ps with
            | nil => rfl
            | cons p ps =>
                have hp := hps.1 p List.mem_cons_self
                cases p with
                | char c => exact absurd (List.cons.inj htail).1.symm hp.1
                | escape c => exact absurd (List.cons.inj htail).1 (by decide)
          have hr : '"' :: (piecesText body ++ ending.text tripleQuote ++ keptText es) = r :=
            (List.cons.inj htail).2
          exact ⟨[], _, hps, rfl, .inl (hr ▸ rfl)⟩

/-- A quote at the end of elements that have their closing quotes is the end of a literal. -/
lemma exists_quoted_back (hes : ∀ e ∈ es, ∃ s, e.Delimited s)
    (hclosed : ∀ e ∈ es, e.isClosed = true) (hlast : (keptText es).getLast? = some '"') :
    ∃ u ps, keptText es = u ++ quoted '"' ps ∧ IsBody '"' ps := by
  induction es using List.reverseRecOn with
  | nil => cases hlast
  | append_singleton es e ih =>
      obtain ⟨hes, hone⟩ := List.forall_mem_append.1 hes
      obtain ⟨s, he⟩ := hone e (List.mem_singleton_self e)
      obtain ⟨hclosed, hone⟩ := List.forall_mem_append.1 hclosed
      have hend := hone e (List.mem_singleton_self e)
      rw [keptText_append, keptText_cons, keptText_nil, List.append_nil] at hlast ⊢
      cases hq : e.isQuoted with
      | false =>
          rcases e.kept_of_not_isQuoted hq with hkept | ⟨c, hkept⟩
          · rw [hkept, List.append_nil] at hlast ⊢
            exact ih hes hclosed hlast
          · rw [hkept, List.getLast?_append] at hlast
            exact absurd (.inl (Option.some.inj hlast)) (he.not_isQuote hq hkept)
      | true =>
          cases e with
          | plain c | lineComment body | blockComment body closed => cases hq
          | literal quote body ending =>
              obtain rfl : ending = .closed := of_decide_eq_true hend
              have hkept : (Element.literal quote body .closed).kept = quoted quote body := rfl
              obtain rfl : quote = '"' := by
                rw [hkept, quoted, ← List.cons_append, List.getLast?_append,
                  List.getLast?_append] at hlast
                exact Option.some.inj hlast
              exact ⟨keptText es, body, rfl, fun p hp => (he.2.1 p hp).inside, .inl rfl⟩
          | textBlock body ending =>
              obtain rfl : ending = .closed := of_decide_eq_true hend
              exact ⟨keptText es ++ (tripleQuote ++ (piecesText body ++ ['"'])), [],
                by simp [Element.kept, Element.text, Ending.text, quoted, tripleQuote], by simp,
                .inl rfl⟩

lemma WellFormed.exists_delimited (h : WellFormed es) : ∀ e ∈ es, ∃ s, e.Delimited s := by
  induction es with
  | nil => simp
  | cons e es ih => exact List.forall_mem_cons.2 ⟨⟨_, h.1⟩, ih h.2⟩

end Elements

/-! ### Literals next to a text in code -/

section NextTo

variable {es es' : List Element} {w a b : List Char} {quote : Char} {ps : List Piece}

/-- **A literal after a text** that is in no content. What follows the literal without quotes
follows it still, unless it is a quote that comes next. -/
theorem exists_literal_after (h : OneLine es) (h' : OneLine es')
    (hs : List.Forall₂ SameShape es es') (hw : w ≠ []) (hfree : QuoteFree w)
    (hcontent : ∀ e ∈ es, e.isQuoted = true → ¬ w <:+: e.content) (hps : IsBody quote ps)
    (htext : keptText es = a ++ (w ++ (quoted quote ps ++ b))) :
    ∃ a' ps' b', IsBody quote ps' ∧ keptText es' = a' ++ (w ++ (quoted quote ps' ++ b')) ∧
      SameFront b b' := by
  obtain ⟨es₁, es₂, es₃, es₁', es₃', hin, hin', -, hright⟩ :=
    exists_sameShape_code h hs hw hfree hcontent htext
  have hline : OneLine es₃ := OneLine.of_append (OneLine.of_append (hin.eq ▸ h))
  have hline' : OneLine es₃' := OneLine.of_append (OneLine.of_append (hin'.eq ▸ h'))
  obtain ⟨ps', b', hps', htext', hnext⟩ := exists_quoted_front hline hline' hright hps hin.right
  refine ⟨keptText es₁', ps', b', hps', ?_, hnext⟩
  rw [hin'.eq, keptText_append, keptText_append, hin'.mid, htext']

/-- **A string literal in front of a text** that is in no content. -/
theorem exists_literal_before (h : OneLine es) (h' : OneLine es')
    (hs : List.Forall₂ SameShape es es') (hw : w ≠ []) (hfree : QuoteFree w)
    (hcontent : ∀ e ∈ es, e.isQuoted = true → ¬ w <:+: e.content)
    (htext : keptText es = (a ++ quoted '"' ps) ++ (w ++ b)) :
    ∃ a' ps' b', IsBody '"' ps' ∧ keptText es' = (a' ++ quoted '"' ps') ++ (w ++ b') := by
  obtain ⟨es₁, es₂, es₃, es₁', es₃', hin, hin', hleft, -⟩ :=
    exists_sameShape_code h hs hw hfree hcontent htext
  have hne : es₂ ≠ [] := by
    rintro rfl
    exact hw hin.mid.symm
  have hclosed : ∀ e ∈ es₁, e.isClosed = true :=
    OneLine.isClosed_of_append (hin.eq ▸ h) (by simp [hne])
  have hclosed' : ∀ e ∈ es₁', e.isClosed = true :=
    OneLine.isClosed_of_append (hin'.eq ▸ h') (by simp [hne])
  have hlast : (keptText es₁').getLast? = some '"' := by
    rw [SameShape.getLast?_keptText hleft hclosed, hin.left, quoted, ← List.cons_append,
      ← List.append_assoc, List.getLast?_append]
    rfl
  have hplaced : ∀ e ∈ es₁', ∃ s, e.Delimited s := fun e he =>
    h'.wellFormed.exists_delimited e (hin'.eq ▸ List.mem_append_left _ he)
  obtain ⟨a', ps', htext', hps'⟩ := exists_quoted_back hplaced hclosed' hlast
  refine ⟨a', ps', keptText es₃', hps', ?_⟩
  rw [hin'.eq, keptText_append, keptText_append, hin'.mid, htext']

end NextTo

end QualityGate
