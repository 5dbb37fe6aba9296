import QualityGate.Proofs.Source.Cut
import QualityGate.Proofs.Source.Quoted
import Mathlib.Tactic

/-!
Lines with the content of their literals and text blocks crossed out.

* `SameShape`: elements that differ at most in what stands between their quotes.
* `Element.blanked`: the element with every character and every escape between its quotes replaced
  by the letter `x`.
* `LexedLine.BlankedTo`: the same for a line, which can start inside a text block.
* `ReplacedBy.exists_keptAlike`: **what is kept of a line** and of the line with its contents
  crossed out.
* `exists_forall₂_blankedTo`: the contents of every text can be crossed out.
-/

namespace QualityGate

/-! ### Elements of the same shape -/

/-- Elements that differ at most in their content. Literals with closing quotes hold as many
characters and escapes. -/
inductive SameShape : Element → Element → Prop where
  | same {e : Element} (h : e.isQuoted = false) : SameShape e e
  | literal {quote : Char} {body body' : List Piece} {ending ending' : Ending}
      (hend : ending = .closed ↔ ending' = .closed)
      (hlength : ending = .closed → body.length = body'.length) :
      SameShape (.literal quote body ending) (.literal quote body' ending')
  | textBlock {body body' : List Piece} {ending ending' : Ending}
      (hend : ending = .closed ↔ ending' = .closed) :
      SameShape (.textBlock body ending) (.textBlock body' ending')

namespace SameShape

variable {e e' : Element} {es es' : List Element}

lemma symm (h : SameShape e e') : SameShape e' e := by
  cases h with
  | same h => exact .same h
  | literal hend hlength => exact .literal hend.symm fun h => (hlength (hend.2 h)).symm
  | textBlock hend => exact .textBlock hend.symm

lemma symm_all (h : List.Forall₂ SameShape es es') : List.Forall₂ SameShape es' es :=
  h.flip.imp fun _ _ h => h.symm

lemma eq_of_not_isQuoted (h : SameShape e e') (hq : e.isQuoted = false) : e' = e := by
  cases h with
  | same h => rfl
  | literal hend hlength | textBlock hend => cases hq

lemma isQuoted_eq (h : SameShape e e') : e'.isQuoted = e.isQuoted := by
  cases h <;> rfl

lemma quotes_eq (h : SameShape e e') : e'.quotes = e.quotes := by
  cases h <;> rfl

lemma isClosed_eq (h : SameShape e e') : e'.isClosed = e.isClosed := by
  cases h with
  | same h => rfl
  | literal hend hlength => exact decide_eq_decide.2 hend.symm
  | textBlock hend => exact decide_eq_decide.2 hend.symm

lemma closer_eq (h : SameShape e e') : e'.closer = e.closer := by
  rw [Element.closer, Element.closer, h.isClosed_eq, h.quotes_eq]

/-- Elements of the same shape leave the scan in the same state. -/
lemma stateAfter_marks (h : SameShape e e') :
    stateAfter .code e'.marks = stateAfter .code e.marks := by
  rw [Element.stateAfter_marks, Element.stateAfter_marks]
  cases h with
  | same h => rfl
  | literal hend hlength => rfl
  | @textBlock body body' ending ending' hend =>
      have hopen : (Element.textBlock body' ending').isOpen =
          (Element.textBlock body ending).isOpen := by
        rw [Element.isOpen, Element.isOpen, Bool.eq_iff_iff, bne_iff_ne, bne_iff_ne, Ne, Ne, hend]
      rw [hopen]
      rfl

/-- The same is kept of the front of elements of the same shape. -/
lemma head?_keptText (h : List.Forall₂ SameShape es es') :
    (keptText es').head? = (keptText es).head? := by
  induction h with
  | nil => rfl
  | @cons e e' es es' he _ ih =>
      rw [keptText_cons, keptText_cons, List.head?_append, List.head?_append, ih]
      cases hq : e.isQuoted with
      | false => rw [he.eq_of_not_isQuoted hq]
      | true =>
          have hq' : e'.isQuoted = true := he.isQuoted_eq.trans hq
          obtain ⟨c, s, hc⟩ := List.exists_cons_of_ne_nil (Element.quotes_ne_nil hq)
          rw [Element.kept_eq_of_isQuoted hq, Element.kept_eq_of_isQuoted hq', he.quotes_eq, hc]
          rfl

/-- The same is kept of the end of elements of the same shape, if they have their closing quotes. -/
lemma getLast?_keptText (h : List.Forall₂ SameShape es es')
    (hclosed : ∀ e ∈ es, e.isClosed = true) : (keptText es').getLast? = (keptText es).getLast? := by
  induction h with
  | nil => rfl
  | @cons e e' es es' he _ ih =>
      obtain ⟨hclosed, hrest⟩ := List.forall_mem_cons.1 hclosed
      rw [keptText_cons, keptText_cons, List.getLast?_append, List.getLast?_append, ih hrest]
      cases hq : e.isQuoted with
      | false => rw [he.eq_of_not_isQuoted hq]
      | true =>
          have hq' : e'.isQuoted = true := he.isQuoted_eq.trans hq
          have hcloser : e.closer ≠ [] := by
            rw [Element.closer, if_pos hclosed]
            exact Element.quotes_ne_nil hq
          rw [Element.kept_eq_of_isQuoted hq, Element.kept_eq_of_isQuoted hq', he.closer_eq,
            ← List.append_assoc, ← List.append_assoc, List.getLast?_append_of_ne_nil _ hcloser,
            List.getLast?_append_of_ne_nil _ hcloser]

/-- Nothing is kept of elements of the same shape of which nothing is kept. -/
lemma keptText_eq_nil (h : List.Forall₂ SameShape es es') (hnil : keptText es = []) :
    keptText es' = [] := by
  have hhead := head?_keptText h
  rw [hnil] at hhead
  exact List.head?_eq_none_iff.1 hhead

/-- Elements of the same shape can be cut alike. -/
lemma exists_append {es₁ es₂ : List Element} (h : List.Forall₂ SameShape (es₁ ++ es₂) es') :
    ∃ es₁' es₂', es' = es₁' ++ es₂' ∧ List.Forall₂ SameShape es₁ es₁' ∧
      List.Forall₂ SameShape es₂ es₂' := by
  induction es₁ generalizing es' with
  | nil => exact ⟨[], es', rfl, .nil, h⟩
  | cons e es₁ ih =>
      cases h with
      | cons he hes =>
          obtain ⟨es₁', es₂', rfl, h₁, h₂⟩ := ih hes
          exact ⟨_ :: es₁', es₂', rfl, .cons he h₁, h₂⟩

/-- Elements without content stay the same. -/
lemma eq_of_forall (h : List.Forall₂ SameShape es es') (hq : ∀ e ∈ es, e.isQuoted = false) :
    es' = es := by
  induction h with
  | nil => rfl
  | cons he _ ih =>
      obtain ⟨hq, hrest⟩ := List.forall_mem_cons.1 hq
      rw [he.eq_of_not_isQuoted hq, ih hrest]

end SameShape

/-! ### Crossing contents out -/

/-- How an element ends when a backslash at its end is crossed out. -/
def Ending.blanked : Ending → Ending
  | closed => closed
  | unclosed | backslash => unclosed

/-- The letter `x` for every piece, and for a backslash at the end. -/
def crossedOut (body : List Piece) (ending : Ending) : List Piece :=
  List.replicate (body.length + if ending = .backslash then 1 else 0) (.char 'x')

/-- An element with its content crossed out. -/
def Element.blanked : Element → Element
  | literal quote body ending => literal quote (crossedOut body ending) ending.blanked
  | textBlock body ending => textBlock (crossedOut body ending) ending.blanked
  | e => e

lemma Ending.blanked_eq_closed_iff (ending : Ending) :
    ending = .closed ↔ ending.blanked = .closed := by
  cases ending <;> simp [blanked]

lemma sameShape_blanked (e : Element) : SameShape e e.blanked := by
  cases e with
  | plain c => exact .same rfl
  | lineComment body => exact .same rfl
  | blockComment body closed => exact .same rfl
  | literal quote body ending =>
      refine .literal ending.blanked_eq_closed_iff fun hend => ?_
      simp [crossedOut, hend]
  | textBlock body ending => exact .textBlock ending.blanked_eq_closed_iff

lemma forall₂_sameShape_blanked (es : List Element) :
    List.Forall₂ SameShape es (es.map Element.blanked) := by
  induction es with
  | nil => exact .nil
  | cons e es ih => exact .cons (sameShape_blanked e) ih

/-- A triple quote does not start at a letter. -/
lemma not_tripleQuote_prefix_x (s : List Char) : ¬ tripleQuote <+: 'x' :: s := by
  rintro ⟨t, ht⟩
  cases ht

lemma piecesText_replicate (n : ℕ) :
    piecesText (List.replicate n (.char 'x')) = List.replicate n 'x' := by
  induction n with
  | zero => rfl
  | succ n ih => rw [List.replicate_succ, List.replicate_succ, piecesText_char, ih]

/-- An element with its content crossed out is well placed where the element is. -/
lemma Element.Delimited.blanked {e : Element} {s : List Char} (h : e.Delimited s) :
    e.blanked.Delimited s := by
  cases e with
  | plain c => exact h
  | lineComment body => exact h
  | blockComment body closed => exact h
  | literal quote body ending =>
      obtain ⟨hquote, hbody, hend, htriple⟩ := h
      refine ⟨hquote, fun p hp => ?_, fun hne => hend fun heq => ?_, ?_⟩
      · rw [List.eq_of_mem_replicate hp]
        rcases hquote with rfl | rfl <;> simp [Piece.InLiteral]
      · exact hne (ending.blanked_eq_closed_iff.1 heq)
      · rw [crossedOut, piecesText_replicate]
        cases hn : body.length + if ending = .backslash then 1 else 0 with
        | zero =>
            -- an empty literal stays as it is
            have hempty : body = [] ∧ ending ≠ .backslash := by
              split at hn <;> simp_all
            obtain ⟨rfl, hending⟩ := hempty
            cases ending with
            | closed => exact htriple
            | unclosed => exact htriple
            | backslash => exact absurd rfl hending
        | succ n =>
            rintro ⟨t, ht⟩
            rw [List.replicate_succ] at ht
            cases ht
  | textBlock body ending =>
      obtain ⟨hbody, htriple, hend⟩ := h
      refine ⟨fun p hp => ?_, ?_, fun hne => hend fun heq => ?_⟩
      · rw [List.eq_of_mem_replicate hp]
        simp [Piece.InTextBlock]
      · rw [crossedOut]
        induction body.length + (if ending = .backslash then 1 else 0) with
        | zero => trivial
        | succ n ih => exact ⟨not_tripleQuote_prefix_x _, ih⟩
      · exact hne (ending.blanked_eq_closed_iff.1 heq)

/-- Crossing contents out keeps the first character. -/
lemma head?_render_blanked (es : List Element) :
    (render (es.map Element.blanked)).head? = (render es).head? := by
  cases es with
  | nil => rfl
  | cons e es => cases e <;> rfl

/-- Crossing contents out adds no other letter. -/
lemma Element.mem_text_blanked {e : Element} {c : Char} (h : c ∈ e.blanked.text) :
    c ∈ e.text ∨ c = 'x' := by
  have hbody (body : List Piece) (ending : Ending) (hc : c ∈ piecesText (crossedOut body ending)) :
      c = 'x' := by
    rw [crossedOut, piecesText_replicate] at hc
    exact List.eq_of_mem_replicate hc
  cases e with
  | plain d | lineComment body | blockComment body closed => exact .inl h
  | literal quote body ending =>
      rcases List.mem_append.1 h with h | h
      · rcases List.mem_cons.1 h with rfl | h
        · exact .inl (by simp [Element.text])
        · exact .inr (hbody body ending h)
      · cases ending with
        | closed => exact .inl (List.mem_append_right _ h)
        | unclosed | backslash => cases h
  | textBlock body ending =>
      rcases List.mem_append.1 h with h | h
      · rcases List.mem_append.1 h with h | h
        · exact .inl (by simp [Element.text, h])
        · exact .inr (hbody body ending h)
      · cases ending with
        | closed => exact .inl (List.mem_append_right _ h)
        | unclosed | backslash => cases h

/-- A line with its contents crossed out is a line of well-formed elements again. -/
lemma OneLine.blanked {es : List Element} (h : OneLine es) : OneLine (es.map Element.blanked) := by
  induction es with
  | nil => exact h
  | cons e es ih =>
      have hrest := ih h.tail
      have hhead := head?_render_blanked es
      have hnil (hs : render es = []) : render (es.map Element.blanked) = [] := by
        rw [hs] at hhead
        exact List.head?_eq_none_iff.1 hhead
      refine ⟨⟨h.wellFormed.1.blanked.of_head hnil ?_ ?_, hrest.wellFormed⟩, ?_⟩
      · intro hend
        rwa [AtLineEnd, hhead]
      · intro c hc
        exact .inl (hhead ▸ hc)
      · have hnewline := h.newline
        rw [render_cons, List.mem_append, not_or] at hnewline
        rw [List.map_cons, render_cons, List.mem_append, not_or]
        exact ⟨fun hmem => (Element.mem_text_blanked hmem).elim hnewline.1 (by decide),
          hrest.newline⟩

/-- Only the letter is left of the content. -/
lemma Element.eq_of_mem_content_blanked (e : Element) (hq : e.blanked.isQuoted = true) {c : Char}
    (hc : c ∈ e.blanked.content) : c = 'x' := by
  have hcontent (body : List Piece) (ending : Ending)
      (hc : c ∈ piecesText (crossedOut body ending) ++ ending.blanked.text []) : c = 'x' := by
    have hend : ending.blanked.text [] = [] := by cases ending <;> rfl
    rw [hend, List.append_nil, crossedOut, piecesText_replicate] at hc
    exact List.eq_of_mem_replicate hc
  cases e with
  | plain d | lineComment body | blockComment body closed => cases hq
  | literal quote body ending | textBlock body ending => exact hcontent body ending hc

/-! ### Lines and the states in which they start -/

/-- The mark that opens what a line starts in. -/
def LexState.opener : LexState → List Char
  | code => []
  | blockComment => ['/', '*']
  | textBlock => tripleQuote

/-- What is kept of that mark. -/
def LexState.keptOpener : LexState → List Char
  | code | blockComment => []
  | textBlock => tripleQuote

/-- A line that starts in a state is scanned as if the mark stood in front of it. -/
lemma marksFrom_opener (s : LexState) (t : List Char) :
    marksFrom .code (s.opener ++ t) = marked s.region s.opener ++ marksFrom s t := by
  cases s with
  | code => rfl
  | blockComment => exact marksFrom.eq_8 t
  | textBlock => exact marksFrom.eq_9 t

/-- What is kept of a line, and the state after it, told by the elements of the line with the mark
that opens what it starts in. -/
lemma ofLine_eq_of_render {s : LexState} {t : List Char} (ht : '\n' ∉ t) {es : List Element}
    (hes : WellFormed es) (hrender : render es = s.opener ++ t) :
    keptText es = s.keptOpener ++ (Scan.ofLine s t).code ∧
      (Scan.ofLine s t).exit = stateAfter .code (marks es) := by
  have hmarks : marks es = marked s.region s.opener ++ marksFrom s t := by
    rw [← marksFrom_render hes, hrender, marksFrom_opener]
  rw [ofLine_eq_scanOf s ht, ← flatMap_kept_marks, hmarks, List.flatMap_append, stateAfter_append]
  constructor
  · cases s <;> rfl
  · cases s <;> rfl

/-- The text is the line with its contents crossed out, and the contents have the property that is
given for the lines with its number. A line can start inside a text block, whose content then starts
with the line. -/
def LexedLine.BlankedTo (P : ℕ → List Char → Prop) (l : LexedLine) (t : List Char) : Prop :=
  ∃ es, WellFormed es ∧ render es = l.entry.opener ++ l.line.text ∧
    l.entry.opener ++ t = render (es.map Element.blanked) ∧
    ∀ e ∈ es, e.isQuoted = true → P l.line.number e.content

/-- What is kept of a line, and of the line with its contents crossed out. -/
structure KeptAlike (P : ℕ → List Char → Prop) (l k : LexedLine) (es es' : List Element) :
    Prop where
  oneLine : OneLine es
  oneLine' : OneLine es'
  shape : List.Forall₂ SameShape es es'
  render : render es = l.entry.opener ++ l.line.text
  render' : QualityGate.render es' = l.entry.opener ++ k.line.text
  kept : keptText es = l.entry.keptOpener ++ l.code
  kept' : keptText es' = l.entry.keptOpener ++ k.code
  content : ∀ e ∈ es, e.isQuoted = true → P l.line.number e.content
  content' : ∀ e ∈ es', e.isQuoted = true → ∀ c ∈ e.content, c = 'x'
  exit : k.exit = l.exit

lemma stateAfter_marks_of_sameShape {es es' : List Element} (h : List.Forall₂ SameShape es es') :
    stateAfter .code (marks es') = stateAfter .code (marks es) := by
  have hstate (s : LexState) : stateAfter s (marks es') = stateAfter s (marks es) := by
    induction h generalizing s with
    | nil => rfl
    | @cons e e' es es' he _ ih =>
        have hmarks (e : Element) (es : List Element) : marks (e :: es) = e.marks ++ marks es := rfl
        rw [hmarks, hmarks, stateAfter_append, stateAfter_append, Element.stateAfter_marks_eq,
          Element.stateAfter_marks_eq e, he.stateAfter_marks, ih]
  exact hstate .code

/-- **A line and the line with its contents crossed out** are made of elements of the same shape. -/
theorem ReplacedBy.exists_keptAlike {P : ℕ → List Char → Prop} {l k : LexedLine}
    (h : ReplacedBy (LexedLine.BlankedTo P) l k) : ∃ es es', KeptAlike P l k es es' := by
  obtain ⟨es, hes, hrender, hrender', hcontent⟩ := h.rel
  have hopener : '\n' ∉ l.entry.opener := by cases l.entry <;> decide
  have hline : OneLine es := by
    refine ⟨hes, ?_⟩
    rw [hrender, List.mem_append, not_or]
    exact ⟨hopener, h.oneLine⟩
  obtain ⟨hkept, hexit⟩ := ofLine_eq_of_render h.oneLine hes hrender
  obtain ⟨hkept', hexit'⟩ := ofLine_eq_of_render h.oneLine' hline.blanked.wellFormed hrender'.symm
  refine ⟨es, es.map Element.blanked, hline, hline.blanked, forall₂_sameShape_blanked es, hrender,
    hrender'.symm, ?_, ?_, hcontent, ?_, ?_⟩
  · rw [hkept, LexedLine.code, h.scan]
  · rw [hkept', LexedLine.code, h.scan']
  · intro e' he' hq c hc
    obtain ⟨e, -, rfl⟩ := List.mem_map.1 he'
    exact e.eq_of_mem_content_blanked hq hc
  · rw [LexedLine.exit, LexedLine.exit, h.scan, h.scan', hexit, hexit',
      stateAfter_marks_of_sameShape (forall₂_sameShape_blanked es)]

/-! ### Every text can be crossed out -/

/-- The mark that opens what a line starts in is not crossed out. -/
lemma opener_prefix_blanked {s : LexState} {es : List Element} (hes : WellFormed es)
    (h : s.opener <+: render es) : s.opener <+: render (es.map Element.blanked) := by
  cases s with
  | code => exact List.nil_prefix
  | blockComment =>
      obtain ⟨t, ht⟩ := h
      cases es with
      | nil => cases ht
      | cons e es =>
          cases e with
          | plain c =>
              have hstar : render es = '*' :: t := (List.cons.inj ht).2.symm
              have hnone := hes.1.2.2 (List.cons.inj ht).1.symm '*' (by rw [hstar]; rfl)
              exact absurd rfl hnone.2
          | lineComment body => cases ht
          | blockComment body closed => exact ⟨_, rfl⟩
          | literal quote body ending =>
              have hquote : quote = '/' := (List.cons.inj ht).1.symm
              subst hquote
              exact absurd hes.1.1 (by decide)
          | textBlock body ending => cases ht
  | textBlock =>
      cases es with
      | nil => exact absurd h (by decide)
      | cons e es =>
          obtain ⟨t, ht⟩ := h
          cases e with
          | plain c => exact absurd (List.cons.inj ht).1.symm hes.1.1
          | lineComment body | blockComment body closed => cases ht
          | literal quote body ending =>
              refine absurd ⟨t, ht.trans ?_⟩ hes.1.2.2.2
              simp [Element.text]
          | textBlock body ending => exact ⟨_, by simp [Element.blanked, Element.text]; rfl⟩

/-- The contents of a line can be crossed out. -/
lemma LexedLine.exists_blankedTo {l : LexedLine} (hline : '\n' ∉ l.line.text) :
    ∃ t, '\n' ∉ t ∧ l.BlankedTo (fun _ _ => True) t := by
  obtain ⟨es, hes, hrender⟩ := exists_wellFormed (l.entry.opener ++ l.line.text)
  have hopener : '\n' ∉ l.entry.opener := by cases l.entry <;> decide
  have honeLine : OneLine es := by
    refine ⟨hes, ?_⟩
    rw [hrender, List.mem_append, not_or]
    exact ⟨hopener, hline⟩
  obtain ⟨t, ht⟩ := opener_prefix_blanked hes (s := l.entry) ⟨l.line.text, hrender.symm⟩
  refine ⟨t, fun hmem => honeLine.blanked.newline ?_, es, hes, hrender, ht, fun _ _ _ => trivial⟩
  rw [← ht]
  exact List.mem_append_right _ hmem

/-- Lines put together, each with a carriage return and a line feed. -/
lemma lines_flatMap_returnFeed {ts : List (List Char)} (hts : ∀ t ∈ ts, '\n' ∉ t) :
    Text.lines (ts.flatMap fun t => t ++ ['\r', '\n']) = ts := by
  induction ts with
  | nil => rfl
  | cons t ts ih =>
      obtain ⟨ht, hts⟩ := List.forall_mem_cons.1 hts
      have hreturn : '\n' ∉ t ++ ['\r'] := by simp [ht]
      have hpieces := pieces_append_newline hreturn (ts.flatMap fun t => t ++ ['\r', '\n'])
      have hfirst : (t :: ts).flatMap (fun t => t ++ ['\r', '\n']) =
          (t ++ ['\r']) ++ '\n' :: ts.flatMap (fun t => t ++ ['\r', '\n']) := by simp
      rw [Text.lines, hfirst, hpieces, List.map_cons, List.append_assoc, ← Text.lines, ih hts]
      exact congrArg (· :: ts) (withoutLineEnd_returnFeed ht)

/-- **The contents of every text can be crossed out.** -/
theorem exists_forall₂_blankedTo (text : List Char) : ∃ text',
    List.Forall₂ (LexedLine.BlankedTo fun _ _ => True) (lex text) (Text.lines text') := by
  have hlines (ls : List LexedLine) (hls : ∀ l ∈ ls, '\n' ∉ l.line.text) : ∃ ts : List (List Char),
      (∀ t ∈ ts, '\n' ∉ t) ∧ List.Forall₂ (LexedLine.BlankedTo fun _ _ => True) ls ts := by
    induction ls with
    | nil => exact ⟨[], by simp, .nil⟩
    | cons l ls ih =>
        obtain ⟨hl, hls⟩ := List.forall_mem_cons.1 hls
        obtain ⟨t, ht, hblanked⟩ := LexedLine.exists_blankedTo hl
        obtain ⟨ts, hts, hrest⟩ := ih hls
        exact ⟨t :: ts, List.forall_mem_cons.2 ⟨ht, hts⟩, .cons hblanked hrest⟩
  obtain ⟨ts, hts, hblanked⟩ := hlines (lex text) fun l hl =>
    newline_not_mem_of_mem_lines (text_mem_of_mem_numberedFrom (scan_of_mem_lexFrom hl).1)
  exact ⟨_, by rwa [lines_flatMap_returnFeed hts]⟩

end QualityGate
