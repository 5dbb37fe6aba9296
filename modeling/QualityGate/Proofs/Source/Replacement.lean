import QualityGate.Proofs.Source.Lexing
import QualityGate.Proofs.Source.Plain
import Mathlib.Tactic

/-!
Replacing elements of a text. What is kept of a text is what is kept of its elements, one by one, and
an element only cares for the first character of what follows it. So an element can be replaced on
its own, and a file can be replaced line by line as long as the lines end in the same state.

* `keptText`: the text of elements without its comments.
* `Element.Delimited.of_head`: an element stays well placed when what follows it changes.
* `forall₂_lex`: the lines of two files, of which one is the other with its lines replaced.
-/

namespace QualityGate

/-! ### What is kept of elements -/

/-- What is kept of an element. -/
def Element.kept : Element → List Char
  | plain c => [c]
  | lineComment _ => []
  | blockComment _ closed => if closed then [' '] else []
  | e@(literal _ _ _) | e@(textBlock _ _) => e.text

/-- What is kept of elements. -/
def keptText (es : List Element) : List Char := es.flatMap Element.kept

@[simp] lemma keptText_nil : keptText [] = [] := rfl

@[simp] lemma keptText_cons (e : Element) (es : List Element) :
    keptText (e :: es) = e.kept ++ keptText es := rfl

@[simp] lemma keptText_append (es fs : List Element) :
    keptText (es ++ fs) = keptText es ++ keptText fs := List.flatMap_append

@[simp] lemma render_nil : render [] = [] := rfl

@[simp] lemma render_cons (e : Element) (es : List Element) :
    render (e :: es) = e.text ++ render es := rfl

@[simp] lemma render_append (es fs : List Element) : render (es ++ fs) = render es ++ render fs :=
  List.flatMap_append

lemma flatMap_kept_marked {r : Region} (s : List Char) (hr : ∀ c, Mark.kept ⟨c, r⟩ = [c]) :
    (marked r s).flatMap Mark.kept = s := by
  simp [marked, List.flatMap_map, hr]

lemma flatMap_dropped_marked {r : Region} (s : List Char) (hr : ∀ c, Mark.kept ⟨c, r⟩ = []) :
    (marked r s).flatMap Mark.kept = [] := by
  simp [marked, List.flatMap_map, hr]

/-- What the scan keeps of the characters of an element. -/
lemma Element.flatMap_kept_marks (e : Element) : e.marks.flatMap Mark.kept = e.kept := by
  cases e with
  | plain c => rfl
  | lineComment body => exact flatMap_dropped_marked _ fun _ => rfl
  | blockComment body closed =>
      have hbody := flatMap_dropped_marked (r := .blockComment false) ('/' :: '*' :: body)
        fun _ => rfl
      cases closed <;> simp [marks, Element.kept, hbody, Mark.kept]
  | literal quote body ending => exact flatMap_kept_marked _ fun _ => rfl
  | textBlock body ending =>
      have hbody := flatMap_kept_marked (r := .textBlock false) (tripleQuote ++ piecesText body)
        fun _ => rfl
      have hend : ending.blockMarks.flatMap Mark.kept = ending.text tripleQuote := by
        cases ending <;> rfl
      rw [marks, List.flatMap_append, hbody, hend]
      rfl

/-- What the scan keeps of a text. -/
lemma flatMap_kept_marks (es : List Element) : (marks es).flatMap Mark.kept = keptText es := by
  rw [marks, keptText, List.flatMap_assoc]
  exact List.flatMap_congr fun e _ => e.flatMap_kept_marks

/-! ### Elements and what follows them -/

lemma render_eq_nil_iff {es : List Element} : render es = [] ↔ es = [] := by
  cases es with
  | nil => simp
  | cons e es =>
      have hne : e.text ≠ [] := by cases e <;> simp [Element.text, tripleQuote]
      simp [hne]

/-- On one line, the line ends only at the end of the text. -/
lemma AtLineEnd.eq_nil {s : List Char} (h : AtLineEnd s) (hs : '\n' ∉ s) : s = [] := by
  cases s with
  | nil => rfl
  | cons c s => exact absurd (h c rfl ▸ List.mem_cons_self) hs

/-- A triple quote at the start of a text does not go on for more than one character after two. -/
lemma tripleQuote_prefix_append {u s t : List Char} (h : tripleQuote <+: u ++ t)
    (hu : 2 ≤ u.length) (hhead : t.head? = some '"' → s.head? = some '"') :
    tripleQuote <+: u ++ s := by
  obtain ⟨v, hv⟩ := h
  rcases u with _ | ⟨a, _ | ⟨b, _ | ⟨c, u⟩⟩⟩
  · simp at hu
  · simp at hu
  · cases hv
    obtain ⟨rest, rfl⟩ := List.head?_eq_some_iff.1 (hhead rfl)
    exact ⟨rest, rfl⟩
  · cases hv
    exact ⟨u ++ s, rfl⟩

/-- A triple quote at the start of a text with one character in front ends after it. -/
lemma head?_of_tripleQuote_prefix {u t : List Char} (h : tripleQuote <+: u ++ t)
    (hu : ¬ tripleQuote <+: u) : t.head? = some '"' := by
  obtain ⟨v, hv⟩ := h
  rcases u with _ | ⟨a, _ | ⟨b, _ | ⟨c, u⟩⟩⟩
  · cases hv; rfl
  · cases hv; rfl
  · cases hv; rfl
  · cases hv
    exact absurd ⟨u, rfl⟩ hu

/-- A triple quote after pieces that a triple quote follows lies before the end of that one. -/
lemma NoTripleQuote.of_tripleQuote {s : List Char} {body : List Piece}
    (h : NoTripleQuote (tripleQuote ++ s) body) (t : List Char) :
    NoTripleQuote (tripleQuote ++ t) body := by
  induction body with
  | nil => trivial
  | cons p body ih =>
      refine ⟨fun hprefix => h.1 ?_, ih h.2⟩
      rw [← List.append_assoc, ← List.append_assoc] at hprefix ⊢
      have hle : tripleQuote.length ≤ ((p.text ++ piecesText body) ++ tripleQuote).length := by
        rw [List.length_append]
        omega
      exact (List.prefix_of_prefix_length_le hprefix (List.prefix_append _ _) hle).trans
        (List.prefix_append _ _)

/-- An element ends where it says also when something else follows it, if that is nothing where
there was nothing, goes on with a new line where the text did, and else starts with the same
character or with one that starts nothing. -/
lemma Element.Delimited.of_head {e : Element} {s t : List Char} (h : e.Delimited s)
    (hnil : s = [] → t = []) (hline : AtLineEnd s → AtLineEnd t)
    (hhead : ∀ c ∈ t.head?, c ∈ s.head? ∨ Neutral c) : e.Delimited t := by
  have hquote : t.head? = some '"' → s.head? = some '"' := fun ht =>
    (hhead '"' ht).resolve_right fun hneutral => hneutral (by simp)
  cases e with
  | plain c =>
      obtain ⟨hdouble, hsingle, hslash⟩ := h
      refine ⟨hdouble, hsingle, fun hc d hd => ?_⟩
      rcases hhead d hd with hmem | hneutral
      · exact hslash hc d hmem
      · exact ⟨(hneutral.ne (by simp)).symm, (hneutral.ne (by simp)).symm⟩
  | lineComment body => exact ⟨h.1, hline h.2⟩
  | blockComment body closed => exact ⟨h.1, fun hopen => hnil (h.2 hopen)⟩
  | literal quote body ending =>
      obtain ⟨hq, hbody, hend, htriple⟩ := h
      refine ⟨hq, hbody, fun hne => hline (hend hne), fun hprefix => htriple ?_⟩
      rw [← List.append_assoc, ← List.cons_append] at hprefix ⊢
      by_cases hclosed : ending = .closed
      · exact tripleQuote_prefix_append hprefix (by simp [hclosed, Ending.text]) hquote
      · -- what follows is a new line or nothing
        have hinside : tripleQuote <+: quote :: (piecesText body ++ ending.text [quote]) := by
          by_contra hinside
          have hafter := head?_of_tripleQuote_prefix hprefix hinside
          exact absurd (hline (hend hclosed) '"' hafter) (by decide)
        exact hinside.trans (List.prefix_append _ _)
  | textBlock body ending =>
      obtain ⟨hbody, htriple, hend⟩ := h
      refine ⟨hbody, ?_, fun hne => hnil (hend hne)⟩
      cases ending with
      | closed => exact htriple.of_tripleQuote t
      | unclosed | backslash => rwa [hnil (hend (by simp)), ← hend (by simp)]

/-! ### States after elements -/

lemma Element.marks_ne_nil (e : Element) : e.marks ≠ [] := by
  have hne : e.text ≠ [] := by cases e <;> simp [Element.text, tripleQuote]
  rw [← e.map_char_marks] at hne
  exact fun h => hne (by rw [h]; rfl)

/-- The state after an element does not depend on the state before it. -/
lemma Element.stateAfter_marks_eq (e : Element) (s : LexState) :
    stateAfter s e.marks = stateAfter .code e.marks := by
  obtain ⟨m, ms, hms⟩ := List.exists_cons_of_ne_nil e.marks_ne_nil
  rw [hms, stateAfter_cons, stateAfter_cons]

/-- The state after an element that starts in plain code. -/
lemma Element.stateAfter_marks (e : Element) :
    stateAfter .code e.marks = if e.isOpen then e.inside else .code := by
  have hlength := List.length_pos_iff.2 e.marks_ne_nil
  have hall := stateAfter_take_element e e.marks.length
  rw [List.take_length] at hall
  rw [hall]
  simp [hlength]

/-! ### Files line by line -/

/-- What the lines of a file and of another one have in common whose lines have been replaced: the
number and the state at the start. The text of the other line stands in the given relation to the
line, and both are scanned. -/
structure ReplacedBy (R : LexedLine → List Char → Prop) (l k : LexedLine) : Prop where
  number : k.line.number = l.line.number
  entry : k.entry = l.entry
  rel : R l k.line.text
  scan : l.scan = Scan.ofLine l.entry l.line.text
  scan' : k.scan = Scan.ofLine l.entry k.line.text
  oneLine : '\n' ∉ l.line.text
  oneLine' : '\n' ∉ k.line.text

/-- A line with the same text is the same line. -/
lemma ReplacedBy.eq_of_text {R : LexedLine → List Char → Prop} {l k : LexedLine}
    (h : ReplacedBy R l k) (htext : k.line.text = l.line.text) : k = l := by
  have hline : k.line = l.line := by
    rw [Line.mk.injEq]
    exact ⟨h.number, htext⟩
  have hscan : k.scan = l.scan := by rw [h.scan', h.scan, htext]
  rw [LexedLine.mk.injEq]
  exact ⟨hline, h.entry, hscan⟩

/-- **The lines of a file with its lines replaced**, if the new lines end in the same state as the
old ones. -/
theorem forall₂_lex {R : LexedLine → List Char → Prop}
    (hR : ∀ l k, ReplacedBy R l k → k.exit = l.exit) {text text' : List Char}
    (h : List.Forall₂ R (lex text) (Text.lines text')) :
    List.Forall₂ (ReplacedBy R) (lex text) (lex text') := by
  have hfrom (s : LexState) (n : ℕ) (ts us : List (List Char)) (hts : ∀ t ∈ ts, '\n' ∉ t)
      (hus : ∀ u ∈ us, '\n' ∉ u) (h : List.Forall₂ R (lexFrom s (numberedFrom n ts)) us) :
      List.Forall₂ (ReplacedBy R) (lexFrom s (numberedFrom n ts))
        (lexFrom s (numberedFrom n us)) := by
    induction ts generalizing s n us with
    | nil =>
        cases h
        exact .nil
    | cons t ts ih =>
        obtain ⟨ht, hts⟩ := List.forall_mem_cons.1 hts
        rw [numberedFrom, lexFrom] at h ⊢
        cases h with
        | @cons _ u _ us hl hrest =>
            obtain ⟨hu, hus⟩ := List.forall_mem_cons.1 hus
            have hrel : ReplacedBy R ⟨⟨n, t⟩, s, Scan.ofLine s t⟩ ⟨⟨n, u⟩, s, Scan.ofLine s u⟩ :=
              ⟨rfl, rfl, hl, rfl, rfl, ht, hu⟩
            have hexit : (Scan.ofLine s u).exit = (Scan.ofLine s t).exit := hR _ _ hrel
            rw [numberedFrom, lexFrom, hexit]
            exact .cons hrel (ih _ _ _ hts hus hrest)
  exact hfrom .code 1 _ _ (fun _ ht => newline_not_mem_of_mem_lines ht)
    (fun _ hu => newline_not_mem_of_mem_lines hu) h

end QualityGate
