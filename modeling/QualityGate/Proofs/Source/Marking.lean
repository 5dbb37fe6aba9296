import QualityGate.Proofs.Source.Element
import Mathlib.Tactic

/-!
Marking a whole text from left to right. `marksFrom` reads a text of any number of lines and says of
each character what it belongs to. It is the link between elements, which extend over lines, and
scans, which are made line by line.

* `marksFrom_render`: on the text of well-formed elements it gives back their marks.
* `ofLine_eq_scanOf`: the scan of a line is the one that the marks of the line give.
* `marksFrom_line`: what is marked on a line does not depend on what follows the line, and what
  follows starts in the state after the line.
-/

namespace QualityGate

/-- The character does not end a line. -/
abbrev inLine (c : Char) : Bool := c != '\n'

/-- The characters of a text with what they belong to, when the text starts in the given state. Line
comments and literals end with their line. -/
def marksFrom : LexState → List Char → List Mark
  | _, [] => []
  | .blockComment, '*' :: '/' :: rest =>
    ⟨'*', .blockComment false⟩ :: ⟨'/', .blockComment true⟩ :: marksFrom .code rest
  | .blockComment, c :: rest => ⟨c, .blockComment false⟩ :: marksFrom .blockComment rest
  | .textBlock, '\\' :: c :: rest =>
    ⟨'\\', .textBlock false⟩ :: ⟨c, .textBlock false⟩ :: marksFrom .textBlock rest
  | .textBlock, '"' :: '"' :: '"' :: rest => closingQuotes ++ marksFrom .code rest
  | .textBlock, c :: rest => ⟨c, .textBlock false⟩ :: marksFrom .textBlock rest
  | .code, '/' :: '/' :: rest =>
    marked .lineComment ('/' :: '/' :: rest.takeWhile inLine) ++
      marksFrom .code (rest.dropWhile inLine)
  | .code, '/' :: '*' :: rest =>
    marked (.blockComment false) ['/', '*'] ++ marksFrom .blockComment rest
  | .code, '"' :: '"' :: '"' :: rest =>
    marked (.textBlock false) tripleQuote ++ marksFrom .textBlock rest
  | .code, c :: rest =>
    if c = '"' ∨ c = '\'' then
      marked .literal (c :: (splitLiteral c (rest.takeWhile inLine)).1) ++
        marksFrom .code
          ((splitLiteral c (rest.takeWhile inLine)).2 ++ rest.dropWhile inLine)
    else ⟨c, .code⟩ :: marksFrom .code rest
  termination_by _ s => s.length
  decreasing_by
    all_goals simp_wf
    all_goals first
      | omega
      | (have h := (List.dropWhile_sublist inLine (l := rest)).length_le; omega)
      | (have h := splitLiteral_length_le c (rest.takeWhile inLine)
         have hsplit := congrArg List.length
           (List.takeWhile_append_dropWhile (p := inLine) (l := rest))
         rw [List.length_append] at hsplit
         omega)

/-! ### Elements -/

/-- A block comment goes on up to the next closing mark. -/
lemma marksFrom_blockComment_closed {body : List Char} (hbody : ¬ ['*', '/'] <:+: body)
    (rest : List Char) :
    marksFrom .blockComment (body ++ '*' :: '/' :: rest) =
      marked (.blockComment false) body ++
        ⟨'*', .blockComment false⟩ :: ⟨'/', .blockComment true⟩ :: marksFrom .code rest := by
  induction body with
  | nil => rw [List.nil_append, marksFrom]; rfl
  | cons c body ih =>
      have hopen : ∀ u, c = '*' → body ++ '*' :: '/' :: rest = '/' :: u → False := by
        rintro u rfl h
        cases body with
        | nil => simp at h
        | cons d body =>
            rw [List.cons_append, List.cons.injEq] at h
            exact hbody ⟨[], body, by simp [h.1]⟩
      have ih := ih fun h => hbody (h.trans (List.infix_cons_iff.2 (.inr List.infix_rfl)))
      rw [List.cons_append, marksFrom.eq_3 _ _ hopen, ih]
      rfl

/-- A block comment without a closing mark goes on up to the end of the text. -/
lemma marksFrom_blockComment_unclosed {body : List Char} (hbody : ¬ ['*', '/'] <:+: body) :
    marksFrom .blockComment body = marked (.blockComment false) body := by
  induction body with
  | nil => rw [marksFrom]; rfl
  | cons c body ih =>
      have hopen : ∀ u, c = '*' → body = '/' :: u → False := by
        rintro u rfl rfl
        exact hbody ⟨[], u, rfl⟩
      have ih := ih fun h => hbody (h.trans (List.infix_cons_iff.2 (.inr List.infix_rfl)))
      rw [marksFrom.eq_3 _ _ hopen, ih]
      rfl

/-- A character that is neither a backslash at the end nor one in front of another character is no
backslash. -/
lemma ne_backslash_of_cases {c : Char} {rest : List Char}
    (hsingle : c = '\\' → rest = [] → False)
    (hescape : ∀ d u, c = '\\' → rest = d :: u → False) : c ≠ '\\' := by
  intro hc
  cases rest with
  | nil => exact hsingle hc rfl
  | cons d rest => exact hescape d rest hc rfl

/-- The pieces of a literal belong to it, and what follows them decides where it ends. -/
lemma splitLiteral_piecesText_append {quote : Char} {body : List Piece}
    (hbody : ∀ c, .char c ∈ body → c ≠ quote ∧ c ≠ '\\') (tail : List Char) :
    splitLiteral quote (piecesText body ++ tail) =
      (piecesText body ++ (splitLiteral quote tail).1, (splitLiteral quote tail).2) := by
  induction body with
  | nil => simp
  | cons p body ih =>
      have ih := ih fun c hc => hbody c (List.mem_cons_of_mem p hc)
      cases p with
      | char c =>
          obtain ⟨hc, hb⟩ := hbody c List.mem_cons_self
          rw [piecesText_char, List.cons_append, splitLiteral.eq_4, ih, if_neg hc]
          · rfl
          · rintro h -; exact hb h
          · rintro d r h; exact absurd h hb
      | escape c =>
          rw [piecesText_escape, List.cons_append, List.cons_append, splitLiteral, ih]
          rfl

/-- The end of a literal belongs to it: its closing quote, or what there is of it at the end of the
line. -/
lemma splitLiteral_ending {quote : Char} (hquote : quote ≠ '\\') (ending : Ending)
    {rest : List Char} (hrest : ending ≠ .closed → rest = []) :
    splitLiteral quote (ending.text [quote] ++ rest) = (ending.text [quote], rest) := by
  cases ending with
  | closed =>
      rw [Ending.text, List.singleton_append, splitLiteral.eq_4, if_pos rfl]
      · rintro h -; exact hquote h
      · rintro c r h; exact absurd h hquote
  | unclosed => rw [hrest (by simp)]; rfl
  | backslash => rw [hrest (by simp)]; rfl

/-- The pieces of a text block belong to it, and what follows them decides where it ends. -/
lemma marksFrom_piecesText_append {body : List Piece} {tail : List Char}
    (hbody : ∀ p ∈ body, p.InTextBlock) (hquote : NoTripleQuote tail body) :
    marksFrom .textBlock (piecesText body ++ tail) =
      marked (.textBlock false) (piecesText body) ++ marksFrom .textBlock tail := by
  induction body with
  | nil => rfl
  | cons p body ih =>
      have hp := hbody p List.mem_cons_self
      have ih := ih (fun q hq => hbody q (List.mem_cons_of_mem p hq)) hquote.2
      cases p with
      | char c =>
          rw [piecesText_char, List.cons_append, marksFrom.eq_6, ih]
          · rfl
          · rintro d r h; exact absurd h hp
          · rintro r rfl h
            refine absurd ?_ hquote.1
            rw [Piece.text, List.singleton_append, h]
            exact ⟨r, rfl⟩
      | escape c =>
          rw [piecesText_escape, List.cons_append, List.cons_append, marksFrom.eq_4, ih]
          rfl

/-- The end of a text block belongs to it: its closing mark, or what there is of it at the end of
the text. -/
lemma marksFrom_ending (ending : Ending) {rest : List Char} (hrest : ending ≠ .closed → rest = []) :
    marksFrom .textBlock (ending.text tripleQuote ++ rest) =
      ending.blockMarks ++ marksFrom .code rest := by
  cases ending with
  | closed => exact marksFrom.eq_5 rest
  | unclosed =>
      rw [hrest (by simp)]
      simp only [Ending.text, List.append_nil, marksFrom.eq_1]
      rfl
  | backslash =>
      rw [hrest (by simp), List.append_nil, Ending.text, marksFrom.eq_6, marksFrom.eq_1,
        marksFrom.eq_1]
      · rfl
      · rintro c r - h; cases h
      · rintro r h; cases h

/-- Of a line, what comes before the end of the line is all there is before a line end. -/
lemma takeWhile_inLine_append {s : List Char} (hs : '\n' ∉ s) (rest : List Char) :
    (s ++ rest).takeWhile inLine = s ++ rest.takeWhile inLine := by
  rw [List.takeWhile_append_of_pos]
  intro c hc
  simpa using fun h : c = '\n' => hs (h ▸ hc)

lemma dropWhile_inLine_append {s : List Char} (hs : '\n' ∉ s) (rest : List Char) :
    (s ++ rest).dropWhile inLine = rest.dropWhile inLine := by
  rw [List.dropWhile_append_of_pos]
  intro c hc
  simpa using fun h : c = '\n' => hs (h ▸ hc)

/-- At the end of a line nothing of it is left. -/
lemma AtLineEnd.takeWhile_inLine {rest : List Char} (h : AtLineEnd rest) :
    rest.takeWhile inLine = [] := by
  cases rest with
  | nil => rfl
  | cons c rest => rw [h c rfl]; rfl

lemma AtLineEnd.dropWhile_inLine {rest : List Char} (h : AtLineEnd rest) :
    rest.dropWhile inLine = rest := by
  cases rest with
  | nil => rfl
  | cons c rest => rw [h c rfl]; rfl

/-- A literal is on one line. -/
lemma newline_not_mem_literal {quote : Char} {body : List Piece} (hquote : quote ≠ '\n')
    (hbody : ∀ p ∈ body, p.InLiteral quote) (ending : Ending) :
    '\n' ∉ piecesText body ++ ending.text [quote] := by
  rw [List.mem_append, not_or]
  constructor
  · rw [piecesText, List.mem_flatMap]
    rintro ⟨p, hp, hmem⟩
    have hin := hbody p hp
    cases p with
    | char c => exact hin.2.2 (List.mem_singleton.1 hmem).symm
    | escape c =>
        rcases List.mem_cons.1 hmem with h | h
        · cases h
        · exact hin (List.mem_singleton.1 h).symm
  · cases ending with
    | closed => exact fun h => hquote (List.mem_singleton.1 h).symm
    | unclosed => exact List.not_mem_nil
    | backslash => exact fun h => by cases List.mem_singleton.1 h

/-- **An element is marked as a whole**, and marking goes on in plain code after it. -/
theorem marksFrom_text_append {e : Element} {rest : List Char} (h : e.Delimited rest) :
    marksFrom .code (e.text ++ rest) = e.marks ++ marksFrom .code rest := by
  cases e with
  | plain c =>
      obtain ⟨hdouble, hsingle, hslash⟩ := h
      have hnext (d : Char) (r : List Char) (hd : d = '/' ∨ d = '*') :
          c = '/' → rest = d :: r → False := by
        rintro hc rfl
        obtain ⟨h₁, h₂⟩ := hslash hc d rfl
        exact hd.elim h₁ h₂
      rw [Element.text, List.singleton_append, marksFrom.eq_10, if_neg (by simp [hdouble, hsingle])]
      · rfl
      · exact fun r => hnext '/' r (.inl rfl)
      · exact fun r => hnext '*' r (.inr rfl)
      · exact fun r hc => absurd hc hdouble
  | lineComment body =>
      obtain ⟨hbody, hrest⟩ := h
      rw [Element.text, List.cons_append, List.cons_append, marksFrom,
        takeWhile_inLine_append hbody, dropWhile_inLine_append hbody, hrest.takeWhile_inLine,
        hrest.dropWhile_inLine, List.append_nil]
      rfl
  | blockComment body closed =>
      obtain ⟨hbody, hrest⟩ := h
      cases closed with
      | true =>
          have hblock := marksFrom_blockComment_closed hbody rest
          simp only [Element.text, Element.marks, if_true, List.cons_append, List.append_assoc,
            List.nil_append, marksFrom.eq_8, hblock]
          rfl
      | false =>
          have hblock := marksFrom_blockComment_unclosed hbody
          rw [hrest rfl]
          simp only [Element.text, Element.marks, Bool.false_eq_true, if_false, List.append_nil,
            marksFrom.eq_8, hblock, marksFrom.eq_1]
          rfl
  | literal quote body ending =>
      obtain ⟨hquote, hbody, hrest, htriple⟩ := h
      have hnewline : quote ≠ '\n' := by rcases hquote with rfl | rfl <;> decide
      have hline := newline_not_mem_literal hnewline hbody ending
      have hbackslash : quote ≠ '\\' := by rcases hquote with rfl | rfl <;> decide
      have hslash : quote ≠ '/' := by rcases hquote with rfl | rfl <;> decide
      have hchars (c : Char) (hc : .char c ∈ body) : c ≠ quote ∧ c ≠ '\\' :=
        ⟨(hbody (.char c) hc).1, (hbody (.char c) hc).2.1⟩
      have hsplit := splitLiteral_ending hbackslash ending
        fun hne => (hrest hne).takeWhile_inLine
      rw [Element.text, List.cons_append, List.cons_append, marksFrom.eq_10, if_pos hquote,
        takeWhile_inLine_append hline, dropWhile_inLine_append hline, List.append_assoc,
        splitLiteral_piecesText_append hchars, hsplit, List.takeWhile_append_dropWhile]
      · rfl
      · rintro r h; exact absurd h hslash
      · rintro r h; exact absurd h hslash
      · rintro r rfl h
        refine htriple ⟨r, ?_⟩
        rw [← List.append_assoc, h]
        rfl
  | textBlock body ending =>
      obtain ⟨hbody, htriple, hrest⟩ := h
      have hpieces := marksFrom_piecesText_append hbody htriple
      have htext : (Element.textBlock body ending).text ++ rest =
          '"' :: '"' :: '"' :: (piecesText body ++ (ending.text tripleQuote ++ rest)) := by
        simp [Element.text, tripleQuote]
      rw [htext, marksFrom.eq_9, hpieces, marksFrom_ending ending hrest, Element.marks,
        marked_append]
      simp only [List.append_assoc]

/-- **The marks of well-formed elements** are those of their text. -/
theorem marksFrom_render {es : List Element} (h : WellFormed es) :
    marksFrom .code (render es) = marks es := by
  induction es with
  | nil => rw [render, List.flatMap_nil, marksFrom]; rfl
  | cons e es ih =>
      obtain ⟨he, hes⟩ := h
      have hrender : render (e :: es) = e.text ++ render es := rfl
      rw [hrender, marksFrom_text_append he, ih hes]
      rfl

/-! ### Scans of lines -/

lemma scanOf_nil (s : LexState) : scanOf s [] = Scan.empty s := rfl

/-- A scan of characters and of those that follow them. -/
lemma scanOf_append (s : LexState) (ms ns : List Mark) :
    scanOf s (ms ++ ns) =
      { opens := (scanOf s ms).opens + (scanOf (stateAfter s ms) ns).opens
        closes := (scanOf s ms).closes + (scanOf (stateAfter s ms) ns).closes
        parenDelta := (scanOf s ms).parenDelta + (scanOf (stateAfter s ms) ns).parenDelta
        exit := (scanOf (stateAfter s ms) ns).exit
        code := (scanOf s ms).code ++ (scanOf (stateAfter s ms) ns).code } := by
  have hplain : plainChars (ms ++ ns) = plainChars ms ++ plainChars ns := by simp [plainChars]
  simp only [scanOf, hplain, List.count_append, stateAfter_append, List.flatMap_append,
    Scan.mk.injEq, true_and, and_true]
  push_cast
  omega

/-- A character of plain code is counted and kept. -/
lemma scanOf_code_cons (s : LexState) (c : Char) (ms : List Mark) :
    scanOf s (⟨c, .code⟩ :: ms) = (scanOf .code ms).count c := by
  have hplain : plainChars (⟨c, .code⟩ :: ms) = c :: plainChars ms := rfl
  simp only [scanOf, Scan.count, hplain, List.count_cons, stateAfter_cons, beq_iff_eq,
    List.flatMap_cons, Scan.mk.injEq, true_and]
  refine ⟨?_, rfl, rfl⟩
  push_cast
  omega

/-- A character of anything else is not counted. -/
lemma scanOf_cons {m : Mark} (hm : m.region ≠ .code) (s : LexState) (ms : List Mark) :
    scanOf s (m :: ms) = (scanOf m.region.after ms).keep m.kept := by
  have hplain : plainChars (m :: ms) = plainChars ms := by simp [plainChars, hm]
  simp [scanOf, Scan.keep, hplain]

/-- Line comments are dropped. -/
lemma scanOf_lineComment (c : Char) (t : List Char) (s : LexState) (ms : List Mark) :
    scanOf s (marked .lineComment (c :: t) ++ ms) = scanOf .code ms := by
  induction t generalizing s c with
  | nil => exact scanOf_cons (by simp) s ms
  | cons d t ih =>
      rw [marked, List.map_cons, ← marked, List.cons_append, scanOf_cons (by simp), ih]
      rfl

/-- Literals are kept. -/
lemma scanOf_literal (c : Char) (t : List Char) (s : LexState) (ms : List Mark) :
    scanOf s (marked .literal (c :: t) ++ ms) = (scanOf .code ms).keep (c :: t) := by
  induction t generalizing s c with
  | nil => exact scanOf_cons (by simp) s ms
  | cons d t ih =>
      rw [marked, List.map_cons, ← marked, List.cons_append, scanOf_cons (by simp), ih]
      rfl

/-- On a line, the end of the line does not come before the end of the text. -/
lemma takeWhile_inLine_of_not_mem {t : List Char} (ht : '\n' ∉ t) : t.takeWhile inLine = t := by
  simpa using takeWhile_inLine_append ht []

lemma dropWhile_inLine_of_not_mem {t : List Char} (ht : '\n' ∉ t) : t.dropWhile inLine = [] := by
  simpa using dropWhile_inLine_append ht []

/-- **The scan of a line** is the one that its marks give. -/
theorem ofLine_eq_scanOf (s : LexState) {t : List Char} (ht : '\n' ∉ t) :
    Scan.ofLine s t = scanOf s (marksFrom s t) := by
  fun_induction Scan.ofLine s t with
  | case1 s => rw [marksFrom.eq_1, scanOf_nil]
  | case2 rest ih =>
      rw [marksFrom.eq_2, ih (by simp_all), scanOf_cons (by simp), scanOf_cons (by simp)]
      rfl
  | case3 c rest hclose ih =>
      rw [marksFrom.eq_3 _ _ hclose, ih (by simp_all), scanOf_cons (by simp)]
      rfl
  | case4 c rest ih =>
      rw [marksFrom.eq_4, ih (by simp_all), scanOf_cons (by simp), scanOf_cons (by simp)]
      rfl
  | case5 rest ih =>
      rw [marksFrom.eq_5, ih (by simp_all), closingQuotes, List.cons_append, List.cons_append,
        List.cons_append, scanOf_cons (by simp), scanOf_cons (by simp), scanOf_cons (by simp)]
      rfl
  | case6 c rest hescape hclose ih =>
      rw [marksFrom.eq_6 _ _ hescape hclose, ih (by simp_all), scanOf_cons (by simp)]
      rfl
  | case7 rest =>
      have hrest : '\n' ∉ rest := by simp_all
      rw [marksFrom.eq_7, scanOf_lineComment, dropWhile_inLine_of_not_mem hrest, marksFrom.eq_1,
        scanOf_nil]
  | case8 rest ih =>
      have hopen : marked (.blockComment false) ['/', '*'] =
          [⟨'/', .blockComment false⟩, ⟨'*', .blockComment false⟩] := rfl
      rw [marksFrom.eq_8, ih (by simp_all), hopen, List.cons_append, List.singleton_append,
        scanOf_cons (by simp), scanOf_cons (by simp)]
      rfl
  | case9 rest ih =>
      have hopen : marked (.textBlock false) tripleQuote =
          [⟨'"', .textBlock false⟩, ⟨'"', .textBlock false⟩, ⟨'"', .textBlock false⟩] := rfl
      rw [marksFrom.eq_9, ih (by simp_all), hopen, List.cons_append, List.cons_append,
        List.singleton_append, scanOf_cons (by simp), scanOf_cons (by simp), scanOf_cons (by simp)]
      rfl
  | case10 c rest hline hblock htext hquote ih =>
      have hrest : '\n' ∉ rest := by simp_all
      have hafter : '\n' ∉ (splitLiteral c rest).2 := by
        intro hmem
        refine hrest ?_
        rw [← splitLiteral_append c rest]
        exact List.mem_append_right _ hmem
      rw [marksFrom.eq_10 _ _ hline hblock htext, if_pos hquote, takeWhile_inLine_of_not_mem hrest,
        dropWhile_inLine_of_not_mem hrest, List.append_nil, scanOf_literal, ih hafter]
  | case11 c rest hline hblock htext hquote ih =>
      rw [marksFrom.eq_10 _ _ hline hblock htext, if_neg hquote, scanOf_code_cons, ih (by simp_all)]

/-! ### Line by line -/

/-- A line feed, or a carriage return right before the end of the line. -/
def EndsLine (d : Char) (tail : List Char) : Prop := d = '\n' ∨ d = '\r' ∧ AtLineEnd tail

/-- The character starts or ends nothing, alone or together with others. -/
def Neutral (d : Char) : Prop := d ∉ ['/', '*', '"', '\'', '\\']

lemma Neutral.ne {c d : Char} (hd : Neutral d) (hc : c ∈ ['/', '*', '"', '\'', '\\']) : c ≠ d :=
  fun h => hd (h ▸ hc)

lemma EndsLine.neutral {d : Char} {tail : List Char} (h : EndsLine d tail) : Neutral d := by
  rcases h with rfl | ⟨rfl, -⟩ <;> simp [Neutral]

/-- What a neutral character belongs to. -/
def LexState.region : LexState → Region
  | code => .code
  | blockComment => .blockComment false
  | textBlock => .textBlock false

@[simp] lemma LexState.after_region (s : LexState) : s.region.after = s := by cases s <;> rfl

/-- A neutral character does not change the state. -/
lemma marksFrom_neutral (s : LexState) {d : Char} (hd : Neutral d) (tail : List Char) :
    marksFrom s (d :: tail) = ⟨d, s.region⟩ :: marksFrom s tail := by
  have hslash : d ≠ '/' := (hd.ne (by simp)).symm
  have hdouble : d ≠ '"' := (hd.ne (by simp)).symm
  cases s with
  | code =>
      refine (marksFrom.eq_10 _ _ ?_ ?_ ?_).trans (if_neg ?_)
      · exact fun _ h => absurd h hslash
      · exact fun _ h => absurd h hslash
      · exact fun _ h => absurd h hdouble
      · exact not_or.2 ⟨hdouble, (hd.ne (by simp)).symm⟩
  | blockComment => exact marksFrom.eq_3 _ _ fun _ h => absurd h (hd.ne (by simp)).symm
  | textBlock =>
      refine marksFrom.eq_6 _ _ ?_ ?_
      · exact fun _ _ h => absurd h (hd.ne (by simp)).symm
      · exact fun _ h => absurd h hdouble

/-- A mark that is there with a neutral character and what follows it is there without them. -/
lemma exists_of_append_eq_cons {line tail u : List Char} {c d : Char} (hc : c ≠ d)
    (h : line ++ d :: tail = c :: u) : ∃ v, line = c :: v ∧ v ++ d :: tail = u := by
  cases line with
  | nil => exact absurd (List.cons.inj h).1.symm hc
  | cons b v =>
      obtain ⟨rfl, hv⟩ := List.cons.inj h
      exact ⟨v, rfl, hv⟩

/-- A literal in which its quote does not come again goes on to the end. -/
lemma splitLiteral_of_not_mem {quote : Char} {w : List Char} (hw : quote ∉ w) :
    splitLiteral quote w = (w, []) := by
  fun_induction splitLiteral quote w with
  | case1 | case2 => rfl
  | case3 c rest inside after hsplit ih =>
      have hrest : quote ∉ rest := fun h => hw (by simp [h])
      obtain ⟨rfl, rfl⟩ := Prod.mk.inj (hsplit.symm.trans (ih hrest))
      rfl
  | case4 rest => exact absurd List.mem_cons_self hw
  | case5 c rest hend hescape hc inside after hsplit ih =>
      have hrest : quote ∉ rest := fun h => hw (List.mem_cons_of_mem c h)
      obtain ⟨rfl, rfl⟩ := Prod.mk.inj (hsplit.symm.trans (ih hrest))
      rfl

/-- What is put behind a text belongs to the literal that the text starts in, unless the literal
ends before it. -/
lemma splitLiteral_append_of_not_mem {quote : Char} {w : List Char} (hw : quote ∉ w)
    (s : List Char) :
    splitLiteral quote (s ++ w) =
        ((splitLiteral quote s).1, (splitLiteral quote s).2 ++ w) ∨
      (splitLiteral quote s).2 = [] ∧
        splitLiteral quote (s ++ w) = ((splitLiteral quote s).1 ++ w, []) := by
  fun_induction splitLiteral quote s with
  | case1 => exact .inr ⟨rfl, splitLiteral_of_not_mem hw⟩
  | case2 =>
      refine .inr ⟨rfl, ?_⟩
      cases w with
      | nil => rfl
      | cons c w =>
          have hrest : quote ∉ w := fun h => hw (List.mem_cons_of_mem c h)
          rw [List.singleton_append, splitLiteral, splitLiteral_of_not_mem hrest]
  | case3 c rest inside after hsplit ih =>
      rw [hsplit] at ih
      simp only [List.cons_append, splitLiteral]
      rcases ih with ih | ⟨hnil, ih⟩
      · exact .inl (by rw [ih])
      · exact .inr ⟨hnil, by rw [ih]⟩
  | case4 rest hend hescape =>
      have hbackslash := ne_backslash_of_cases hend hescape
      refine .inl ?_
      rw [List.cons_append, splitLiteral.eq_4, if_pos rfl]
      · exact fun h _ => hbackslash h
      · exact fun _ _ h _ => hbackslash h
  | case5 c rest hend hescape hc inside after hsplit ih =>
      have hbackslash := ne_backslash_of_cases hend hescape
      have hstep : splitLiteral quote (c :: rest ++ w) =
          (c :: (splitLiteral quote (rest ++ w)).1, (splitLiteral quote (rest ++ w)).2) := by
        rw [List.cons_append, splitLiteral.eq_4, if_neg hc]
        · exact fun h _ => hbackslash h
        · exact fun _ _ h _ => hbackslash h
      rw [hsplit] at ih
      rw [hstep]
      rcases ih with ih | ⟨hnil, ih⟩
      · exact .inl (by rw [ih])
      · exact .inr ⟨hnil, by rw [ih]; rfl⟩

/-- Plain code, seen from its first character: no comment and no text block starts there. -/
def StartsCode (c : Char) (rest : List Char) : Prop :=
  (∀ u, c = '/' → rest = '/' :: u → False) ∧ (∀ u, c = '/' → rest = '*' :: u → False) ∧
    ∀ u, c = '"' → rest = '"' :: '"' :: u → False

/-- No comment and no text block starts where a neutral character is added. -/
lemma StartsCode.append {c d : Char} {line : List Char} (h : StartsCode c line) (hd : Neutral d)
    (tail : List Char) : StartsCode c (line ++ d :: tail) := by
  refine ⟨fun u hc hu => ?_, fun u hc hu => ?_, fun u hc hu => ?_⟩
  · obtain ⟨v, hv, -⟩ := exists_of_append_eq_cons (hd.ne (by simp)) hu
    exact h.1 v hc hv
  · obtain ⟨v, hv, -⟩ := exists_of_append_eq_cons (hd.ne (by simp)) hu
    exact h.2.1 v hc hv
  · obtain ⟨v, rfl, hv⟩ := exists_of_append_eq_cons (hd.ne (by simp)) hu
    obtain ⟨w, rfl, -⟩ := exists_of_append_eq_cons (hd.ne (by simp)) hv
    exact h.2.2 w hc rfl

/-- Marks are those of a line that starts in the given state, then one for the character that ends
the line, and then those of what follows in the state after the line. -/
def CarriesOver (s : LexState) (line : List Mark) (d : Char) (tail : List Char)
    (whole : List Mark) : Prop :=
  ∃ r : Region, r.after = stateAfter s line ∧
    whole = line ++ ⟨d, r⟩ :: marksFrom (stateAfter s line) tail

/-- The state carries over when more of the line is put before it. -/
lemma CarriesOver.append {s : LexState} (pre : List Mark) {line whole : List Mark} {d : Char}
    {tail : List Char} (h : CarriesOver (stateAfter s pre) line d tail whole) :
    CarriesOver s (pre ++ line) d tail (pre ++ whole) := by
  obtain ⟨r, hr, hwhole⟩ := h
  refine ⟨r, by rw [hr, stateAfter_append], ?_⟩
  rw [hwhole, stateAfter_append, List.append_assoc]

/-- The carriage return at the end of a line is on the line. -/
lemma takeWhile_inLine_return {line tail : List Char} (hline : '\n' ∉ line)
    (htail : AtLineEnd tail) : (line ++ '\r' :: tail).takeWhile inLine = line ++ ['\r'] := by
  rw [takeWhile_inLine_append hline, List.takeWhile_cons_of_pos rfl, htail.takeWhile_inLine]

lemma dropWhile_inLine_return {line tail : List Char} (hline : '\n' ∉ line)
    (htail : AtLineEnd tail) : (line ++ '\r' :: tail).dropWhile inLine = tail := by
  rw [dropWhile_inLine_append hline, List.dropWhile_cons_of_pos rfl, htail.dropWhile_inLine]

/-- The character that ends a line belongs to a line comment before it, or stands after it. -/
lemma carriesOver_lineComment {line : List Char} (hline : '\n' ∉ line) {d : Char}
    {tail : List Char} (hd : EndsLine d tail) :
    CarriesOver .code (marked .lineComment ('/' :: '/' :: line)) d tail
      (marksFrom .code ('/' :: '/' :: (line ++ d :: tail))) := by
  rw [marksFrom.eq_7]
  rcases hd with rfl | ⟨rfl, htail⟩
  · refine ⟨.code, by rw [stateAfter_marked_cons]; rfl, ?_⟩
    rw [takeWhile_inLine_append hline, dropWhile_inLine_append hline,
      List.takeWhile_cons_of_neg (by simp), List.dropWhile_cons_of_neg (by simp), List.append_nil,
      marksFrom_neutral _ (by simp [Neutral]), stateAfter_marked_cons]
    rfl
  · refine ⟨.lineComment, (stateAfter_marked_cons _ _ _ _).symm, ?_⟩
    rw [takeWhile_inLine_return hline htail, dropWhile_inLine_return hline htail,
      ← List.cons_append, ← List.cons_append, marked_append, List.append_assoc,
      stateAfter_marked_cons]
    rfl

/-- The character that ends a line belongs to a literal that is not closed before it, or stands
after what follows the literal. -/
lemma carriesOver_literal {quote : Char} (hquote : quote = '"' ∨ quote = '\'') {line : List Char}
    (hline : '\n' ∉ line) {d : Char} {tail : List Char} (hd : EndsLine d tail)
    (hafter : CarriesOver .code (marksFrom .code (splitLiteral quote line).2) d tail
      (marksFrom .code ((splitLiteral quote line).2 ++ d :: tail))) :
    CarriesOver .code
      (marked .literal (quote :: (splitLiteral quote line).1) ++
        marksFrom .code (splitLiteral quote line).2) d tail
      (marked .literal (quote :: (splitLiteral quote ((line ++ d :: tail).takeWhile inLine)).1) ++
        marksFrom .code ((splitLiteral quote ((line ++ d :: tail).takeWhile inLine)).2 ++
          (line ++ d :: tail).dropWhile inLine)) := by
  rcases hd with rfl | ⟨rfl, htail⟩
  · rw [takeWhile_inLine_append hline, dropWhile_inLine_append hline,
      List.takeWhile_cons_of_neg (by simp), List.dropWhile_cons_of_neg (by simp), List.append_nil]
    exact CarriesOver.append _ (by rwa [stateAfter_marked_cons])
  · have hreturn : quote ∉ ['\r'] := by rcases hquote with rfl | rfl <;> decide
    rw [takeWhile_inLine_return hline htail, dropWhile_inLine_return hline htail]
    rcases splitLiteral_append_of_not_mem hreturn line with h | ⟨hnil, h⟩
    · rw [h, List.append_assoc]
      exact CarriesOver.append _ (by rwa [stateAfter_marked_cons])
    · refine ⟨.literal, ?_, ?_⟩
      · rw [hnil, marksFrom.eq_1, List.append_nil]
        exact (stateAfter_marked_cons _ _ _ _).symm
      · rw [h, hnil, marksFrom.eq_1, List.append_nil, ← List.cons_append, marked_append,
          stateAfter_marked_cons, List.append_assoc]
        rfl

/-- **What is marked on a line** depends only on the state in which the line starts, and what
follows the line starts in the state after it. -/
theorem marksFrom_line (s : LexState) {line : List Char} (hline : '\n' ∉ line) {d : Char}
    {tail : List Char} (hd : EndsLine d tail) :
    CarriesOver s (marksFrom s line) d tail (marksFrom s (line ++ d :: tail)) := by
  have hneutral := hd.neutral
  fun_induction marksFrom s line with
  | case1 s => exact ⟨s.region, s.after_region, marksFrom_neutral s hneutral tail⟩
  | case2 line ih =>
      rw [List.cons_append, List.cons_append, marksFrom.eq_2]
      exact CarriesOver.append [_, _] (ih (by simp_all))
  | case3 c line hclose ih =>
      have hclose' (u : List Char) (hc : c = '*') (h : line ++ d :: tail = '/' :: u) : False := by
        obtain ⟨v, hv, -⟩ := exists_of_append_eq_cons (hneutral.ne (by simp)) h
        exact hclose v hc hv
      rw [List.cons_append, marksFrom.eq_3 _ _ hclose']
      exact CarriesOver.append [_] (ih (by simp_all))
  | case4 c line ih =>
      rw [List.cons_append, List.cons_append, marksFrom.eq_4]
      exact CarriesOver.append [_, _] (ih (by simp_all))
  | case5 line ih =>
      rw [List.cons_append, List.cons_append, List.cons_append, marksFrom.eq_5]
      exact CarriesOver.append closingQuotes (ih (by simp_all))
  | case6 c line hescape hclose ih =>
      by_cases hend : c = '\\' ∧ line = []
      -- A backslash at the end of the line takes the character along that ends it.
      · obtain ⟨rfl, rfl⟩ := hend
        rw [List.singleton_append, marksFrom.eq_4, marksFrom.eq_1]
        exact ⟨.textBlock false, rfl, rfl⟩
      · have hescape' (e : Char) (u : List Char) (hc : c = '\\') (h : line ++ d :: tail = e :: u) :
            False := by
          cases line with
          | nil => exact hend ⟨hc, rfl⟩
          | cons b line => exact hescape b line hc rfl
        have hclose' (u : List Char) (hc : c = '"') (h : line ++ d :: tail = '"' :: '"' :: u) :
            False := by
          obtain ⟨v, rfl, hv⟩ := exists_of_append_eq_cons (hneutral.ne (by simp)) h
          obtain ⟨w, rfl, -⟩ := exists_of_append_eq_cons (hneutral.ne (by simp)) hv
          exact hclose w hc rfl
        rw [List.cons_append, marksFrom.eq_6 _ _ hescape' hclose']
        exact CarriesOver.append [_] (ih (by simp_all))
  | case7 line ih =>
      have hrest : '\n' ∉ line := by simp_all
      rw [takeWhile_inLine_of_not_mem hrest, dropWhile_inLine_of_not_mem hrest, marksFrom.eq_1,
        List.append_nil]
      exact carriesOver_lineComment hrest hd
  | case8 line ih =>
      rw [List.cons_append, List.cons_append, marksFrom.eq_8]
      exact CarriesOver.append _ (ih (by simp_all))
  | case9 line ih =>
      rw [List.cons_append, List.cons_append, List.cons_append, marksFrom.eq_9]
      exact CarriesOver.append _ (ih (by simp_all))
  | case10 c line hcomment hblock htext hquote ih =>
      have hrest : '\n' ∉ line := by simp_all
      have hstart := StartsCode.append ⟨hcomment, hblock, htext⟩ hneutral tail
      have hafter : '\n' ∉ (splitLiteral c line).2 := fun hmem =>
        hrest (splitLiteral_append c line ▸ List.mem_append_right _ hmem)
      rw [takeWhile_inLine_of_not_mem hrest, dropWhile_inLine_of_not_mem hrest,
        List.append_nil] at ih
      rw [takeWhile_inLine_of_not_mem hrest, dropWhile_inLine_of_not_mem hrest, List.append_nil,
        List.cons_append, marksFrom.eq_10 _ _ hstart.1 hstart.2.1 hstart.2.2, if_pos hquote]
      exact carriesOver_literal hquote hrest hd (ih hafter)
  | case11 c line hcomment hblock htext hquote ih =>
      have hstart := StartsCode.append ⟨hcomment, hblock, htext⟩ hneutral tail
      rw [List.cons_append, marksFrom.eq_10 _ _ hstart.1 hstart.2.1 hstart.2.2, if_neg hquote]
      exact CarriesOver.append [_] (ih (by simp_all))

/-- Marking keeps the characters of a text. -/
lemma map_char_marksFrom (s : LexState) (t : List Char) : (marksFrom s t).map Mark.char = t := by
  fun_induction marksFrom s t with
  | case1 => rfl
  | case10 c rest _ _ _ _ ih =>
      have hsplit := splitLiteral_append c (rest.takeWhile inLine)
      rw [List.map_append, map_char_marked, ih, List.cons_append, ← List.append_assoc, hsplit,
        List.takeWhile_append_dropWhile]
  | _ => simp_all [closingQuotes, tripleQuote]

end QualityGate
