import QualityGate.Proofs.Source.Lexing
import QualityGate.Proofs.Text.Split
import Mathlib.Data.List.DropRight
import Mathlib.Tactic

/-!
The lines of a block comment. A comment that extends over lines starts after some code on its first
line and ends before some code on its last one. What is scanned on these lines does not depend on
what the comment says, only on how many lines it has.

* `lexFrom_newline`, `marksFrom_newline`: the first line of a text, scanned and marked.
* `exists_lexFrom_append`: the lines above the line on which a part of a text starts.
* `CommentPlace`: where a block comment stands, and the lines that it has there.
* `exists_lex_comment`: **the lines of a text with a block comment**.
-/

namespace QualityGate

/-! ### The first line of a text -/

/-- A line without its line end, which is a line feed that a carriage return may come before. -/
def lineText (w : List Char) : List Char := Text.withoutLineEnd (w ++ ['\n'])

/-- A text that ends in a line end keeps what comes before two of its characters. -/
lemma withoutLineEnd_append (u : List Char) {s : List Char} (hs : 2 ≤ s.length) :
    Text.withoutLineEnd (u ++ s) = u ++ Text.withoutLineEnd s := by
  induction u with
  | nil => rfl
  | cons c u ih =>
      have hlength : 2 ≤ (u ++ s).length := by
        rw [List.length_append]
        omega
      rw [List.cons_append, Text.withoutLineEnd.eq_4, ih, List.cons_append]
      · rintro - hnil
        rw [hnil] at hlength
        simp at hlength
      · rintro - hfeed
        rw [hfeed] at hlength
        simp at hlength

/-- Only a carriage return at its end is dropped from a line. -/
lemma lineText_append (u : List Char) {c : Char} (hc : c ≠ '\r') (hc' : c ≠ '\n')
    (w : List Char) : lineText (u ++ c :: w) = u ++ c :: lineText w := by
  rw [lineText, List.append_assoc, withoutLineEnd_append u (by simp), List.cons_append,
    Text.withoutLineEnd.eq_4]
  · rfl
  · exact fun h _ => hc' h
  · exact fun h _ => hc h

/-- A line is its text, or its text and a carriage return. -/
lemma eq_lineText_or {w : List Char} (hw : '\n' ∉ w) :
    w = lineText w ∨ w = lineText w ++ ['\r'] := by
  by_cases hreturn : w.getLast? = some '\r'
  · obtain ⟨v, rfl⟩ := List.getLast?_eq_some_iff.1 hreturn
    have hv : '\n' ∉ v := fun h => hw (List.mem_append_left _ h)
    right
    rw [lineText, List.append_assoc]
    exact congrArg (· ++ ['\r']) (withoutLineEnd_returnFeed hv).symm
  · exact .inl (withoutLineEnd_feed hw hreturn).symm

/-- The text of a line has no line feed. -/
lemma newline_not_mem_lineText {w : List Char} (hw : '\n' ∉ w) : '\n' ∉ lineText w := by
  rcases eq_lineText_or hw with h | h
  · rwa [← h]
  · intro hmem
    refine hw ?_
    rw [h]
    exact List.mem_append_left _ hmem

/-- The first line of a text with a line feed. -/
lemma lines_newline {w : List Char} (hw : '\n' ∉ w) (t : List Char) :
    Text.lines (w ++ '\n' :: t) = lineText w :: Text.lines t := by
  rw [Text.lines, pieces_append_newline hw, List.map_cons]
  rfl

/-- The only line of a text without one. -/
lemma lines_of_not_mem {t : List Char} (ht : '\n' ∉ t) (hne : t ≠ []) : Text.lines t = [t] := by
  rw [Text.lines, pieces_of_not_mem ht hne, List.map_singleton, withoutLineEnd_of_not_mem ht]

/-- A carriage return at the end of a line does not change the state. -/
lemma stateAfter_marksFrom_lineText (s : LexState) {w : List Char} (hw : '\n' ∉ w) :
    stateAfter s (marksFrom s (lineText w)) = stateAfter s (marksFrom s w) := by
  rcases eq_lineText_or hw with h | h
  · rw [← h]
  · have hline := newline_not_mem_lineText hw
    have hend : EndsLine '\r' [] := .inr ⟨rfl, fun c hc => by cases hc⟩
    obtain ⟨r, hr, hmarks⟩ := marksFrom_line s hline hend
    have hw' : marksFrom s w = marksFrom s (lineText w ++ ['\r']) := by rw [← h]
    rw [hw', hmarks, stateAfter_append, stateAfter_cons, marksFrom, hr]
    rfl

/-- The first line of a text is scanned first, and what follows it from the state after it. -/
lemma lexFrom_newline (s : LexState) (n : ℕ) {w : List Char} (hw : '\n' ∉ w) (t : List Char) :
    lexFrom s (numberedFrom n (Text.lines (w ++ '\n' :: t))) =
      ⟨⟨n, lineText w⟩, s, scanOf s (marksFrom s (lineText w))⟩ ::
        lexFrom (stateAfter s (marksFrom s w)) (numberedFrom (n + 1) (Text.lines t)) := by
  rw [lines_newline hw, numberedFrom, lexFrom, ofLine_eq_scanOf s (newline_not_mem_lineText hw),
    ← stateAfter_marksFrom_lineText s hw]
  rfl

/-- The first line of a text is marked first, and what follows it from the state after it. -/
lemma marksFrom_newline (s : LexState) {w : List Char} (hw : '\n' ∉ w) (t : List Char) :
    ∃ r, marksFrom s (w ++ '\n' :: t) =
      marksFrom s w ++ ⟨'\n', r⟩ :: marksFrom (stateAfter s (marksFrom s w)) t := by
  obtain ⟨r, -, hmarks⟩ := marksFrom_line s hw (.inl rfl : EndsLine '\n' t)
  exact ⟨r, hmarks⟩

/-! ### The lines above a part of a text -/

/-- What stands on the last line of a text. -/
def lastLineOf (t : List Char) : List Char := t.rtakeWhile inLine

lemma lastLineOf_newline (w t : List Char) : lastLineOf (w ++ '\n' :: t) = lastLineOf t := by
  induction t using List.reverseRecOn with
  | nil => simp [lastLineOf]
  | append_singleton t c ih =>
      rw [← List.cons_append, ← List.append_assoc]
      simp only [lastLineOf, List.rtakeWhile_concat] at ih ⊢
      rw [ih]

lemma lastLineOf_of_not_mem {t : List Char} (ht : '\n' ∉ t) : lastLineOf t = t := by
  rw [lastLineOf, List.rtakeWhile_eq_self_iff]
  intro c hc
  simpa using fun h : c = '\n' => ht (h ▸ hc)

/-- **The lines above a part of a text** do not depend on this part, if what comes before it is
marked as the given characters whatever the part is. -/
theorem exists_lexFrom_append (front : List Char) (ms : List Mark) (s : LexState) (n : ℕ)
    (hms : ms.map Mark.char = front) :
    ∃ (above : List LexedLine) (s' : LexState) (ms' : List Mark),
      above.length = front.count '\n' ∧ ms'.map Mark.char = lastLineOf front ∧
      ∀ t, marksFrom s (front ++ t) = ms ++ marksFrom .code t →
        lexFrom s (numberedFrom n (Text.lines (front ++ t))) = above ++
            lexFrom s' (numberedFrom (n + front.count '\n') (Text.lines (lastLineOf front ++ t))) ∧
          marksFrom s' (lastLineOf front ++ t) = ms' ++ marksFrom .code t := by
  generalize hk : front.count '\n' = k
  induction k generalizing front ms s n with
  | zero =>
      have hline := lastLineOf_of_not_mem (List.count_eq_zero.1 hk)
      refine ⟨[], s, ms, rfl, by rw [hline, hms], fun t ht => ?_⟩
      rw [hline, Nat.add_zero]
      exact ⟨rfl, ht⟩
  | succ k ih =>
      have hmem : '\n' ∈ front := List.count_pos_iff.1 (by omega)
      obtain ⟨w, rest, rfl, hw⟩ := List.eq_append_cons_of_mem hmem
      have hcount : rest.count '\n' = k := by
        rw [List.count_append, List.count_cons_self, List.count_eq_zero.2 hw] at hk
        omega
      obtain ⟨above, s', ms', hlength, hchars, habove⟩ := ih rest (ms.drop (w.length + 1))
        (stateAfter s (marksFrom s w)) (n + 1) (by rw [List.map_drop, hms]; simp) hcount
      let first : LexedLine := ⟨⟨n, lineText w⟩, s, scanOf s (marksFrom s (lineText w))⟩
      refine ⟨first :: above, s', ms', by rw [List.length_cons, hlength],
        by rw [hchars, lastLineOf_newline], fun t ht => ?_⟩
      rw [List.append_assoc, List.cons_append] at ht ⊢
      -- The marks of the first line are the first of all marks; what is left are those below it.
      have hbelow : marksFrom (stateAfter s (marksFrom s w)) (rest ++ t) =
          ms.drop (w.length + 1) ++ marksFrom .code t := by
        obtain ⟨r, hmarks⟩ := marksFrom_newline s hw (rest ++ t)
        rw [ht] at hmarks
        have hdrop := congrArg (List.drop (w.length + 1)) hmarks
        have hfirst : (marksFrom s w ++ [Mark.mk '\n' r]).length = w.length + 1 := by
          rw [List.length_append, length_marksFrom, List.length_singleton]
        have hle : w.length + 1 ≤ ms.length := by
          rw [← List.length_map (f := Mark.char), hms, List.length_append, List.length_cons]
          omega
        rw [List.drop_append_of_le_length hle, ← List.singleton_append, ← List.append_assoc,
          List.drop_left' hfirst] at hdrop
        exact hdrop.symm
      obtain ⟨hlex, hmarks⟩ := habove t hbelow
      rw [lexFrom_newline s n hw, hlex, lastLineOf_newline]
      have hnumber : n + (k + 1) = n + 1 + k := by omega
      rw [hnumber]
      exact ⟨rfl, hmarks⟩

/-! ### Scans that a comment does not change -/

/-- Characters inside a block comment do not count. -/
lemma scanOf_inside_append (s : LexState) (u : List Char) (m : Mark) (ms : List Mark) :
    scanOf s (marked (.blockComment false) u ++ m :: ms) = scanOf s (m :: ms) := by
  have hstate (s s' : LexState) : scanOf s (m :: ms) = scanOf s' (m :: ms) := by simp [scanOf]
  induction u generalizing s with
  | nil => rfl
  | cons c u ih =>
      rw [marked, List.map_cons, ← marked, List.cons_append, scanOf_cons (by simp), ih]
      exact hstate .blockComment s

/-- A line inside a block comment is scanned into nothing. -/
lemma scanOf_inside (u : List Char) :
    scanOf .blockComment (marked (.blockComment false) u) = Scan.empty .blockComment := by
  induction u with
  | nil => rfl
  | cons c u ih =>
      rw [marked, List.map_cons, ← marked, scanOf_cons (by simp)]
      exact congrArg (Scan.keep []) ih

/-- On the line on which a block comment starts, what comes before it is scanned. -/
lemma scanOf_append_inside (s : LexState) (ms : List Mark) (c : Char) (u : List Char) :
    scanOf s (ms ++ marked (.blockComment false) (c :: u)) =
      { scanOf s ms with exit := .blockComment } := by
  have hinside : scanOf (stateAfter s ms) (marked (.blockComment false) (c :: u)) =
      Scan.empty .blockComment := by
    rw [marked, List.map_cons, ← marked, scanOf_cons (by simp)]
    exact congrArg (Scan.keep []) (scanOf_inside u)
  rw [scanOf_append, hinside]
  simp [Scan.empty]

/-! ### The lines of a comment -/

/-- The first part goes on up to the first separator. -/
lemma splitAt_cons {d : Char} (hd : d ≠ '\n') {t p : List Char} {ps : List (List Char)}
    (h : Text.splitAt '\n' t = p :: ps) : Text.splitAt '\n' (d :: t) = (d :: p) :: ps := by
  rw [Text.splitAt, if_neg hd, h]

/-- A character that is added to a text is added to its last part. -/
lemma splitAt_concat {c : Char} (hc : c ≠ '\n') {t : List Char} {ps : List (List Char)}
    {p : List Char} (h : Text.splitAt '\n' t = ps ++ [p]) :
    Text.splitAt '\n' (t ++ [c]) = ps ++ [p ++ [c]] := by
  induction t generalizing ps p with
  | nil =>
      obtain ⟨rfl, rfl⟩ : ps = [] ∧ p = [] := by
        cases ps with
        | nil => exact ⟨rfl, (List.singleton_inj.1 h).symm⟩
        | cons q ps =>
            have hlength := congrArg List.length h
            simp [Text.splitAt] at hlength
      exact Text.splitAt_of_not_mem (by simpa using hc.symm)
  | cons d t ih =>
      rw [List.cons_append]
      by_cases hd : d = '\n'
      · subst hd
        rw [Text.splitAt, if_pos rfl] at h ⊢
        cases ps with
        | nil => exact absurd (List.cons.inj h).2 (Text.splitAt_ne_nil _ _)
        | cons q ps =>
            obtain ⟨rfl, hrest⟩ := List.cons.inj h
            rw [ih hrest]
            rfl
      · obtain ⟨q, qs, hparts⟩ := List.exists_cons_of_ne_nil (Text.splitAt_ne_nil '\n' t)
        rw [splitAt_cons hd hparts] at h
        cases ps with
        | nil =>
            obtain ⟨rfl, rfl⟩ := List.cons.inj h
            rw [splitAt_cons hd (ih hparts : _ = [] ++ [q ++ [c]])]
            rfl
        | cons r ps =>
            obtain ⟨rfl, rfl⟩ := List.cons.inj h
            rw [splitAt_cons hd (ih hparts : _ = (q :: ps) ++ [p ++ [c]])]
            rfl

/-- The parts have no line feeds. -/
lemma newline_not_mem_of_mem_splitAt {t p : List Char} (h : p ∈ Text.splitAt '\n' t) :
    '\n' ∉ p := by
  induction t generalizing p with
  | nil =>
      obtain rfl := List.mem_singleton.1 h
      exact List.not_mem_nil
  | cons d t ih =>
      by_cases hd : d = '\n'
      · rw [Text.splitAt, if_pos hd] at h
        rcases List.mem_cons.1 h with rfl | h
        · exact List.not_mem_nil
        · exact ih h
      · obtain ⟨q, qs, hparts⟩ := List.exists_cons_of_ne_nil (Text.splitAt_ne_nil '\n' t)
        rw [splitAt_cons hd hparts] at h
        rcases List.mem_cons.1 h with rfl | h
        · have hq : '\n' ∉ q := ih (hparts ▸ List.mem_cons_self)
          simp [Ne.symm hd, hq]
        · exact ih (hparts ▸ List.mem_cons_of_mem q h)

/-- The first part starts the text. -/
lemma prefix_of_splitAt {t p : List Char} {ps : List (List Char)}
    (h : Text.splitAt '\n' t = p :: ps) : p <+: t := by
  induction t generalizing p ps with
  | nil =>
      obtain ⟨rfl, -⟩ := List.cons.inj h
      exact List.prefix_rfl
  | cons d t ih =>
      by_cases hd : d = '\n'
      · rw [Text.splitAt, if_pos hd] at h
        obtain ⟨rfl, -⟩ := List.cons.inj h
        exact List.nil_prefix
      · obtain ⟨q, qs, hparts⟩ := List.exists_cons_of_ne_nil (Text.splitAt_ne_nil '\n' t)
        rw [splitAt_cons hd hparts] at h
        obtain ⟨rfl, -⟩ := List.cons.inj h
        exact List.cons_prefix_cons.2 ⟨rfl, ih hparts⟩

/-- The parts are parts of the text. -/
lemma infix_of_mem_splitAt {t p : List Char} (h : p ∈ Text.splitAt '\n' t) : p <:+: t := by
  induction t generalizing p with
  | nil =>
      obtain rfl := List.mem_singleton.1 h
      exact List.infix_rfl
  | cons d t ih =>
      obtain ⟨q, qs, hparts⟩ := List.exists_cons_of_ne_nil (Text.splitAt_ne_nil '\n' (d :: t))
      rw [hparts] at h
      rcases List.mem_cons.1 h with rfl | h
      · exact (prefix_of_splitAt hparts).isInfix
      · refine (ih ?_).trans (List.suffix_cons d t).isInfix
        by_cases hd : d = '\n'
        · rw [Text.splitAt, if_pos hd] at hparts
          rwa [(List.cons.inj hparts).2]
        · obtain ⟨q', qs', hparts'⟩ := List.exists_cons_of_ne_nil (Text.splitAt_ne_nil '\n' t)
          rw [splitAt_cons hd hparts'] at hparts
          rw [hparts', (List.cons.inj hparts).2]
          exact List.mem_cons_of_mem q' h

/-- One part more than there are separators. -/
lemma length_splitAt (t : List Char) : (Text.splitAt '\n' t).length = t.count '\n' + 1 := by
  induction t with
  | nil => rfl
  | cons d t ih =>
      by_cases hd : d = '\n'
      · subst hd
        rw [Text.splitAt, if_pos rfl, List.length_cons, ih, List.count_cons_self]
      · obtain ⟨q, qs, hparts⟩ := List.exists_cons_of_ne_nil (Text.splitAt_ne_nil '\n' t)
        rw [splitAt_cons hd hparts, List.count_cons_of_ne hd, ← ih, hparts]
        rfl

/-- A text of several lines has a first line, lines between, and a last one. -/
lemma exists_splitAt {t : List Char} (ht : '\n' ∈ t) :
    ∃ first rest ts last, t = first ++ '\n' :: rest ∧ '\n' ∉ first ∧
      Text.splitAt '\n' t = first :: (ts ++ [last]) := by
  obtain ⟨first, rest, rfl, hfirst⟩ := List.eq_append_cons_of_mem ht
  obtain ⟨ts, last, hparts⟩ : ∃ ts last, Text.splitAt '\n' rest = ts ++ [last] :=
    ⟨_, _, (List.dropLast_append_getLast (Text.splitAt_ne_nil _ _)).symm⟩
  exact ⟨first, rest, ts, last, rfl, hfirst, by rw [Text.splitAt_append_of_not_mem hfirst, hparts]⟩

/-- Where a block comment stands: the number of its first line, the state in which this line starts,
the characters in front of the comment on it, and the text after the comment on its last line. -/
structure CommentPlace where
  number : ℕ
  state : LexState
  front : List Mark
  tail : List Char

namespace CommentPlace

/-- The character that closes a comment. -/
def closing : Mark := ⟨'/', .blockComment true⟩

/-- What comes before the comment on its first line. -/
def frontText (x : CommentPlace) : List Char := x.front.map Mark.char

/-- The line of a comment that is on one line. -/
def onlyLine (x : CommentPlace) (body : List Char) : LexedLine where
  line := ⟨x.number, x.frontText ++ '/' :: '*' :: (body ++ '*' :: '/' :: x.tail)⟩
  entry := x.state
  scan := scanOf x.state (x.front ++ closing :: marksFrom .code x.tail)

/-- The line on which a comment of several lines starts. -/
def firstLine (x : CommentPlace) (text : List Char) : LexedLine where
  line := ⟨x.number, x.frontText ++ '/' :: '*' :: lineText text⟩
  entry := x.state
  scan := { scanOf x.state x.front with exit := .blockComment }

/-- A line between the first and the last one of a comment. -/
def innerLine (n : ℕ) (text : List Char) : LexedLine :=
  ⟨⟨n, lineText text⟩, .blockComment, .empty .blockComment⟩

/-- The line on which a comment of several lines ends. -/
def lastLine (x : CommentPlace) (n : ℕ) (text : List Char) : LexedLine where
  line := ⟨n, text ++ '*' :: '/' :: x.tail⟩
  entry := .blockComment
  scan := scanOf .blockComment (closing :: marksFrom .code x.tail)

/-- The lines of a comment below the first one. -/
def linesBelow (x : CommentPlace) : ℕ → List (List Char) → List LexedLine
  | _, [] => []
  | n, [text] => [x.lastLine n text]
  | n, text :: ts => innerLine n text :: x.linesBelow (n + 1) ts

/-- The lines of a comment, given the parts of its body between line feeds. -/
def lines (x : CommentPlace) : List (List Char) → List LexedLine
  | [] => []
  | [text] => [x.onlyLine text]
  | text :: ts => x.firstLine text :: x.linesBelow (x.number + 1) ts

/-- The state after the last line of the comment. -/
def stateBelow (x : CommentPlace) : LexState := stateAfter .code (marksFrom .code x.tail)

/-- The lines between the first and the last one. -/
def innerLines : ℕ → List (List Char) → List LexedLine
  | _, [] => []
  | n, text :: ts => innerLine n text :: innerLines (n + 1) ts

@[simp] lemma length_innerLines (n : ℕ) (ts : List (List Char)) :
    (innerLines n ts).length = ts.length := by
  induction ts generalizing n with
  | nil => rfl
  | cons text ts ih => rw [innerLines, List.length_cons, ih, List.length_cons]

lemma exists_of_mem_innerLines {n : ℕ} {ts : List (List Char)} {l : LexedLine}
    (h : l ∈ innerLines n ts) : ∃ k, ∃ text ∈ ts, l = innerLine k text := by
  induction ts generalizing n with
  | nil => cases h
  | cons text ts ih =>
      rcases List.mem_cons.1 h with rfl | h
      · exact ⟨n, text, List.mem_cons_self, rfl⟩
      · obtain ⟨k, text', hmem, rfl⟩ := ih h
        exact ⟨k, text', List.mem_cons_of_mem text hmem, rfl⟩

/-- Of the lines below the first one, the last one closes the comment. -/
lemma linesBelow_concat (x : CommentPlace) (n : ℕ) (ts : List (List Char)) (text : List Char) :
    x.linesBelow n (ts ++ [text]) = innerLines n ts ++ [x.lastLine (n + ts.length) text] := by
  induction ts generalizing n with
  | nil => rfl
  | cons t ts ih =>
      have hstep : x.linesBelow n (t :: (ts ++ [text])) =
          innerLine n t :: x.linesBelow (n + 1) (ts ++ [text]) := by
        cases hts : ts ++ [text] with
        | nil => simp at hts
        | cons u us => rfl
      have hnumber : n + 1 + ts.length = n + (t :: ts).length := by
        rw [List.length_cons]
        omega
      rw [List.cons_append, hstep, ih, hnumber]
      rfl

/-- The lines of a comment of several lines. -/
lemma lines_concat (x : CommentPlace) (first : List Char) (ts : List (List Char))
    (text : List Char) :
    x.lines (first :: (ts ++ [text])) = x.firstLine first ::
      (innerLines (x.number + 1) ts ++ [x.lastLine (x.number + 1 + ts.length) text]) := by
  rw [← linesBelow_concat]
  cases hts : ts ++ [text] with
  | nil => simp at hts
  | cons u us => rfl

/-- A comment has one line more than its body has line feeds. -/
lemma length_lines (x : CommentPlace) (body : List Char) :
    (x.lines (Text.splitAt '\n' body)).length = body.count '\n' + 1 := by
  rw [← length_splitAt]
  by_cases hmem : '\n' ∈ body
  · obtain ⟨first, rest, ts, last, -, -, hparts⟩ := exists_splitAt hmem
    rw [hparts, lines_concat]
    simp
  · rw [Text.splitAt_of_not_mem hmem]
    rfl

end CommentPlace

/-- The first line of a text is marked like the text. -/
lemma marksFrom_firstLine (s : LexState) {t line : List Char} {ls : List (List Char)}
    (h : Text.lines t = line :: ls) : marksFrom s line = (marksFrom s t).take line.length := by
  have ht : t ≠ [] := by
    rintro rfl
    cases h
  obtain ⟨line', rest, first, -, hlines, -, hmarks, htake, -⟩ := exists_firstLine_marks s ht
  obtain ⟨rfl, -⟩ := List.cons.inj (hlines.symm.trans h)
  have hle : line'.length ≤ first.length := by
    rw [← length_marksFrom s line', ← htake]
    exact List.length_take_le' _ _
  rw [hmarks, List.take_append_of_le_length hle, htake]

/-- If a part of a text starts in plain code, then so does the first line of the part. -/
lemma marksFrom_append_firstLine {s : LexState} {front t line : List Char} {ms : List Mark}
    {ls : List (List Char)} (hms : ms.map Mark.char = front)
    (h : marksFrom s (front ++ t) = ms ++ marksFrom .code t) (hline : Text.lines t = line :: ls)
    (hlines : Text.lines (front ++ t) = (front ++ line) :: ls) :
    marksFrom s (front ++ line) = ms ++ marksFrom .code line := by
  have hlength : (front ++ line).length = ms.length + line.length := by
    rw [← hms, List.length_append, List.length_map]
  rw [marksFrom_firstLine s hlines, h, hlength, List.take_length_add_append,
    ← marksFrom_firstLine .code hline]

/-- What is left of the line on which a comment closes, and what is left of the text. -/
lemma exists_lines_slash (t : List Char) :
    ∃ tail rest : List Char, '\n' ∉ tail ∧ tail <+: t.takeWhile inLine ∧
      ∀ u, '\n' ∉ u → Text.lines (u ++ '/' :: t) = (u ++ '/' :: tail) :: Text.lines rest := by
  by_cases hmem : '\n' ∈ t
  · obtain ⟨w, rest, rfl, hw⟩ := List.eq_append_cons_of_mem hmem
    refine ⟨lineText w, rest, newline_not_mem_lineText hw, ?_, fun u hu => ?_⟩
    · rw [takeWhile_inLine_append hw, List.takeWhile_cons_of_neg (by simp), List.append_nil]
      rcases eq_lineText_or hw with h | h
      · rw [← h]
      · exact ⟨['\r'], h.symm⟩
    · have hline : '\n' ∉ u ++ '/' :: w := by simp [hu, hw]
      rw [← List.cons_append, ← List.append_assoc, lines_newline hline,
        lineText_append u (by decide) (by decide)]
  · refine ⟨t, [], hmem, ?_, fun u hu => ?_⟩
    · rw [takeWhile_inLine_of_not_mem hmem]
    · have hline : '\n' ∉ u ++ '/' :: t := by simp [hu, hmem]
      rw [lines_of_not_mem hline (by simp)]
      rfl

/-- A part of the body of a comment does not close it either. -/
lemma not_closes_part {body part : List Char} (hbody : ¬ ['*', '/'] <:+: body)
    (hpart : part <:+: body) : ¬ ['*', '/'] <:+: part := fun h => hbody (h.trans hpart)

/-- The text of a line is the first part of it. -/
lemma lineText_prefix_self {w : List Char} (hw : '\n' ∉ w) : lineText w <+: w := by
  rcases eq_lineText_or hw with h | h
  · rw [← h]
  · exact ⟨['\r'], h.symm⟩

/-- The lines of a comment below the first one are scanned from within the comment. -/
lemma lexFrom_linesBelow {x : CommentPlace} {body after rest : List Char}
    (hbody : ¬ ['*', '/'] <:+: body) (htail : '\n' ∉ x.tail)
    (hafter : ∀ u, '\n' ∉ u →
      Text.lines (u ++ '/' :: after) = (u ++ '/' :: x.tail) :: Text.lines rest) (n : ℕ) :
    lexFrom .blockComment (numberedFrom n (Text.lines (body ++ '*' :: '/' :: after))) =
      x.linesBelow n (Text.splitAt '\n' body) ++
        lexFrom x.stateBelow (numberedFrom (n + body.count '\n' + 1) (Text.lines rest)) := by
  generalize hk : body.count '\n' = k
  induction k generalizing body n with
  | zero =>
      have hmem : '\n' ∉ body := List.count_eq_zero.1 hk
      have hlines := hafter (body ++ ['*']) (by simp [hmem])
      rw [List.append_assoc, List.append_assoc, List.singleton_append, List.singleton_append]
        at hlines
      have hline : '\n' ∉ body ++ '*' :: '/' :: x.tail := by simp [hmem, htail]
      have hscan : Scan.ofLine .blockComment (body ++ '*' :: '/' :: x.tail) =
          scanOf .blockComment (CommentPlace.closing :: marksFrom .code x.tail) := by
        rw [ofLine_eq_scanOf _ hline, marksFrom_blockComment_closed hbody, scanOf_inside_append]
        exact scanOf_inside_append .blockComment ['*'] CommentPlace.closing _
      rw [Text.splitAt_of_not_mem hmem, hlines, numberedFrom, lexFrom, hscan]
      have hexit : (scanOf .blockComment (CommentPlace.closing :: marksFrom .code x.tail)).exit =
          x.stateBelow := stateAfter_cons .blockComment CommentPlace.closing _
      rw [hexit]
      rfl
  | succ k ih =>
      have hmem : '\n' ∈ body := List.count_pos_iff.1 (by omega)
      obtain ⟨w, below, rfl, hw⟩ := List.eq_append_cons_of_mem hmem
      have hcount : below.count '\n' = k := by
        rw [List.count_append, List.count_cons_self, List.count_eq_zero.2 hw] at hk
        omega
      have hwbody : ¬ ['*', '/'] <:+: w :=
        not_closes_part hbody (List.prefix_append w _).isInfix
      have hbelow : ¬ ['*', '/'] <:+: below :=
        not_closes_part hbody ⟨w ++ ['\n'], [], by simp⟩
      have hmarks (v : List Char) (hv : v <+: w) :
          marksFrom .blockComment v = marked (.blockComment false) v :=
        marksFrom_blockComment_unclosed (not_closes_part hwbody hv.isInfix)
      have hstate : stateAfter .blockComment (marked (.blockComment false) w) = .blockComment := by
        cases w with
        | nil => rfl
        | cons c w => exact stateAfter_marked_cons _ _ _ _
      rw [List.append_assoc, List.cons_append, lexFrom_newline _ n hw, hmarks w List.prefix_rfl,
        hstate, hmarks _ (lineText_prefix_self hw), scanOf_inside, ih hbelow (n + 1) hcount,
        Text.splitAt_append_of_not_mem hw]
      have hnumber : n + 1 + k + 1 = n + (k + 1) + 1 := by omega
      rw [hnumber]
      cases hparts : Text.splitAt '\n' below with
      | nil => exact absurd hparts (Text.splitAt_ne_nil _ _)
      | cons p ps => rfl

/-- What is marked on a line with a comment. -/
lemma marksFrom_comment {body : List Char} (hbody : ¬ ['*', '/'] <:+: body) (t : List Char) :
    marksFrom .code ('/' :: '*' :: (body ++ '*' :: '/' :: t)) =
      marked (.blockComment false) ('/' :: '*' :: (body ++ ['*'])) ++
        CommentPlace.closing :: marksFrom .code t := by
  rw [marksFrom.eq_8, marksFrom_blockComment_closed hbody]
  simp [marked, CommentPlace.closing]

/-- What is marked on a line on which a comment starts. -/
lemma marksFrom_commentStart {body : List Char} (hbody : ¬ ['*', '/'] <:+: body) :
    marksFrom .code ('/' :: '*' :: body) = marked (.blockComment false) ('/' :: '*' :: body) := by
  rw [marksFrom.eq_8, marksFrom_blockComment_unclosed hbody]
  rfl

section Lines

variable {x : CommentPlace} {body after rest : List Char}
  (hfront : '\n' ∉ x.frontText) (hbody : ¬ ['*', '/'] <:+: body) (htail : '\n' ∉ x.tail)
  (hafter : ∀ u, '\n' ∉ u →
    Text.lines (u ++ '/' :: after) = (u ++ '/' :: x.tail) :: Text.lines rest)
  (hmarks : marksFrom x.state (x.frontText ++ '/' :: '*' :: (body ++ '*' :: '/' :: after)) =
    x.front ++ marksFrom .code ('/' :: '*' :: (body ++ '*' :: '/' :: after)))

include hfront hbody htail hafter hmarks

/-- A comment of several lines that is reached in plain code is scanned into its lines. -/
lemma lexFrom_severalLines (hmem : '\n' ∈ body) :
    lexFrom x.state (numberedFrom x.number
        (Text.lines (x.frontText ++ '/' :: '*' :: (body ++ '*' :: '/' :: after)))) =
      x.lines (Text.splitAt '\n' body) ++
        lexFrom x.stateBelow
          (numberedFrom (x.number + body.count '\n' + 1) (Text.lines rest)) := by
  obtain ⟨w, below, rfl, hw⟩ := List.eq_append_cons_of_mem hmem
  have hwbody : ¬ ['*', '/'] <:+: lineText w :=
    not_closes_part hbody ((lineText_prefix_self hw).trans (List.prefix_append w _)).isInfix
  have hbelow : ¬ ['*', '/'] <:+: below := not_closes_part hbody ⟨w ++ ['\n'], [], by simp⟩
  have hlines (u : List Char) (hu : '\n' ∉ u) :
      Text.lines (u ++ '/' :: '*' :: (w ++ '\n' :: below ++ '*' :: '/' :: after)) =
        (u ++ '/' :: '*' :: lineText w) :: Text.lines (below ++ '*' :: '/' :: after) := by
    have hline : '\n' ∉ u ++ '/' :: '*' :: w := by simp [hu, hw]
    have htext : lineText (u ++ '/' :: '*' :: w) = u ++ '/' :: '*' :: lineText w := by
      rw [lineText_append u (by decide) (by decide)]
      exact congrArg (u ++ '/' :: ·) (lineText_append [] (by decide) (by decide) w)
    rw [← htext, ← lines_newline hline]
    simp
  have hfirst := marksFrom_append_firstLine (rfl : _ = x.frontText) hmarks
    (hlines [] List.not_mem_nil) (hlines _ hfront)
  rw [List.nil_append, marksFrom_commentStart hwbody] at hfirst
  have hscan : Scan.ofLine x.state (x.frontText ++ '/' :: '*' :: lineText w) =
      { scanOf x.state x.front with exit := .blockComment } := by
    have hline : '\n' ∉ x.frontText ++ '/' :: '*' :: lineText w := by
      simp [hfront, newline_not_mem_lineText hw]
    rw [ofLine_eq_scanOf _ hline, hfirst, scanOf_append_inside]
  have hcount : (w ++ '\n' :: below).count '\n' = below.count '\n' + 1 := by
    rw [List.count_append, List.count_cons_self, List.count_eq_zero.2 hw, Nat.zero_add]
  have hnumber : x.number + (below.count '\n' + 1) + 1 = x.number + 1 + below.count '\n' + 1 := by
    omega
  rw [hlines _ hfront, numberedFrom, lexFrom, hscan, lexFrom_linesBelow hbelow htail hafter,
    Text.splitAt_append_of_not_mem hw, hcount, hnumber]
  cases hparts : Text.splitAt '\n' below with
  | nil => exact absurd hparts (Text.splitAt_ne_nil _ _)
  | cons p ps => rfl

/-- A comment on one line that is reached in plain code is scanned into this line. -/
lemma lexFrom_onlyLine (hmem : '\n' ∉ body) :
    lexFrom x.state (numberedFrom x.number
        (Text.lines (x.frontText ++ '/' :: '*' :: (body ++ '*' :: '/' :: after)))) =
      x.onlyLine body :: lexFrom x.stateBelow (numberedFrom (x.number + 1) (Text.lines rest)) := by
  have hlines (u : List Char) (hu : '\n' ∉ u) :
      Text.lines (u ++ '/' :: '*' :: (body ++ '*' :: '/' :: after)) =
        (u ++ '/' :: '*' :: (body ++ '*' :: '/' :: x.tail)) :: Text.lines rest := by
    have hline := hafter (u ++ '/' :: '*' :: (body ++ ['*'])) (by simp [hu, hmem])
    simpa using hline
  have hfirst := marksFrom_append_firstLine (rfl : _ = x.frontText) hmarks
    (hlines [] List.not_mem_nil) (hlines _ hfront)
  rw [List.nil_append, marksFrom_comment hbody] at hfirst
  have hscan : Scan.ofLine x.state
      (x.frontText ++ '/' :: '*' :: (body ++ '*' :: '/' :: x.tail)) =
        scanOf x.state (x.front ++ CommentPlace.closing :: marksFrom .code x.tail) := by
    have hline : '\n' ∉ x.frontText ++ '/' :: '*' :: (body ++ '*' :: '/' :: x.tail) := by
      simp [hfront, hmem, htail]
    rw [ofLine_eq_scanOf _ hline, hfirst, scanOf_append, scanOf_inside_append, ← scanOf_append]
  have hexit : (scanOf x.state (x.front ++ CommentPlace.closing :: marksFrom .code x.tail)).exit =
      x.stateBelow := by
    rw [scanOf_append]
    exact stateAfter_cons (stateAfter x.state x.front) CommentPlace.closing _
  rw [hlines _ hfront, numberedFrom, lexFrom, hscan, hexit]
  rfl

/-- A comment that is reached in plain code is scanned into its lines. -/
lemma lexFrom_lines :
    lexFrom x.state (numberedFrom x.number
        (Text.lines (x.frontText ++ '/' :: '*' :: (body ++ '*' :: '/' :: after)))) =
      x.lines (Text.splitAt '\n' body) ++
        lexFrom x.stateBelow
          (numberedFrom (x.number + body.count '\n' + 1) (Text.lines rest)) := by
  by_cases hmem : '\n' ∈ body
  · exact lexFrom_severalLines hfront hbody htail hafter hmarks hmem
  · rw [lexFrom_onlyLine hfront hbody htail hafter hmarks hmem, Text.splitAt_of_not_mem hmem,
      List.count_eq_zero.2 hmem]
    rfl

end Lines

/-- **The lines of a text with a block comment** are those above the comment, those of the comment,
and those below it. Above and below it they are the same for all comments with as many lines. -/
theorem exists_lex_comment (pre post : List Element) :
    ∃ (x : CommentPlace) (above : List LexedLine) (rest : List Char),
      x.number = (render pre).count '\n' + 1 ∧ above.length = (render pre).count '\n' ∧
      x.frontText = lastLineOf (render pre) ∧ x.tail <+: (render post).takeWhile inLine ∧
      ∀ body, WellFormed (pre ++ .blockComment body true :: post) →
        lex (render (pre ++ .blockComment body true :: post)) =
          above ++ (x.lines (Text.splitAt '\n' body) ++
            lexFrom x.stateBelow
              (numberedFrom (x.number + body.count '\n' + 1) (Text.lines rest))) := by
  obtain ⟨above, s, front, hlength, hfront, habove⟩ :=
    exists_lexFrom_append (render pre) (marks pre) .code 1 (map_char_marks pre)
  obtain ⟨tail, rest, htail, htake, hafter⟩ := exists_lines_slash (render post)
  let x : CommentPlace := ⟨1 + (render pre).count '\n', s, front, tail⟩
  refine ⟨x, above, rest, Nat.add_comm _ _, hlength, hfront, htake, fun body hes => ?_⟩
  obtain ⟨hbody, -⟩ : (Element.blockComment body true).Delimited (render post) :=
    hes.of_append.1
  let text := '/' :: '*' :: (body ++ '*' :: '/' :: render post)
  have hrender : render (pre ++ .blockComment body true :: post) = render pre ++ text := by
    simp [render, Element.text, text]
  -- The comment is reached in plain code.
  have hmarks : marksFrom .code (render pre ++ text) = marks pre ++ marksFrom .code text := by
    have hpost : marksFrom .code text = marks (.blockComment body true :: post) := by
      rw [← marksFrom_render hes.of_append]
      simp [render, Element.text, text]
    rw [hpost, ← hrender, marksFrom_render hes, marks, List.flatMap_append]
    rfl
  obtain ⟨hlex, hline⟩ := habove text hmarks
  have hfeed : '\n' ∉ lastLineOf (render pre) := fun h => by
    simpa using List.mem_rtakeWhile_imp h
  have hchars : x.frontText = lastLineOf (render pre) := hfront
  rw [← hchars] at hfeed hline hlex
  rw [lex, sourceLines, hrender, hlex]
  exact congrArg (above ++ ·) (lexFrom_lines hfeed hbody htail hafter hline)

end QualityGate
