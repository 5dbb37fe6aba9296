import QualityGate.Proofs.Source.Marking
import QualityGate.Source.Line
import Mathlib.Tactic

/-!
Lexing a source text, described by the elements of the text. Elements extend over lines and the
scanner works line by line; what it finds on a line is what the elements say about the characters of
the line.

* `exists_firstLine`: what the first line of a text is, its line end, and what is left.
* `lex_line`: a line is scanned into what the marks of its characters give.
* `stateAt`: the element that is open at an offset of the text.
* **`lex_render`**: the counts, the code and the states of every line.
-/

namespace QualityGate

/-! ### The first line of a text -/

/-- How a line ends: at the end of the text, or with a line feed that a carriage return may come
before. The second list is what follows. -/
inductive LineEnd : List Char → List Char → Prop where
  | last : LineEnd [] []
  | feed (rest : List Char) : LineEnd ['\n'] rest
  | returnFeed (rest : List Char) : LineEnd ['\r', '\n'] rest

/-- A text without a line feed is one piece. -/
lemma pieces_of_not_mem {t : List Char} (ht : '\n' ∉ t) (hne : t ≠ []) : Text.pieces t = [t] := by
  induction t with
  | nil => exact absurd rfl hne
  | cons c t ih =>
      have hc : c ≠ '\n' := fun h => ht (h ▸ List.mem_cons_self)
      rw [Text.pieces, if_neg hc]
      cases t with
      | nil => rfl
      | cons d t => rw [ih (fun h => ht (List.mem_cons_of_mem c h)) (by simp)]

/-- The first piece of a text ends with its first line feed. -/
lemma pieces_append_newline {line : List Char} (hline : '\n' ∉ line) (rest : List Char) :
    Text.pieces (line ++ '\n' :: rest) = (line ++ ['\n']) :: Text.pieces rest := by
  induction line with
  | nil => simp [Text.pieces]
  | cons c line ih =>
      have hc : c ≠ '\n' := fun h => hline (h ▸ List.mem_cons_self)
      rw [List.cons_append, Text.pieces, if_neg hc,
        ih fun h => hline (List.mem_cons_of_mem c h)]
      rfl

/-- A line without a line feed has no line end. -/
lemma withoutLineEnd_of_not_mem {t : List Char} (ht : '\n' ∉ t) : Text.withoutLineEnd t = t := by
  fun_induction Text.withoutLineEnd t <;> simp_all

/-- A carriage return before the line feed belongs to the line end. -/
lemma withoutLineEnd_returnFeed {line : List Char} (hline : '\n' ∉ line) :
    Text.withoutLineEnd (line ++ ['\r', '\n']) = line := by
  induction line with
  | nil => rfl
  | cons c line ih =>
      have hc : c ≠ '\n' := fun h => hline (h ▸ List.mem_cons_self)
      have ih := ih fun h => hline (List.mem_cons_of_mem c h)
      rw [List.cons_append, Text.withoutLineEnd.eq_4, ih]
      · exact fun h _ => hc h
      · rintro rfl h
        cases line with
        | nil => cases h
        | cons d line => exact absurd h (by simp)

/-- A carriage return anywhere else does not. -/
lemma withoutLineEnd_feed {line : List Char} (hline : '\n' ∉ line)
    (hreturn : line.getLast? ≠ some '\r') : Text.withoutLineEnd (line ++ ['\n']) = line := by
  induction line with
  | nil => rfl
  | cons c line ih =>
      have hc : c ≠ '\n' := fun h => hline (h ▸ List.mem_cons_self)
      have hlast : line.getLast? ≠ some '\r' := by
        cases line with
        | nil => simp
        | cons d line => rwa [List.getLast?_cons_cons] at hreturn
      have ih := ih (fun h => hline (List.mem_cons_of_mem c h)) hlast
      rw [List.cons_append, Text.withoutLineEnd.eq_4, ih]
      · exact fun h _ => hc h
      · rintro rfl h
        cases line with
        | nil => exact hreturn rfl
        | cons d line => exact absurd h (by simp)

/-- **The first line of a text**, its line end, and what is left of the text. -/
theorem exists_firstLine {t : List Char} (ht : t ≠ []) :
    ∃ line lineEnd rest : List Char, LineEnd lineEnd rest ∧ '\n' ∉ line ∧
      t = line ++ (lineEnd ++ rest) ∧ Text.pieces t = (line ++ lineEnd) :: Text.pieces rest ∧
      Text.withoutLineEnd (line ++ lineEnd) = line := by
  by_cases hmem : '\n' ∈ t
  · obtain ⟨front, rest, rfl, hfront⟩ := List.eq_append_cons_of_mem hmem
    have hpieces := pieces_append_newline hfront rest
    by_cases hreturn : front.getLast? = some '\r'
    · obtain ⟨line, rfl⟩ := List.getLast?_eq_some_iff.1 hreturn
      have hline : '\n' ∉ line := fun h => hfront (List.mem_append_left _ h)
      rw [List.append_assoc line ['\r'] ['\n']] at hpieces
      exact ⟨line, ['\r', '\n'], rest, .returnFeed rest, hline, by simp, hpieces,
        withoutLineEnd_returnFeed hline⟩
    · exact ⟨front, ['\n'], rest, .feed rest, hfront, rfl, hpieces,
        withoutLineEnd_feed hfront hreturn⟩
  · refine ⟨t, [], [], .last, hmem, by simp, ?_, ?_⟩
    · rw [pieces_of_not_mem hmem ht, List.append_nil]
      rfl
    · rw [List.append_nil, withoutLineEnd_of_not_mem hmem]

/-! ### The lines of a text -/

/-- A line end does not change the state, and the line goes on being marked as if nothing came after
it. -/
lemma exists_lineEnd_marks (s : LexState) {line lineEnd rest : List Char} (hline : '\n' ∉ line)
    (hend : LineEnd lineEnd rest) :
    ∃ ends : List Mark, ends.length = lineEnd.length ∧
      stateAfter s (marksFrom s line ++ ends) = stateAfter s (marksFrom s line) ∧
      marksFrom s (line ++ (lineEnd ++ rest)) =
        marksFrom s line ++ (ends ++ marksFrom (stateAfter s (marksFrom s line)) rest) := by
  cases hend with
  | last => exact ⟨[], rfl, by rw [List.append_nil], by simp [marksFrom.eq_1]⟩
  | feed =>
      obtain ⟨r, hr, hwhole⟩ := marksFrom_line s hline (.inl rfl : EndsLine '\n' rest)
      refine ⟨[⟨'\n', r⟩], rfl, ?_, hwhole⟩
      rw [stateAfter_append, stateAfter_cons, hr]
      rfl
  | returnFeed =>
      have htail : AtLineEnd ('\n' :: rest) := fun c hc => (Option.mem_some.1 hc).symm
      obtain ⟨r, hr, hwhole⟩ := marksFrom_line s hline (.inr ⟨rfl, htail⟩ : EndsLine '\r' _)
      refine ⟨[⟨'\r', r⟩, ⟨'\n', (stateAfter s (marksFrom s line)).region⟩], rfl, ?_, ?_⟩
      · rw [stateAfter_append, stateAfter_cons, stateAfter_cons, LexState.after_region]
        rfl
      · rw [List.cons_append, List.singleton_append, hwhole,
          marksFrom_neutral _ (by simp [Neutral])]
        rfl

/-- As many marks as characters. -/
lemma length_marksFrom (s : LexState) (t : List Char) : (marksFrom s t).length = t.length := by
  simpa using congrArg List.length (map_char_marksFrom s t)

/-- Where the line with the given index starts, counted in characters. -/
def lineStart (t : List Char) (i : ℕ) : ℕ := ((Text.pieces t).take i).flatten.length

@[simp] lemma lineStart_zero (t : List Char) : lineStart t 0 = 0 := rfl

/-- A line starts where it starts in what is left after the first line. -/
lemma lineStart_succ {t p rest : List Char} (h : Text.pieces t = p :: Text.pieces rest) (i : ℕ) :
    lineStart t (i + 1) = p.length + lineStart rest i := by
  rw [lineStart, h, List.take_succ_cons, List.flatten_cons, List.length_append]
  rfl

/-- The marks of a text are those of its first line, line end included, and those of what is
left. -/
lemma exists_firstLine_marks (s : LexState) {t : List Char} (ht : t ≠ []) :
    ∃ (line rest : List Char) (first : List Mark), '\n' ∉ line ∧
      Text.lines t = line :: Text.lines rest ∧
      (∀ i, lineStart t (i + 1) = first.length + lineStart rest i) ∧
      marksFrom s t = first ++ marksFrom (stateAfter s first) rest ∧
      first.take line.length = marksFrom s line ∧
      stateAfter s first = stateAfter s (marksFrom s line) := by
  obtain ⟨line, lineEnd, rest, hend, hline, rfl, hpieces, hwithout⟩ := exists_firstLine ht
  obtain ⟨ends, hlength, hafter, hmarks⟩ := exists_lineEnd_marks s hline hend
  refine ⟨line, rest, marksFrom s line ++ ends, hline, ?_, ?_, ?_, ?_, hafter⟩
  · rw [Text.lines, hpieces, List.map_cons, hwithout]
    rfl
  · intro i
    rw [lineStart_succ hpieces, List.length_append, List.length_append, length_marksFrom, hlength]
  · rw [hafter, hmarks, List.append_assoc]
  · rw [← length_marksFrom s line, List.take_left]

/-- The first line of a text is scanned first, and what is left from the state after it. -/
lemma exists_lexFrom_cons (s : LexState) (n : ℕ) {t : List Char} (ht : t ≠ []) :
    ∃ (line rest : List Char) (first : List Mark),
      lexFrom s (numberedFrom n (Text.lines t)) =
        ⟨⟨n, line⟩, s, scanOf s (first.take line.length)⟩ ::
          lexFrom (stateAfter s first) (numberedFrom (n + 1) (Text.lines rest)) ∧
      Text.lines t = line :: Text.lines rest ∧
      (∀ i, lineStart t (i + 1) = first.length + lineStart rest i) ∧
      marksFrom s t = first ++ marksFrom (stateAfter s first) rest ∧
      line.length ≤ first.length ∧ (first.take line.length).map Mark.char = line ∧
      (scanOf s (first.take line.length)).exit = stateAfter s first := by
  obtain ⟨line, rest, first, hline, hlines, hstart, hmarks, htake, hafter⟩ :=
    exists_firstLine_marks s ht
  have hscan := ofLine_eq_scanOf s hline
  have hexit : (scanOf s (first.take line.length)).exit = stateAfter s first := by
    rw [htake, hafter]
    rfl
  refine ⟨line, rest, first, ?_, hlines, hstart, hmarks, ?_, ?_, hexit⟩
  · rw [hlines, numberedFrom, lexFrom, hscan, ← htake, hexit]
  · rw [← length_marksFrom s line, ← htake]
    exact List.length_take_le' _ _
  · rw [htake, map_char_marksFrom]

/-- The marks of the characters from an offset on, as many as are given. -/
def marksAt (ms : List Mark) (start n : ℕ) : List Mark := (ms.drop start).take n

/-- **A line is scanned** into what the marks of its characters give, from the state after all that
comes before the line to the state after its line end. -/
theorem lex_line {s : LexState} {n : ℕ} {t : List Char} {i : ℕ} {l : LexedLine}
    (hl : (lexFrom s (numberedFrom n (Text.lines t)))[i]? = some l) :
    l.line.number = n + i ∧ (Text.lines t)[i]? = some l.line.text ∧
      l.entry = stateAfter s ((marksFrom s t).take (lineStart t i)) ∧
      l.exit = stateAfter s ((marksFrom s t).take (lineStart t (i + 1))) ∧
      (marksAt (marksFrom s t) (lineStart t i) l.line.text.length).map Mark.char = l.line.text ∧
      l.scan = scanOf l.entry (marksAt (marksFrom s t) (lineStart t i) l.line.text.length) := by
  induction i generalizing s n t with
  | zero =>
      have ht : t ≠ [] := by rintro rfl; simp [Text.lines, Text.pieces, numberedFrom, lexFrom] at hl
      obtain ⟨line, rest, first, hlex, hlines, hstart, hmarks, hle, hchar, hexit⟩ :=
        exists_lexFrom_cons s n ht
      rw [hlex, List.getElem?_cons_zero, Option.some.injEq] at hl
      subst hl
      have hat : marksAt (marksFrom s t) (lineStart t 0) line.length = first.take line.length := by
        rw [marksAt, lineStart_zero, List.drop_zero, hmarks, List.take_append_of_le_length hle]
      refine ⟨rfl, by rw [hlines]; rfl, rfl, ?_, by rw [hat, hchar], by rw [hat]⟩
      rw [hstart, lineStart_zero, Nat.add_zero, hmarks, List.take_left]
      exact hexit
  | succ i ih =>
      have ht : t ≠ [] := by rintro rfl; simp [Text.lines, Text.pieces, numberedFrom, lexFrom] at hl
      obtain ⟨line, rest, first, hlex, hlines, hstart, hmarks, -, -, -⟩ :=
        exists_lexFrom_cons s n ht
      rw [hlex, List.getElem?_cons_succ] at hl
      obtain ⟨hnumber, htext, hentry, hexit, hchar, hscan⟩ := ih hl
      have htake (k : ℕ) : stateAfter s ((marksFrom s t).take (first.length + k)) =
          stateAfter (stateAfter s first) ((marksFrom (stateAfter s first) rest).take k) := by
        rw [hmarks, List.take_length_add_append, stateAfter_append]
      have hat (k m : ℕ) : marksAt (marksFrom s t) (first.length + k) m =
          marksAt (marksFrom (stateAfter s first) rest) k m := by
        rw [marksAt, marksAt, hmarks, List.drop_length_add_append]
      rw [hstart, hstart, htake, htake, hat]
      refine ⟨by omega, ?_, hentry, hexit, hchar, hscan⟩
      rw [hlines, List.getElem?_cons_succ, htext]

/-! ### States between characters -/

/-- The state inside an element: block comments and text blocks extend over lines. -/
def Element.inside : Element → LexState
  | blockComment _ _ => .blockComment
  | textBlock _ _ => .textBlock
  | plain _ | lineComment _ | literal _ _ _ => .code

/-- The element has no closing mark and extends to the end of the text. -/
def Element.isOpen : Element → Bool
  | blockComment _ closed => !closed
  | textBlock _ ending => ending != .closed
  | plain _ | lineComment _ | literal _ _ _ => false

/-- The state at an offset of a text: inside a block comment or a text block that begins before the
offset and is not closed up to there. -/
def stateAt : List Element → ℕ → LexState
  | [], _ => .code
  | e :: es, k =>
    if 0 < k ∧ (k < e.text.length ∨ e.isOpen) then e.inside else stateAt es (k - e.text.length)

/-- Within characters of one region, the state is the one of the region. -/
lemma stateAfter_take_marked (r : Region) (c : Char) (t : List Char) (k : ℕ) :
    stateAfter .code ((marked r (c :: t)).take k) = if 0 < k then r.after else .code := by
  cases k with
  | zero => rfl
  | succ k =>
      rw [marked, ← List.map_take, List.take_succ_cons, ← marked, stateAfter_marked_cons,
        if_pos (by omega)]

/-- Within an element that its last character closes, the state is the one of the element. -/
lemma stateAfter_take_closed {r : Region} {m : Mark} (hm : m.region.after = .code) (c : Char)
    (t : List Char) (k : ℕ) :
    stateAfter .code ((marked r (c :: t) ++ [m]).take k) =
      if 0 < k ∧ k < (marked r (c :: t) ++ [m]).length then r.after else .code := by
  by_cases hk : k < (marked r (c :: t) ++ [m]).length
  · have hle : k ≤ (marked r (c :: t)).length := by
      rw [List.length_append, List.length_singleton] at hk
      omega
    rw [List.take_append_of_le_length hle, stateAfter_take_marked]
    by_cases h0 : 0 < k
    · rw [if_pos h0, if_pos ⟨h0, hk⟩]
    · rw [if_neg h0, if_neg fun h => h0 h.1]
  · rw [List.take_of_length_le (not_lt.1 hk), stateAfter_append, stateAfter_cons, hm,
      if_neg fun h => hk h.2]
    rfl

/-- The state at an offset within an element. -/
lemma stateAfter_take_element (e : Element) (k : ℕ) :
    stateAfter .code (e.marks.take k) =
      if 0 < k ∧ (k < e.marks.length ∨ e.isOpen) then e.inside else .code := by
  have hcode (r : Region) (hr : r.after = .code) (c : Char) (t : List Char) :
      stateAfter .code ((marked r (c :: t)).take k) = .code := by
    rw [stateAfter_take_marked, hr, ite_self]
  cases e with
  | plain c => rw [Element.inside, ite_self]; exact hcode .code rfl c []
  | lineComment body => rw [Element.inside, ite_self]; exact hcode .lineComment rfl '/' _
  | literal quote body ending =>
      rw [Element.inside, ite_self]
      exact hcode .literal rfl quote _
  | blockComment body closed =>
      cases closed with
      | true =>
          have hclosed := stateAfter_take_closed (r := .blockComment false)
            (m := ⟨'/', .blockComment true⟩) rfl '/' ('*' :: body ++ ['*']) k
          have hmarks : (Element.blockComment body true).marks =
              marked (.blockComment false) ('/' :: ('*' :: body ++ ['*'])) ++
                [⟨'/', .blockComment true⟩] := by
            simp [Element.marks, marked]
          rw [hmarks, hclosed]
          simp [Element.isOpen, Element.inside, Region.after]
      | false =>
          have hopen := stateAfter_take_marked (.blockComment false) '/' ('*' :: body) k
          simpa [Element.marks, Element.isOpen, Element.inside, Region.after] using hopen
  | textBlock body ending =>
      have hopen (t : List Char) :=
        stateAfter_take_marked (.textBlock false) '"' ('"' :: '"' :: t) k
      cases ending with
      | closed =>
          have hclosed := stateAfter_take_closed (r := .textBlock false)
            (m := ⟨'"', .textBlock true⟩) rfl '"' ('"' :: '"' :: piecesText body ++ ['"', '"']) k
          have hmarks : (Element.textBlock body .closed).marks =
              marked (.textBlock false) ('"' :: ('"' :: '"' :: piecesText body ++ ['"', '"'])) ++
                [⟨'"', .textBlock true⟩] := by
            simp [Element.marks, marked, tripleQuote, Ending.blockMarks, closingQuotes]
          rw [hmarks, hclosed]
          simp [Element.isOpen, Element.inside, Region.after]
      | unclosed =>
          have hopen := hopen (piecesText body)
          simpa [Element.marks, Element.isOpen, Element.inside, Region.after, tripleQuote,
            Ending.blockMarks] using hopen
      | backslash =>
          have hopen := hopen (piecesText body ++ ['\\'])
          simpa [Element.marks, Element.isOpen, Element.inside, Region.after, tripleQuote,
            Ending.blockMarks, marked] using hopen

/-- Nothing comes after an element that is not closed. -/
lemma Element.Delimited.eq_nil_of_isOpen {e : Element} {rest : List Char} (h : e.Delimited rest)
    (hopen : e.isOpen) : rest = [] := by
  cases e with
  | blockComment body closed => exact h.2 (by simpa [Element.isOpen] using hopen)
  | textBlock body ending => exact h.2.2 (by simpa [Element.isOpen] using hopen)
  | plain c | lineComment body | literal quote body ending => cases hopen

/-- **The state after the first characters** of a text is the one that its elements have there. -/
theorem stateAfter_take_marks {es : List Element} (h : WellFormed es) (k : ℕ) :
    stateAfter .code ((marks es).take k) = stateAt es k := by
  induction es generalizing k with
  | nil => simp [marks, stateAt]
  | cons e es ih =>
      obtain ⟨he, hes⟩ := h
      have hlength : e.marks.length = e.text.length := by
        simpa using congrArg List.length e.map_char_marks
      have helement := stateAfter_take_element e k
      have hmarks : marks (e :: es) = e.marks ++ marks es := rfl
      rw [hmarks, stateAt, List.take_append, stateAfter_append, helement, hlength]
      by_cases hin : 0 < k ∧ (k < e.text.length ∨ e.isOpen)
      -- The offset is inside the element, or nothing comes after the element.
      · have hnil : (marks es).take (k - e.text.length) = [] := by
          rcases hin.2 with hlt | hopen
          · rw [Nat.sub_eq_zero_of_le hlt.le, List.take_zero]
          · have hrender : (marks es).map Mark.char = [] := by
              rw [map_char_marks, he.eq_nil_of_isOpen hopen]
            rw [List.map_eq_nil_iff.1 hrender, List.take_nil]
        rw [if_pos hin, hnil, stateAfter_nil, if_pos hin]
      · rw [if_neg hin, ih hes, if_neg hin]

/-! ### Lexing -/

/-- The characters of a line with what they belong to. -/
def lineMarks (es : List Element) (i : ℕ) (l : LexedLine) : List Mark :=
  marksAt (marks es) (lineStart (render es) i) l.line.text.length

/-- What lexing the text of the elements finds on the line with the given index. -/
structure LexedAs (es : List Element) (i : ℕ) (l : LexedLine) : Prop where
  number : l.line.number = i + 1
  text : (Text.lines (render es))[i]? = some l.line.text
  /-- The marks of the line are those of its characters. -/
  chars : (lineMarks es i l).map Mark.char = l.line.text
  opens : l.scan.opens = (plainChars (lineMarks es i l)).count '{'
  closes : l.scan.closes = (plainChars (lineMarks es i l)).count '}'
  parenDelta : l.scan.parenDelta =
    (plainChars (lineMarks es i l)).count '(' - (plainChars (lineMarks es i l)).count ')'
  code : l.code = (lineMarks es i l).flatMap Mark.kept
  entry : l.entry = stateAt es (lineStart (render es) i)
  exit : l.exit = stateAt es (lineStart (render es) (i + 1))

/-- **Lexing follows the elements of a text.** There is one lexed line for each line. On each of
them the braces and parentheses of plain code are counted, comments are dropped but for a space
where a block comment closes, and literals and text blocks are kept. A line starts and ends in the
state of the element that is open there. Hence two lines with the same plain code have the same
counts, whatever their comments, literals and text blocks hold. -/
theorem lex_render {es : List Element} (h : WellFormed es) :
    (lex (render es)).length = (Text.lines (render es)).length ∧
      (∀ i l, (lex (render es))[i]? = some l → LexedAs es i l) ∧
      ∀ (fs : List Element) (i j : ℕ) (l k : LexedLine), WellFormed fs →
        (lex (render es))[i]? = some l → (lex (render fs))[j]? = some k →
        plainChars (lineMarks es i l) = plainChars (lineMarks fs j k) →
        l.scan.opens = k.scan.opens ∧ l.scan.closes = k.scan.closes ∧
          l.scan.parenDelta = k.scan.parenDelta := by
  have hline {es : List Element} (h : WellFormed es) (i : ℕ) (l : LexedLine)
      (hl : (lex (render es))[i]? = some l) : LexedAs es i l := by
    obtain ⟨hnumber, htext, hentry, hexit, hchars, hscan⟩ := lex_line hl
    rw [marksFrom_render h] at hentry hexit hchars hscan
    rw [stateAfter_take_marks h] at hentry hexit
    exact ⟨by omega, htext, hchars, by rw [hscan]; rfl, by rw [hscan]; rfl, by rw [hscan]; rfl,
      by rw [LexedLine.code, hscan]; rfl, hentry, hexit⟩
  refine ⟨?_, hline h, ?_⟩
  · rw [lex, lexFrom_length, sourceLines, numberedFrom_length]
  · intro fs i j l k hfs hl hk hplain
    have hes := hline h i l hl
    have hfs := hline hfs j k hk
    exact ⟨by rw [hes.opens, hfs.opens, hplain], by rw [hes.closes, hfs.closes, hplain],
      by rw [hes.parenDelta, hfs.parenDelta, hplain]⟩

/-- Braces in a comment, a literal and a text block that extend over lines, with escaped quotes, a
literal that ends with its line and a comment that is never closed. -/
theorem lex_render_mixedText :
    let es : List Element :=
      [.plain 'a', .plain '{', .blockComment [' ', '{', '\r', '\n', '('] true, .plain '(',
        .literal '"' [.char '{', .escape '"'] .closed, .plain '\n',
        .textBlock [.char '}', .escape '\n', .char '"', .escape '"', .char '{'] .closed,
        .lineComment [')', '"'], .plain '\n', .plain '}', .literal '\'' [.char '{'] .backslash,
        .plain '\n', .blockComment ['}'] false]
    WellFormed es ∧
      (lex (render es)).map (fun l => (l.entry, l.scan)) =
        [(.code, ⟨1, 0, 0, .blockComment, ['a', '{']⟩),
          (.blockComment, ⟨0, 0, 1, .code, [' ', '(', '"', '{', '\\', '"', '"']⟩),
          (.code, ⟨0, 0, 0, .textBlock, ['"', '"', '"', '}', '\\']⟩),
          (.textBlock, ⟨0, 0, 0, .code, ['"', '\\', '"', '{', '"', '"', '"']⟩),
          (.code, ⟨0, 1, 0, .code, ['}', '\'', '{', '\\']⟩),
          (.code, ⟨0, 0, 0, .blockComment, []⟩)] ∧
      ∀ i l, (lex (render es))[i]? = some l → LexedAs es i l := by
  intro es
  have hes : WellFormed es := by decide +kernel
  exact ⟨hes, by decide +kernel, (lex_render hes).2.1⟩

end QualityGate
