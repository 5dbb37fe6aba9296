import QualityGate.Proofs.Documentation.Above
import QualityGate.Proofs.Source.Comment
import Mathlib.Tactic

/-!
Which comment documents a declaration. The opening mark is searched for in the texts of the lines,
upwards from the line that ends like a block comment. If this line is the last one of a block
comment, and no other opening mark stands on the lines of the comment, then the mark that is found
is the one of the comment.

* `OpensOnce`: a comment has no other opening mark below its first line.
* `opensWithMarker_lines`: the mark that is found from the last line of such a comment on.
* `comment_above_of_isDocumented`: **what stands above a documented line**.
-/

namespace QualityGate

/-! ### The marks of a comment -/

/-- Below the first line of a comment with this body there is no opening mark, up to its end. -/
def OpensOnce (body : List Char) : Prop :=
  ∀ text ∈ (Text.splitAt '\n' (body ++ ['*'])).tail, ¬ openingMark <:+: text

instance (body : List Char) : Decidable (OpensOnce body) :=
  inferInstanceAs (Decidable (∀ text ∈ (Text.splitAt '\n' (body ++ ['*'])).tail, _))

/-- The lines of a comment of several lines. -/
lemma OpensOnce.parts {body first last : List Char} {ts : List (List Char)} (h : OpensOnce body)
    (hparts : Text.splitAt '\n' body = first :: (ts ++ [last])) :
    (∀ text ∈ ts, '\n' ∉ text ∧ ¬ openingMark <:+: text) ∧ ¬ openingMark <:+: last ++ ['*'] := by
  rw [OpensOnce, splitAt_concat (by decide) (List.cons_append.symm ▸ hparts)] at h
  refine ⟨fun text hmem => ⟨?_, h text (List.mem_append_left _ hmem)⟩, h _ ?_⟩
  · refine newline_not_mem_of_mem_splitAt (t := body) ?_
    rw [hparts]
    exact List.mem_cons_of_mem first (List.mem_append_left [last] hmem)
  · exact List.mem_append_right _ List.mem_cons_self

/-- An opening mark is one of a documentation comment if a star follows it. -/
lemma docMark_prefix_iff {t : List Char} : docMark <+: '/' :: '*' :: t ↔ ['*'] <+: t := by
  rw [docMark, List.cons_prefix_cons, List.cons_prefix_cons]
  simp

namespace CommentPlace

variable {x : CommentPlace}

/-- Between the first and the last line of such a comment no opening mark is found. -/
lemma fromCommentStart?_innerLines {ts : List (List Char)}
    (hts : ∀ text ∈ ts, '\n' ∉ text ∧ ¬ openingMark <:+: text) (n : ℕ) :
    ∀ l ∈ innerLines n ts, ¬ openingMark <:+: l.line.text := by
  intro l hl
  obtain ⟨k, text, hmem, rfl⟩ := exists_of_mem_innerLines hl
  obtain ⟨hline, hmark⟩ := hts text hmem
  exact fun h => hmark (h.trans (lineText_prefix_self hline).isInfix)

/-- On the last line none is found in the comment. -/
lemma fromCommentStart?_lastLine {text : List Char} (htext : ¬ openingMark <:+: text ++ ['*'])
    (n : ℕ) : fromCommentStart? (x.lastLine n text).line.text =
      fromCommentStart? ('*' :: '/' :: x.tail) :=
  fromCommentStart?_append htext ('/' :: x.tail)

/-- Below the first line of such a comment there is no opening mark. -/
lemma not_openingMark_tail_lines {body : List Char} (hbody : OpensOnce body)
    (htail : ¬ openingMark <:+: '*' :: '/' :: x.tail) :
    ∀ l ∈ (x.lines (Text.splitAt '\n' body)).tail, ¬ openingMark <:+: l.line.text := by
  by_cases hmem : '\n' ∈ body
  · obtain ⟨first, rest, ts, last, -, -, hparts⟩ := exists_splitAt hmem
    obtain ⟨hts, hlast⟩ := hbody.parts hparts
    rw [hparts, lines_concat, List.tail_cons]
    intro l hl
    rcases List.mem_append.1 hl with hl | hl
    · exact fromCommentStart?_innerLines hts _ l hl
    · obtain rfl := List.mem_singleton.1 hl
      rw [← fromCommentStart?_eq_none_iff, fromCommentStart?_lastLine hlast,
        fromCommentStart?_eq_none_iff]
      exact htail
  · rw [Text.splitAt_of_not_mem hmem]
    exact fun l hl => absurd hl List.not_mem_nil

/-- The mark of the comment is the first one of its line, if none comes in front of it. -/
lemma fromCommentStart?_front (hfront : ¬ openingMark <:+: x.frontText ++ ['/']) (t : List Char) :
    fromCommentStart? (x.frontText ++ '/' :: '*' :: t) = some ('/' :: '*' :: t) := by
  rw [fromCommentStart?_append hfront, fromCommentStart?]
  rfl

/-- From the last line of such a comment on, the mark of the comment is found. -/
lemma opensWithMarker_severalLines {body first last : List Char} {ts : List (List Char)}
    (hbody : OpensOnce body) (hparts : Text.splitAt '\n' body = first :: (ts ++ [last]))
    (hfront : ¬ openingMark <:+: x.frontText ++ ['/'])
    (htail : ¬ openingMark <:+: '*' :: '/' :: x.tail) (above : List LexedLine) :
    opensWithMarker ((x.lines (Text.splitAt '\n' body)).reverse ++ above) = true ↔
      docMark <+: '/' :: '*' :: lineText first := by
  have hbelow := not_openingMark_tail_lines hbody htail
  rw [hparts, lines_concat, List.tail_cons] at hbelow
  have hlines : (x.lines (Text.splitAt '\n' body)).reverse ++ above =
      (innerLines (x.number + 1) ts ++ [x.lastLine (x.number + 1 + ts.length) last]).reverse ++
        x.firstLine first :: above := by
    rw [hparts, lines_concat]
    simp
  have hopens : fromCommentStart? (x.firstLine first).line.text =
      some ('/' :: '*' :: lineText first) := fromCommentStart?_front hfront (lineText first)
  rw [hlines, opensWithMarker_append fun l hl => hbelow l (List.mem_reverse.1 hl),
    opensWithMarker, hopens]
  exact List.isPrefixOf_iff_prefix

/-- **The mark that is found** from the last line of such a comment on is the one of the comment, if
it is the first mark of its line and no mark comes after the comment. -/
theorem opensWithMarker_lines {body : List Char} (hbody : OpensOnce body)
    (hfront : ¬ openingMark <:+: x.frontText ++ ['/'])
    (htail : ¬ openingMark <:+: '*' :: '/' :: x.tail) (above : List LexedLine) :
    opensWithMarker ((x.lines (Text.splitAt '\n' body)).reverse ++ above) = true ↔
      docMark <+: (Element.blockComment body true).text := by
  have htext : (Element.blockComment body true).text = '/' :: '*' :: (body ++ ['*', '/']) := rfl
  rw [htext, docMark_prefix_iff]
  by_cases hmem : '\n' ∈ body
  · obtain ⟨first, rest, ts, last, rfl, hfirst, hparts⟩ := exists_splitAt hmem
    rw [opensWithMarker_severalLines hbody hparts hfront htail, docMark_prefix_iff]
    refine ⟨fun h => ?_, fun h => ?_⟩
    · refine (h.trans (lineText_prefix_self hfirst)).trans ?_
      rw [List.append_assoc]
      exact List.prefix_append first _
    · cases first with
      | nil => simp at h
      | cons c first =>
          obtain rfl : '*' = c := by simpa using h
          have hline := lineText_append [] (by decide : '*' ≠ '\r') (by decide) first
          rw [List.nil_append, List.nil_append] at hline
          rw [hline]
          exact ⟨lineText first, rfl⟩
  · have hlines : (x.lines (Text.splitAt '\n' body)).reverse ++ above =
        x.onlyLine body :: above := by
      rw [Text.splitAt_of_not_mem hmem]
      rfl
    have hopens : fromCommentStart? (x.onlyLine body).line.text =
        some ('/' :: '*' :: (body ++ '*' :: '/' :: x.tail)) := fromCommentStart?_front hfront _
    rw [hlines, opensWithMarker, hopens]
    refine (List.isPrefixOf_iff_prefix.trans docMark_prefix_iff).trans ?_
    cases body <;> simp

end CommentPlace

/-! ### The comment above a line -/

/-- After the end of a comment, white space holds no opening mark. -/
lemma not_openingMark_of_blank {t : List Char} (ht : ∀ c ∈ t, Text.isBlank c = true) :
    ¬ openingMark <:+: '*' :: '/' :: t := by
  have hstar : '*' ∉ t := fun h => by simpa [Text.isBlank] using ht '*' h
  rw [openingMark, List.infix_cons_iff, List.infix_cons_iff]
  rintro (h | h | h)
  · exact absurd (List.cons_prefix_cons.1 h).1 (by decide)
  · exact hstar ((List.cons_prefix_cons.1 h).2.subset List.mem_cons_self)
  · exact hstar (h.subset (by simp))

/-- The lines from one line upwards are as many lines of the text as its number says. -/
lemma cons_eq_reverse_of_number {text : List Char} {index : ℕ} {l : LexedLine}
    {passed above ls below : List LexedLine}
    (habove : ((lex text).take index).reverse = passed ++ l :: above)
    (hls : lex text = ls ++ below) (hnumber : l.line.number = ls.length) :
    l :: above = ls.reverse := by
  have htake : (lex text).take index = (l :: above).reverse ++ passed.reverse := by
    rw [← List.reverse_append, ← habove, List.reverse_reverse]
  have hsplit : lex text = (l :: above).reverse ++ (passed.reverse ++ (lex text).drop index) := by
    rw [← List.append_assoc, ← htake, List.take_append_drop]
  have hindex : (lex text)[above.length]? = some l := by
    have habove' : above.reverse.length = above.length := List.length_reverse
    rw [hsplit, List.reverse_cons, List.append_assoc, ← habove',
      List.getElem?_append_right le_rfl, Nat.sub_self]
    rfl
  have hlength : (l :: above).reverse.length = ls.length := by
    rw [← hnumber, number_of_getElem?_lex hindex, List.length_reverse, List.length_cons]
  rw [← List.append_inj_left (hsplit.symm.trans hls) hlength, List.reverse_reverse]

/-- **What stands above a documented line.** The first line above it that is not passed over ends
like a block comment, and the nearest opening mark from there on goes on with a star. If a block
comment closes at the end of this line, and no other opening mark stands on the lines of the
comment, then the comment opens as a documentation comment. -/
theorem comment_above_of_isDocumented {es : List Element} (hes : WellFormed es)
    {window cap index : ℕ} (h : isDocumented window cap (lex (render es)) index = true) :
    ∃ blanks passed l above, ((lex (render es)).take index).reverse = passed ++ l :: above ∧
      PassedOver blanks passed ∧ blanks ≤ window ∧ l.IsContent ∧ l.line.closesComment = true ∧
      (∃ below o further text, l :: above = below ++ o :: further ∧
        passed.length + below.length < cap ∧ (∀ k ∈ below, ¬ openingMark <:+: k.line.text) ∧
        fromCommentStart? o.line.text = some text ∧ docMark <+: text) ∧
      ∀ pre body post, es = pre ++ .blockComment body true :: post →
        l.line.number = (render pre).count '\n' + body.count '\n' + 1 →
        (∀ c ∈ (render post).takeWhile inLine, Text.isBlank c = true) →
        ¬ openingMark <:+: lastLineOf (render pre) ++ ['/'] → OpensOnce body →
          docMark <+: (Element.blockComment body true).text := by
  obtain ⟨blanks, passed, l, above, habove, hpassed, hblanks, hl, hends, hcap, hmark⟩ :=
    documentedBy_iff.1 h
  have hopens : opensWithMarker (l :: above) = true := by
    have hmono := opensWithMarker_take_mono (Nat.le_max_left _ (l :: above).length) hmark
    rwa [List.take_of_length_le (Nat.le_max_right _ _)] at hmono
  refine ⟨blanks, passed, l, above, habove, hpassed, hblanks, hl, hends, ?_,
    fun pre body post heq hnumber hblank hfront hbody => ?_⟩
  · obtain ⟨below, o, further, text, htake, hbelow, ho, htext⟩ := opensWithMarker_iff.1 hmark
    refine ⟨below, o, further ++ (l :: above).drop (cap - passed.length), text, ?_, ?_, hbelow, ho,
      htext⟩
    · rw [← List.cons_append, ← List.append_assoc, ← htake, List.take_append_drop]
    · have hlength := congrArg List.length htake
      simp only [List.length_take, List.length_append, List.length_cons] at hlength
      omega
  · subst heq
    obtain ⟨x, above', rest, -, hlength, hchars, htail, hlex⟩ := exists_lex_comment pre post
    have hlines := hlex body hes
    rw [← List.append_assoc] at hlines
    have hsame : l :: above = (above' ++ x.lines (Text.splitAt '\n' body)).reverse := by
      refine cons_eq_reverse_of_number habove hlines ?_
      rw [hnumber, List.length_append, x.length_lines, hlength, Nat.add_assoc]
    have hblank' := not_openingMark_of_blank fun c hc => hblank c (htail.subset hc)
    rw [hsame, List.reverse_append] at hopens
    rw [← hchars] at hfront
    exact (CommentPlace.opensWithMarker_lines hbody hfront hblank' above'.reverse).1 hopens

/-- A documentation comment above an annotation with an argument list and a blank line. -/
theorem comment_above_of_isDocumented_annotatedMethod :
    let body := "* a ".toList
    let es := Element.blockComment body true :: "\n@X(\n 1)\n\nint f();\n".toList.map .plain
    WellFormed es ∧ isDocumented 1 4 (lex (render es)) 4 = true ∧
      ∃ blanks ≤ 1, ∃ passed l above,
        ((lex (render es)).take 4).reverse = passed ++ l :: above ∧ PassedOver blanks passed ∧
          l.IsContent ∧ l.line.closesComment = true ∧ l.line.number = 1 ∧
          docMark <+: (Element.blockComment body true).text := by
  intro body es
  have hes : WellFormed es := by decide +kernel
  have hdocumented : isDocumented 1 4 (lex (render es)) 4 = true := by decide +kernel
  have hone : ∀ l ∈ lex (render es), l.line.closesComment = true → l.line.number = 1 := by
    decide +kernel
  obtain ⟨blanks, passed, l, above, habove, hpassed, hblanks, hl, hends, -, hcomment⟩ :=
    comment_above_of_isDocumented hes hdocumented
  have hmem : l ∈ (lex (render es)).take 4 := by
    rw [← List.mem_reverse, habove]
    simp
  have hnumber := hone l (List.mem_of_mem_take hmem) hends
  have hdoc := hcomment [] body _ rfl (by rw [hnumber]; decide)
    (List.all_eq_true.1 (by decide +kernel)) (by decide) (by decide)
  exact ⟨hes, hdocumented, blanks, hblanks, passed, l, above, habove, hpassed, hl, hends, hnumber,
    hdoc⟩

/-- A line comment documents what stands below it if it ends like a block comment and the nearest
opening mark goes on with a star. -/
theorem isDocumented_lineComment :
    let es := "class A \x7b\n    ".toList.map Element.plain ++
      .lineComment " see /** below */".toList ::
        "\n    public void run() \x7b\n    \x7d\n\x7d\n".toList.map .plain
    WellFormed es ∧ isDocumented 5 50 (lex (render es)) 2 = true ∧
      ∀ body closed, Element.blockComment body closed ∉ es := by
  intro es
  refine ⟨by decide +kernel, by decide +kernel, fun body closed hmem => ?_⟩
  rcases List.mem_append.1 hmem with hmem | hmem
  · obtain ⟨c, -, hc⟩ := List.mem_map.1 hmem
    cases hc
  · rcases List.mem_cons.1 hmem with hc | hmem
    · cases hc
    · obtain ⟨c, -, hc⟩ := List.mem_map.1 hmem
      cases hc

end QualityGate
