import QualityGate.Proofs.Documentation.Wording
import Mathlib.Tactic

/-!
How far up a documentation comment may stand. Between a declaration and a comment on lines of its
own there may be blank lines and annotations. The comment documents the declaration exactly if the
window covers the blank lines, the cap covers all lines from the first one of the comment on, and
the last line of the comment is not taken for an annotation. A text is given by its elements, of
which every text is made (`exists_wellFormed`).

* `documentedBy_append_iff`: what is passed over uses up neither more nor less than its share.
* `GapPart`: the parts of the gap between a comment and a declaration.
* `DocBlock`: a text with a documentation comment on lines of its own.
* `CommentPlace.StandsAlone.documentedBy_iff`: what such a comment takes of the cap.
* `isDocumented_iff_within_budgets`: **how far up a comment may stand**.
-/

namespace QualityGate

/-! ### The budgets of what is passed over -/

/-- Without a cap nothing is found. -/
lemma documentedBy_zero (window : ℕ) (ls : List LexedLine) : documentedBy window 0 ls = false := by
  cases ls <;> simp [documentedBy]

/-- The cap covers an argument list that is passed over. -/
lemma ArgumentList.length_lt {args : List LexedLine} {owner : LexedLine}
    (h : ArgumentList args owner) {window cap : ℕ} {above : List LexedLine}
    (hdoc : QualityGate.documentedBy window cap (args ++ owner :: above) = true) :
    args.length < cap := by
  obtain ⟨hne, hcloses, hopens, howner⟩ := h
  cases args with
  | nil => exact absurd rfl hne
  | cons l args =>
      obtain ⟨hl, hcloses⟩ := forall_parensAfter_cons_neg.1 hcloses
      rw [List.length_cons, parensAfter_cons] at hopens
      obtain _ | cap := cap
      · rw [documentedBy_zero] at hdoc
        cases hdoc
      rw [List.cons_append] at hdoc
      cases hargs : aboveArguments? cap l.scan.parenDelta (args ++ owner :: above) with
      | none =>
          rw [documentedBy_unowned hl hargs] at hdoc
          cases hdoc
      | some found =>
          -- With a cap that certainly suffices, the same annotation is found.
          obtain ⟨left, -, hlarge⟩ := aboveArguments?_mono (Nat.le_add_left cap (args.length + 1))
            hargs
          have hwhole : aboveArguments? (args.length + 1 + cap) l.scan.parenDelta
              (args ++ owner :: above) = some (above, cap) :=
            aboveArguments?_eq_some_iff.2 ⟨args, owner, rfl, hcloses, hopens, howner, rfl⟩
          obtain ⟨rfl, -⟩ := Prod.mk.inj (Option.some.inj (hlarge.symm.trans hwhole))
          obtain ⟨args', owner', heq, -, -, -, rfl⟩ := aboveArguments?_eq_some_iff.1 hargs
          have hlength := congrArg List.length heq
          simp only [List.length_append, List.length_cons] at hlength ⊢
          omega

/-- The budgets cover what is passed over. -/
lemma PassedOver.le_of_documentedBy {blanks : ℕ} {passed : List LexedLine}
    (h : PassedOver blanks passed) {window cap : ℕ} {above : List LexedLine}
    (hdoc : documentedBy window cap (passed ++ above) = true) :
    blanks ≤ window ∧ passed.length ≤ cap := by
  induction h generalizing window cap with
  | nil => exact ⟨Nat.zero_le _, Nat.zero_le _⟩
  | @blank n l ls hparens hblank _ ih =>
      have hnone : ¬ l.line.isAnnotation = true := by
        simp [Line.isAnnotation_of_isBlank hblank]
      obtain _ | cap := cap
      · rw [documentedBy_zero] at hdoc
        cases hdoc
      obtain _ | window := window
      · simp [documentedBy, not_lt.2 hparens, hnone, hblank] at hdoc
      rw [List.cons_append, documentedBy_blank (not_lt.2 hparens) hnone hblank] at hdoc
      exact (ih hdoc).imp Nat.succ_le_succ Nat.succ_le_succ
  | @annotated n l ls hparens hl _ ih =>
      obtain _ | cap := cap
      · rw [documentedBy_zero] at hdoc
        cases hdoc
      rw [List.cons_append, documentedBy_annotated (not_lt.2 hparens) hl] at hdoc
      exact (ih hdoc).imp id Nat.succ_le_succ
  | @arguments n args owner ls hargs _ ih =>
      rw [List.append_assoc, List.cons_append] at hdoc
      obtain ⟨left, rfl⟩ := Nat.exists_eq_add_of_le (Nat.succ_le_of_lt (hargs.length_lt hdoc))
      rw [hargs.documentedBy] at hdoc
      obtain ⟨hwindow, hcap⟩ := ih hdoc
      refine ⟨hwindow, ?_⟩
      rw [List.length_append, List.length_cons]
      omega

/-- **What is passed over uses up its share** of the two budgets, one unit of the window for each
blank line and one of the cap for each line, and what is left of them decides. -/
theorem documentedBy_append_iff {blanks : ℕ} {passed : List LexedLine}
    (h : PassedOver blanks passed) {window cap : ℕ} {above : List LexedLine} :
    documentedBy window cap (passed ++ above) = true ↔ blanks ≤ window ∧ passed.length ≤ cap ∧
      documentedBy (window - blanks) (cap - passed.length) above = true := by
  have hshare (hwindow : blanks ≤ window) (hcap : passed.length ≤ cap) :
      documentedBy window cap (passed ++ above) =
        documentedBy (window - blanks) (cap - passed.length) above := by
    have hspent := documentedBy_append h (window - blanks) (cap - passed.length) above
    rwa [Nat.add_sub_cancel' hwindow, Nat.add_sub_cancel' hcap] at hspent
  constructor
  · intro hdoc
    obtain ⟨hwindow, hcap⟩ := h.le_of_documentedBy hdoc
    exact ⟨hwindow, hcap, hshare hwindow hcap ▸ hdoc⟩
  · rintro ⟨hwindow, hcap, hdoc⟩
    rwa [hshare hwindow hcap]

/-! ### The gap -/

/-- A part of the gap between a comment and a declaration. -/
inductive GapPart where
  | blank (l : LexedLine)
  | annotated (l : LexedLine)
  /-- An annotation with the lines of its arguments below it. -/
  | arguments (owner : LexedLine) (args : List LexedLine)

namespace GapPart

/-- The lines of a part. -/
def lines : GapPart → List LexedLine
  | blank l | annotated l => [l]
  | arguments owner args => owner :: args

/-- The part is a blank line, which is in no argument list. -/
def isBlank : GapPart → Bool
  | blank _ => true
  | annotated _ | arguments _ _ => false

/-- The lines of a part are what they are said to be. -/
def Fits : GapPart → Prop
  | blank l => l.line.isBlank = true
  | annotated l => l.line.isAnnotation = true ∧ 0 ≤ l.scan.parenDelta
  | arguments owner args => ArgumentList args.reverse owner

end GapPart

/-- On a blank line there is only white space. -/
lemma Line.forall_isBlank {l : Line} (h : l.isBlank = true) :
    ∀ c ∈ l.text, Text.isBlank c = true := by
  have htrimmed : Text.trimEnd (Text.trimStart l.text) = [] := List.isEmpty_iff.1 h
  rw [Text.trimEnd, List.reverse_eq_nil_iff] at htrimmed
  intro c hc
  rw [← Text.trimStart_append l.text] at hc
  rcases List.mem_append.1 hc with hc | hc
  · exact List.all_eq_true.1 List.all_takeWhile c hc
  · exact Text.trimStart_eq_nil.1 htrimmed c (List.mem_reverse.2 hc)

/-- A blank line of a text has no parentheses. -/
lemma parenDelta_of_isBlank {text : List Char} {l : LexedLine} (hl : l ∈ lex text)
    (hblank : l.line.isBlank = true) : l.scan.parenDelta = 0 := by
  rw [scan_of_mem_lex hl]
  refine parenDelta_of_blank l.entry fun m hm _ => Line.forall_isBlank hblank m.char ?_
  rw [← map_char_marksFrom l.entry l.line.text]
  exact List.mem_map_of_mem hm

/-- Below what is passed over, more may be passed over. -/
lemma PassedOver.append {n m : ℕ} {ls ks : List LexedLine} (h : PassedOver n ls)
    (hks : PassedOver m ks) : PassedOver (n + m) (ls ++ ks) := by
  induction h with
  | nil => rwa [Nat.zero_add]
  | blank hparens hblank _ ih =>
      rw [Nat.add_right_comm]
      exact .blank hparens hblank ih
  | annotated hparens hl _ ih => exact .annotated hparens hl ih
  | arguments hargs _ ih =>
      rw [List.append_assoc]
      exact .arguments hargs ih

/-- The gap is passed over, going up from its last line. -/
lemma passedOver_gap (text : List Char) {gap : List GapPart} (hgap : ∀ p ∈ gap, p.Fits)
    (hlines : ∀ l ∈ gap.flatMap GapPart.lines, l ∈ lex text) :
    PassedOver (gap.countP GapPart.isBlank) (gap.flatMap GapPart.lines).reverse := by
  induction gap with
  | nil => exact .nil
  | cons p gap ih =>
      obtain ⟨hp, hgap⟩ := List.forall_mem_cons.1 hgap
      rw [List.flatMap_cons] at hlines ⊢
      have hbelow := ih hgap fun l hl => hlines l (List.mem_append_right _ hl)
      rw [List.countP_cons, List.reverse_append]
      refine hbelow.append ?_
      cases p with
      | blank l =>
          have hmem := hlines l (List.mem_append_left _ List.mem_cons_self)
          exact .blank (parenDelta_of_isBlank hmem hp).ge hp .nil
      | annotated l => exact .annotated hp.2 hp.1 .nil
      | arguments owner args =>
          have hlist : (GapPart.arguments owner args).lines.reverse = args.reverse ++ [owner] :=
            List.reverse_cons
          rw [hlist]
          exact .arguments hp .nil

/-! ### The lines of a comment -/

/-- A line without a closing mark does not end like a comment. -/
lemma Line.closesComment_of_not_infix {l : Line} (h : ¬ ['*', '/'] <:+: l.text) :
    l.closesComment = false := by
  rw [Bool.eq_false_iff]
  intro hcloses
  have hsuffix : ['*', '/'] <:+ Text.trimEnd (Text.trimStart l.text) :=
    List.isSuffixOf_iff_suffix.1 hcloses
  have hend := (trimEnd_prefix_self (Text.trimStart l.text)).isInfix
  exact h ((hsuffix.isInfix.trans hend).trans (List.dropWhile_suffix _).isInfix)

/-- A line that ends like a comment is not blank. -/
lemma Line.isBlank_of_closesComment {l : Line} (h : l.closesComment = true) :
    l.isBlank = false := by
  have hsuffix : ['*', '/'] <:+ l.trimmed := List.isSuffixOf_iff_suffix.1 h
  rw [isBlank, List.isEmpty_eq_false_iff]
  intro hnil
  rw [hnil] at hsuffix
  simp at hsuffix

/-- If the lines of a comment below its first one have no opening mark, then the mark of a
documentation comment is found exactly if its line is looked at. -/
lemma opensWithMarker_take_iff {below : List LexedLine} {first : LexedLine} {text : List Char}
    (hbelow : ∀ l ∈ below, ¬ openingMark <:+: l.line.text)
    (hfirst : fromCommentStart? first.line.text = some text) (hdoc : docMark <+: text)
    (above : List LexedLine) (n : ℕ) :
    opensWithMarker ((below ++ first :: above).take n) = true ↔ below.length < n := by
  rcases Nat.lt_or_ge below.length n with hlt | hge
  · obtain ⟨k, rfl⟩ := Nat.exists_eq_add_of_lt hlt
    rw [Nat.add_assoc, List.take_length_add_append, opensWithMarker_append hbelow,
      List.take_succ_cons, opensWithMarker, hfirst]
    exact iff_of_true (List.isPrefixOf_iff_prefix.2 hdoc) (by omega)
  · rw [List.take_append_of_le_length hge, ← List.append_nil (below.take n),
      opensWithMarker_append fun l hl => hbelow l (List.mem_of_mem_take hl)]
    exact iff_of_false (by simp [opensWithMarker]) (by omega)

/-- Lines document nothing if the first one that decides does not end like a comment, and none of
those in front of it does. -/
lemma documentedBy_eq_false {ls : List LexedLine} {l : LexedLine}
    (hls : ∀ k ∈ ls, 0 ≤ k.scan.parenDelta ∧ k.line.closesComment = false) (hl : l.IsContent)
    (hends : l.line.closesComment = false) (window cap : ℕ) (above : List LexedLine) :
    documentedBy window cap (ls ++ l :: above) = false := by
  induction ls generalizing window cap with
  | nil =>
      obtain _ | cap := cap
      · exact documentedBy_zero _ _
      rw [List.nil_append, documentedBy_content hl, hends, Bool.false_and]
  | cons k ls ih =>
      obtain ⟨⟨hparens, hk⟩, hls⟩ := List.forall_mem_cons.1 hls
      have hparens := not_lt.2 hparens
      obtain _ | cap := cap
      · exact documentedBy_zero _ _
      rw [List.cons_append]
      by_cases hannotated : k.line.isAnnotation = true
      · rw [documentedBy_annotated hparens hannotated, ih hls]
      by_cases hblank : k.line.isBlank = true
      · obtain _ | window := window
        · simp [documentedBy, hparens, hannotated, hblank]
        · rw [documentedBy_blank hparens hannotated hblank, ih hls]
      · rw [documentedBy_other hparens hannotated hblank, hk, Bool.false_and]

namespace CommentPlace

variable {x : CommentPlace} {body : List Char}

/-- The first line of a documentation comment. -/
lemma exists_lines_cons (hdoc : docMark <+: (Element.blockComment body true).text) :
    ∃ first below t, x.lines (Text.splitAt '\n' body) = first :: below ∧
      first.line.text = x.frontText ++ '/' :: '*' :: '*' :: t := by
  rw [Element.text, docMark] at hdoc
  cases body with
  | nil => exact ⟨_, _, '/' :: x.tail, rfl, by simp [onlyLine]⟩
  | cons c body =>
      obtain rfl : '*' = c := by simpa using hdoc
      obtain ⟨t, inside, -, hlines⟩ := exists_doc_lines x body
      exact ⟨_, _, t, hlines, rfl⟩

namespace StandsAlone

variable (h : x.StandsAlone)

include h

/-- On the lines of such a comment there are no parentheses. -/
lemma parenDelta_lines : ∀ l ∈ x.lines (Text.splitAt '\n' body), l.scan.parenDelta = 0 := by
  have hfront : ∀ m ∈ x.front, m.region = .code → Text.isBlank m.char = true :=
    fun m hm _ => h.front m.char (List.mem_map_of_mem hm)
  by_cases hmem : '\n' ∈ body
  · obtain ⟨first, rest, ts, last, -, -, hparts⟩ := exists_splitAt hmem
    rw [hparts, lines_concat]
    intro l hl
    rcases List.mem_cons.1 hl with rfl | hl
    · exact parenDelta_of_blank x.state hfront
    rcases List.mem_append.1 hl with hl | hl
    · obtain ⟨k, text, -, rfl⟩ := exists_of_mem_innerLines hl
      rfl
    · obtain rfl := List.mem_singleton.1 hl
      exact parenDelta_of_blank .blockComment h.after
  · rw [Text.splitAt_of_not_mem hmem]
    intro l hl
    obtain rfl := List.mem_singleton.1 hl
    refine parenDelta_of_blank x.state fun m hm => ?_
    exact (List.mem_append.1 hm).elim (hfront m) (h.after m)

/-- The last line ends like a comment. -/
lemma closesComment_getLast {l : LexedLine}
    (hl : (x.lines (Text.splitAt '\n' body)).getLast? = some l) : l.line.closesComment = true := by
  by_cases hmem : '\n' ∈ body
  · obtain ⟨first, rest, ts, last, -, -, hparts⟩ := exists_splitAt hmem
    rw [hparts, lines_concat, ← List.cons_append, List.getLast?_concat] at hl
    cases hl
    exact h.closesComment _ _
  · rw [Text.splitAt_of_not_mem hmem] at hl
    cases hl
    have hends := h.closesComment x.number (x.frontText ++ '/' :: '*' :: body)
    simpa [onlyLine] using hends

/-- The line on which a documentation comment of several lines starts does not. -/
lemma closesComment_firstLine {first : List Char} (hline : '\n' ∉ first)
    (hfirst : ¬ ['*', '/'] <:+: '*' :: first) :
    (x.firstLine ('*' :: first)).line.closesComment = false := by
  have htext : lineText ('*' :: first) = '*' :: lineText first :=
    lineText_append [] (by decide) (by decide) first
  have htrimmed : (x.firstLine ('*' :: first)).line.trimmed =
      '/' :: '*' :: '*' :: Text.trimEnd (lineText first) := by
    rw [Line.trimmed, firstLine, htext, trim_append_doc, Text.trimStart_eq_nil.2 h.front,
      List.nil_append]
  have hend : Text.trimEnd (lineText first) <+: first :=
    (trimEnd_prefix_self (lineText first)).trans (lineText_prefix_self hline)
  rw [Bool.eq_false_iff, Line.closesComment, htrimmed]
  intro hsuffix
  have hsuffix := List.isSuffixOf_iff_suffix.1 hsuffix
  rw [List.suffix_cons_iff, List.suffix_cons_iff] at hsuffix
  rcases hsuffix with hsuffix | hsuffix | hsuffix
  · simp at hsuffix
  · simp at hsuffix
  · exact hfirst (hsuffix.isInfix.trans (List.cons_prefix_cons.2 ⟨rfl, hend⟩).isInfix)

/-- Only the last line of a documentation comment ends like a comment. -/
lemma closesComment_dropLast (hbody : ¬ ['*', '/'] <:+: body)
    (hdoc : docMark <+: (Element.blockComment body true).text) :
    ∀ l ∈ (x.lines (Text.splitAt '\n' body)).dropLast, l.line.closesComment = false := by
  by_cases hmem : '\n' ∈ body
  · obtain ⟨first, rest, ts, last, rfl, hfirst, hparts⟩ := exists_splitAt hmem
    have hpart (p : List Char) (hp : p ∈ first :: (ts ++ [last])) :
        '\n' ∉ p ∧ ¬ ['*', '/'] <:+: p := by
      rw [← hparts] at hp
      exact ⟨newline_not_mem_of_mem_splitAt hp, not_closes_part hbody (infix_of_mem_splitAt hp)⟩
    rw [hparts, lines_concat, ← List.cons_append, List.dropLast_concat]
    intro l hl
    rcases List.mem_cons.1 hl with rfl | hl
    · cases first with
      | nil => simp [Element.text, docMark] at hdoc
      | cons c first =>
          obtain rfl : '*' = c := by simpa [Element.text, docMark] using hdoc
          exact h.closesComment_firstLine (fun hmem => hfirst (List.mem_cons_of_mem _ hmem))
            (hpart _ List.mem_cons_self).2
    · obtain ⟨k, text, htext, rfl⟩ := exists_of_mem_innerLines hl
      obtain ⟨hline, htext⟩ := hpart text (by simp [htext])
      refine Line.closesComment_of_not_infix ?_
      exact not_closes_part htext (lineText_prefix_self hline).isInfix
  · rw [Text.splitAt_of_not_mem hmem]
    exact fun l hl => absurd hl List.not_mem_nil

/-- The line on which such a comment starts is not passed over. -/
lemma isContent_first {first : LexedLine} {t : List Char}
    (hmem : first ∈ x.lines (Text.splitAt '\n' body))
    (htext : first.line.text = x.frontText ++ '/' :: '*' :: '*' :: t) : first.IsContent := by
  have hline : first.line = ⟨first.line.number, x.frontText ++ '/' :: '*' :: '*' :: t⟩ := by
    rw [← htext]
  refine ⟨(h.parenDelta_lines first hmem).ge, ?_, ?_⟩
  · rw [hline, isAnnotation_of_doc, Text.trimStart_eq_nil.2 h.front]
    rfl
  · rw [hline, isBlank_of_doc]

variable (hdoc : docMark <+: (Element.blockComment body true).text) {l : LexedLine}
  (hl : (x.lines (Text.splitAt '\n' body)).getLast? = some l)

include hdoc hl

/-- If the last line of a comment is taken for an annotation, then the comment documents nothing:
this line is passed over, and none of those above it ends like a comment. -/
lemma documentedBy_of_isAnnotation (hbody : ¬ ['*', '/'] <:+: body)
    (hannotated : l.line.isAnnotation = true) (above : List LexedLine) (window cap : ℕ) :
    QualityGate.documentedBy window cap ((x.lines (Text.splitAt '\n' body)).reverse ++ above) =
      false := by
  have hparens : ∀ k ∈ x.lines (Text.splitAt '\n' body), k.scan.parenDelta = 0 :=
    h.parenDelta_lines
  have hothers := h.closesComment_dropLast hbody hdoc
  obtain ⟨first, below, t, hlines, htext⟩ := exists_lines_cons (x := x) hdoc
  have hfirst := h.isContent_first (hlines ▸ List.mem_cons_self) htext
  obtain ⟨others, heq⟩ := List.getLast?_eq_some_iff.1 hl
  rw [heq, List.dropLast_concat] at hothers
  rw [heq] at hparens
  cases others with
  | nil =>
      obtain ⟨rfl, -⟩ := List.cons.inj (heq.symm.trans hlines)
      rw [hfirst.2.1] at hannotated
      cases hannotated
  | cons o inner =>
      obtain ⟨rfl, -⟩ := List.cons.inj (heq.symm.trans hlines)
      have hinner : ∀ k ∈ inner.reverse,
          0 ≤ k.scan.parenDelta ∧ k.line.closesComment = false := by
        intro k hk
        have hk := List.mem_cons_of_mem o (List.mem_reverse.1 hk)
        exact ⟨(hparens k (List.mem_append_left _ hk)).ge, hothers k hk⟩
      have hreverse : (o :: inner ++ [l]).reverse ++ above =
          l :: (inner.reverse ++ o :: above) := by simp
      rw [heq, hreverse]
      obtain _ | cap := cap
      · exact documentedBy_zero _ _
      have hl' : ¬ l.scan.parenDelta < 0 := (hparens l (by simp)).not_lt
      rw [documentedBy_annotated hl' hannotated]
      exact documentedBy_eq_false hinner hfirst (hothers o List.mem_cons_self) _ _ _

/-- Otherwise the comment documents what is directly below it exactly if the cap covers its
lines. -/
lemma documentedBy_of_not_isAnnotation (honce : OpensOnce body)
    (hannotated : l.line.isAnnotation = false) (above : List LexedLine) (window cap : ℕ) :
    QualityGate.documentedBy window cap ((x.lines (Text.splitAt '\n' body)).reverse ++ above) =
      true ↔ body.count '\n' < cap := by
  obtain _ | cap := cap
  · rw [documentedBy_zero]
    simp
  have hbelow := not_openingMark_tail_lines honce (not_openingMark_of_blank h.tail)
  have hlength := x.length_lines body
  obtain ⟨first, below, t, hlines, htext⟩ := exists_lines_cons (x := x) hdoc
  have hmark := fromCommentStart?_front h.not_openingMark_front ('*' :: t)
  rw [← htext] at hmark
  rw [hlines, List.tail_cons] at hbelow
  rw [hlines, List.length_cons] at hlength
  have hcloses := h.closesComment_getLast hl
  obtain ⟨others, heq⟩ := List.getLast?_eq_some_iff.1 hl
  have hmem : l ∈ x.lines (Text.splitAt '\n' body) := by
    rw [heq]
    simp
  have hcontent : l.IsContent :=
    ⟨(h.parenDelta_lines l hmem).ge, hannotated, Line.isBlank_of_closesComment hcloses⟩
  have hreverse : (x.lines (Text.splitAt '\n' body)).reverse ++ above =
      l :: (others.reverse ++ above) := by
    rw [heq]
    simp
  rw [hreverse, documentedBy_content hcontent, hcloses, Bool.true_and, ← hreverse, hlines,
    List.reverse_cons, List.append_assoc, List.singleton_append,
    opensWithMarker_take_iff (fun k hk => hbelow k (List.mem_reverse.1 hk)) hmark ⟨t, rfl⟩,
    List.length_reverse, Nat.succ.inj hlength]

/-- **What a comment takes of the cap.** A documentation comment that stands alone documents what is
directly below it exactly if the cap covers its lines, unless its last line is taken for an
annotation. -/
theorem documentedBy_iff (hbody : ¬ ['*', '/'] <:+: body) (honce : OpensOnce body)
    (above : List LexedLine) (window cap : ℕ) :
    QualityGate.documentedBy window cap ((x.lines (Text.splitAt '\n' body)).reverse ++ above) =
      true ↔ l.line.isAnnotation = false ∧ body.count '\n' < cap := by
  cases hannotated : l.line.isAnnotation with
  | true => simp [h.documentedBy_of_isAnnotation hdoc hl hbody hannotated]
  | false => simp [h.documentedBy_of_not_isAnnotation hdoc hl honce hannotated]

end StandsAlone

end CommentPlace

/-! ### Where a comment may stand -/

/-- A text with a documentation comment on lines of its own: the elements above the comment, its
body, and the elements below it. Only the first line of the comment has an opening mark. -/
structure DocBlock where
  pre : List Element
  body : List Char
  post : List Element
  wellFormed : WellFormed (pre ++ .blockComment body true :: post)
  doc : docMark <+: (Element.blockComment body true).text
  opensOnce : OpensOnce body
  front : ∀ c ∈ lastLineOf (render pre), Text.isBlank c = true
  tail : ∀ c ∈ (render post).takeWhile inLine, Text.isBlank c = true

namespace DocBlock

/-- The text with the comment. -/
def text (b : DocBlock) : List Char := render (b.pre ++ .blockComment b.body true :: b.post)

/-- The index of the first line of the comment. -/
def first (b : DocBlock) : ℕ := (render b.pre).count '\n'

/-- The index of the last line of the comment. -/
def last (b : DocBlock) : ℕ := b.first + b.body.count '\n'

/-- The lines of the text down to the comment, and its last line. -/
lemma exists_place (b : DocBlock) :
    ∃ (x : CommentPlace) (above : List LexedLine) (l : LexedLine), x.StandsAlone ∧
      (x.lines (Text.splitAt '\n' b.body)).getLast? = some l ∧ (lex b.text)[b.last]? = some l ∧
        (lex b.text).take (b.last + 1) = above ++ x.lines (Text.splitAt '\n' b.body) := by
  obtain ⟨x, above, rest, -, habove, hfront, htail, hlex⟩ := exists_lex_comment b.pre b.post
  have hlength := x.length_lines b.body
  have hlast : b.last + 1 = above.length + (x.lines (Text.splitAt '\n' b.body)).length := by
    rw [last, first, habove, hlength, Nat.add_assoc]
  have htake : (lex b.text).take (b.last + 1) = above ++ x.lines (Text.splitAt '\n' b.body) := by
    rw [text, hlex b.body b.wellFormed, hlast, List.take_length_add_append, List.take_left]
  obtain ⟨l, hl⟩ : ∃ l, (x.lines (Text.splitAt '\n' b.body)).getLast? = some l := by
    rw [← Option.isSome_iff_exists, List.getLast?_isSome, ← List.length_pos_iff, hlength]
    exact Nat.succ_pos _
  refine ⟨x, above, l, ⟨fun c hc => b.front c (hfront ▸ hc), fun c hc => ?_⟩, hl, ?_, htake⟩
  · exact b.tail c (htail.subset hc)
  · rw [← List.getElem?_take_of_lt (Nat.lt_succ_self b.last), htake]
    obtain ⟨others, heq⟩ := List.getLast?_eq_some_iff.1 hl
    have hindex : b.last = (above ++ others).length := by
      rw [heq] at hlast
      simp only [List.length_append, List.length_singleton] at hlast ⊢
      omega
    rw [heq, ← List.append_assoc, hindex, List.getElem?_concat_length]

end DocBlock

/-- **How far up a comment may stand.** Let the lines between a documentation comment and a line
below it be blank lines, annotations, and annotations with lines of arguments. Then the comment
documents the line exactly if the window covers the blank lines that are in no argument list, the
cap covers all lines from the first one of the comment on, and the last line of the comment is not
taken for an annotation. -/
theorem isDocumented_iff_within_budgets (b : DocBlock) {gap : List GapPart}
    (hgap : ∀ p ∈ gap, p.Fits) {index : ℕ} (hlast : b.last < index)
    (hindex : index < (lex b.text).length)
    (hlines : ((lex b.text).take index).drop (b.last + 1) = gap.flatMap GapPart.lines)
    (window cap : ℕ) :
    isDocumented window cap (lex b.text) index = true ↔
      (∀ l ∈ (lex b.text)[b.last]?, l.line.isAnnotation = false) ∧
        gap.countP GapPart.isBlank ≤ window ∧ index - b.first ≤ cap := by
  obtain ⟨x, above, l, halone, hl, hget, htake⟩ := b.exists_place
  have hbody : ¬ ['*', '/'] <:+: b.body := b.wellFormed.of_append.1.1
  have habove : ((lex b.text).take index).reverse = (gap.flatMap GapPart.lines).reverse ++
      ((x.lines (Text.splitAt '\n' b.body)).reverse ++ above.reverse) := by
    have htake' : ((lex b.text).take index).take (b.last + 1) =
        above ++ x.lines (Text.splitAt '\n' b.body) := by
      rw [List.take_take, min_eq_left (Nat.succ_le_of_lt hlast), htake]
    rw [← List.reverse_append, ← List.reverse_append, ← htake', ← hlines, List.take_append_drop]
  have hpassed : PassedOver (gap.countP GapPart.isBlank) (gap.flatMap GapPart.lines).reverse := by
    refine passedOver_gap b.text hgap fun k hk => ?_
    rw [← hlines] at hk
    exact List.mem_of_mem_take (List.mem_of_mem_drop hk)
  have hlength : (gap.flatMap GapPart.lines).reverse.length = index - (b.last + 1) := by
    rw [List.length_reverse, ← hlines, List.length_drop, List.length_take_of_le hindex.le]
  have hannotated : (∀ k ∈ (lex b.text)[b.last]?, k.line.isAnnotation = false) ↔
      l.line.isAnnotation = false := by
    rw [hget]
    simp
  have hcap : index - (b.last + 1) ≤ cap ∧ b.body.count '\n' < cap - (index - (b.last + 1)) ↔
      index - b.first ≤ cap := by
    rw [DocBlock.last] at hlast ⊢
    omega
  rw [isDocumented, habove, documentedBy_append_iff hpassed,
    halone.documentedBy_iff b.doc hl hbody b.opensOnce, hannotated, hlength, ← hcap]
  tauto

/-- A comment above a blank line, an annotation, and an annotation with arguments on two lines. -/
def annotatedBlock : DocBlock where
  pre := []
  body := "*\n * Doc.\n ".toList
  post := "\n\n@A\n@B(\n    x)\nvoid f();\n".toList.map .plain
  wellFormed := by decide +kernel
  doc := by decide
  opensOnce := by decide
  front := List.all_eq_true.1 (by decide)
  tail := List.all_eq_true.1 (by decide +kernel)

/-- The lines between this comment and the method. -/
def annotatedGap : List GapPart :=
  [.blank ⟨⟨4, []⟩, .code, .empty .code⟩,
    .annotated ⟨⟨5, "@A".toList⟩, .code, { Scan.empty .code with code := "@A".toList }⟩,
    .arguments
      ⟨⟨6, "@B(".toList⟩, .code, { Scan.empty .code with parenDelta := 1, code := "@B(".toList }⟩
      [⟨⟨7, "    x)".toList⟩, .code,
        { Scan.empty .code with parenDelta := -1, code := "    x)".toList }⟩]]

/-- The window has to cover the blank line, and the cap the seven lines above the method. -/
theorem isDocumented_iff_within_budgets_annotatedBlock :
    (∀ p ∈ annotatedGap, p.Fits) ∧ annotatedBlock.last < 7 ∧
      7 < (lex annotatedBlock.text).length ∧
      ((lex annotatedBlock.text).take 7).drop (annotatedBlock.last + 1) =
        annotatedGap.flatMap GapPart.lines ∧
      ∀ window cap, isDocumented window cap (lex annotatedBlock.text) 7 = true ↔
        1 ≤ window ∧ 7 ≤ cap := by
  have hgap : ∀ p ∈ annotatedGap, p.Fits := by
    refine List.forall_mem_cons.2 ⟨rfl, List.forall_mem_cons.2 ⟨⟨by decide, le_rfl⟩,
      List.forall_mem_singleton.2 ⟨by simp, fun n hpos hn => ?_, by decide, by decide⟩⟩⟩
    obtain rfl : n = 1 := le_antisymm hn hpos
    decide
  have hlast : annotatedBlock.last < 7 := by decide +kernel
  have hindex : 7 < (lex annotatedBlock.text).length := by decide +kernel
  have hlines : ((lex annotatedBlock.text).take 7).drop (annotatedBlock.last + 1) =
      annotatedGap.flatMap GapPart.lines := by decide +kernel
  have hclosing : ∀ l ∈ (lex annotatedBlock.text)[annotatedBlock.last]?,
      l.line.isAnnotation = false := by decide +kernel
  refine ⟨hgap, hlast, hindex, hlines, fun window cap => ?_⟩
  have hbudgets :=
    isDocumented_iff_within_budgets annotatedBlock hgap hlast hindex hlines window cap
  exact hbudgets.trans (and_iff_right hclosing)

/-- A comment the last line of which starts with a tag, directly above a method. -/
def tagBlock : DocBlock where
  pre := "class A \x7b\n    ".toList.map .plain
  body := "*\n     Adds two numbers.\n     @return the sum ".toList
  post := "\n    public int sum(int a, int b) \x7b\n        return a + b;\n    \x7d\n\x7d\n".toList.map
    .plain
  wellFormed := by decide +kernel
  doc := by decide
  opensOnce := by decide
  front := List.all_eq_true.1 (by decide)
  tail := List.all_eq_true.1 (by decide +kernel)

/-- The last line of a comment is taken for an annotation if it starts like one, and then the
comment documents nothing, whatever the budgets cover. -/
theorem isDocumented_tagBlock :
    tagBlock.last + 1 = 4 ∧ 4 < (lex tagBlock.text).length ∧
      ((lex tagBlock.text).take 4).drop (tagBlock.last + 1) = [] ∧ 4 - tagBlock.first ≤ 50 ∧
      isDocumented 5 50 (lex tagBlock.text) 4 = false := by
  decide +kernel

end QualityGate
