import QualityGate.Proofs.Rule.Comparison
import QualityGate.Proofs.Source.Uncommented
import QualityGate.Rule.Scan
import Mathlib.Tactic

/-!
The rules about banned calls and about comparisons with literals, on lines with the content of their
literals and text blocks crossed out. Both rules search the code of a line, literals included.

* `isExemptCode_of_sameShape`, `isComment_render_of_sameShape`: the same lines are left alone.
* `map_line_ruleViolations`: which lines a rule reports that looks at each line alone.
* `mem_reportedLines_blanked`: **the same lines are reported**, but for lines on which what is
  looked for stands in the content of a literal.
-/

namespace QualityGate

open Regex HardcodedLiteral

/-! ### Lines that are left alone -/

lemma occursIn_iff {w s : List Char} : occursIn w s = true ↔ w <:+: s := by
  induction s with
  | nil => simp [occursIn]
  | cons c s ih =>
      rw [occursIn, Bool.or_eq_true, ih, List.infix_cons_iff, List.isPrefixOf_iff_prefix]

/-- A word of code: it does not start with white space, and there are no quotes in it. -/
structure IsWord (w : List Char) : Prop where
  ne_nil : w ≠ []
  head : ∀ c ∈ w.head?, Text.isBlank c = false
  quoteFree : QuoteFree w

instance (w : List Char) : Decidable (IsWord w) :=
  decidable_of_iff (w ≠ [] ∧ (∀ c ∈ w.head?, Text.isBlank c = false) ∧ ∀ c ∈ w, ¬ IsQuote c)
    ⟨fun h => ⟨h.1, h.2.1, h.2.2⟩, fun h => ⟨h.1, h.2, h.3⟩⟩

/-- White space in front of a word is all that is dropped. -/
lemma IsWord.trimStart_append {w : List Char} (hw : IsWord w) (u v : List Char) :
    Text.trimStart (u ++ (w ++ v)) = Text.trimStart u ++ (w ++ v) := by
  obtain ⟨c, w, rfl⟩ := List.exists_cons_of_ne_nil hw.ne_nil
  exact trimStart_append_cons (hw.head c rfl) u (w ++ v)

/-- A word occurs in what is left without the leading white space. -/
lemma IsWord.infix_trimStart_iff {w s : List Char} (hw : IsWord w) :
    w <:+: Text.trimStart s ↔ w <:+: s := by
  constructor
  · exact fun h => h.trans (List.dropWhile_suffix _).isInfix
  · rintro ⟨u, v, rfl⟩
    rw [List.append_assoc, hw.trimStart_append]
    exact ⟨Text.trimStart u, v, List.append_assoc _ _ _⟩

/-- The code of a line on which a literal is in place. -/
def isExemptCode (s : List Char) : Bool :=
  "import ".toList.isPrefixOf (Text.trimStart s) ||
    "package ".toList.isPrefixOf (Text.trimStart s) ||
    occursIn "static final".toList (Text.trimStart s) ||
    occursIn "final static".toList (Text.trimStart s)

lemma isExempt_eq (l : LexedLine) : isExempt l = (l.isComment || isExemptCode l.code) := by
  simp only [isExempt, isExemptCode, Bool.or_assoc]

section SameShape

variable {es es' : List Element} (h : OneLine es) (hs : List.Forall₂ SameShape es es')

include h hs

/-- A word at the front of the code. -/
lemma IsWord.prefix_trimStart {w : List Char} (hw : IsWord w)
    (hstart : w <+: Text.trimStart (keptText es)) : w <+: Text.trimStart (keptText es') := by
  obtain ⟨b, hb⟩ := hstart
  have hindent : ∀ d ∈ Text.indentation (keptText es), Text.isBlank d = true :=
    List.all_eq_true.1 List.all_takeWhile
  have hfree : QuoteFree (Text.indentation (keptText es)) := by
    rintro d hd (rfl | rfl) <;> exact absurd (hindent _ hd) (by decide)
  have hfront : keptText es = Text.indentation (keptText es) ++ w ++ b := by
    rw [List.append_assoc, hb, Text.trimStart_append]
  obtain ⟨b', hb'⟩ := exists_sameShape_front h hs (by simp [hw.ne_nil])
    (quoteFree_append.2 ⟨hfree, hw.quoteFree⟩) hfront
  rw [hb', List.append_assoc, hw.trimStart_append, Text.trimStart_eq_nil.2 hindent]
  exact List.prefix_append w b'

/-- A word that occurs in the code and in no content. -/
lemma IsWord.infix_trimStart {w : List Char} (hw : IsWord w)
    (hcontent : ∀ e ∈ es, e.isQuoted = true → ¬ w <:+: e.content)
    (hoccurs : w <:+: Text.trimStart (keptText es)) : w <:+: Text.trimStart (keptText es') := by
  rw [hw.infix_trimStart_iff] at hoccurs ⊢
  obtain ⟨a, b, htext⟩ := hoccurs
  rw [List.append_assoc] at htext
  obtain ⟨es₁, es₂, es₃, es₁', es₃', -, hin', -⟩ :=
    exists_sameShape_code h hs hw.ne_nil hw.quoteFree hcontent htext.symm
  refine ⟨keptText es₁', keptText es₃', ?_⟩
  rw [hin'.eq, keptText_append, keptText_append, hin'.mid, List.append_assoc]

/-- Code on which a literal is in place stays so. -/
lemma isExemptCode_of_sameShape
    (hcontent : ∀ e ∈ es, e.isQuoted = true → NoComparison e.content)
    (hexempt : isExemptCode (keptText es) = true) : isExemptCode (keptText es') = true := by
  simp only [isExemptCode, Bool.or_eq_true, List.isPrefixOf_iff_prefix, occursIn_iff] at hexempt ⊢
  have hwords : ∀ w ∈ ["import ", "package ", "static final", "final static"], IsWord w.toList := by
    decide +kernel
  simp only [List.forall_mem_cons] at hwords
  obtain ⟨himport, hpackage, hstatic, hfinal, -⟩ := hwords
  refine hexempt.imp (Or.imp (Or.imp ?_ ?_) ?_) ?_
  · exact himport.prefix_trimStart h hs
  · exact hpackage.prefix_trimStart h hs
  · exact hstatic.infix_trimStart h hs fun e he hq => (hcontent e he hq).staticFinal
  · exact hfinal.infix_trimStart h hs fun e he hq => (hcontent e he hq).finalStatic

/-- Lines of the same shape look like a comment or not alike. -/
lemma isComment_render_of_sameShape (h' : OneLine es') (m n : ℕ) :
    Line.isComment ⟨m, render es'⟩ = Line.isComment ⟨n, render es⟩ := by
  -- a line that starts with a character that opens no comment
  have hcons {c : Char} (hc : Text.isBlank c = false) {u v : List Char}
      (hu : c = '/' → AtNoComment u) (hv : c = '/' → AtNoComment v) :
      Line.isComment ⟨m, c :: v⟩ = Line.isComment ⟨n, c :: u⟩ := by
    have hlook (w : List Char) (hw : c = '/' → AtNoComment w) : LooksLikeCode (c :: w) [c] :=
      looksLikeCode_cons hc hw
    rw [(hlook u hu).isComment, (hlook v hv).isComment]
  have hquote {c : Char} (hc : IsQuote c) (u v : List Char) :
      Line.isComment ⟨m, c :: v⟩ = Line.isComment ⟨n, c :: u⟩ := by
    have hslash : Text.isBlank c = false ∧ c ≠ '/' := by rcases hc with rfl | rfl <;> decide
    exact hcons hslash.1 (fun h => absurd h hslash.2) fun h => absurd h hslash.2
  induction hs with
  | nil => rfl
  | @cons e e' es es' he hs ih =>
      cases he with
      | same hq =>
          cases e with
          | plain c =>
              cases hc : Text.isBlank c with
              | false => exact hcons hc h.wellFormed.1.2.2 h'.wellFormed.1.2.2
              | true =>
                  have htrim (k : ℕ) (s : List Char) :
                      Line.trimmed ⟨k, c :: s⟩ = Line.trimmed ⟨k, s⟩ := trim_cons_of_blank hc s
                  have hblank (k : ℕ) (s : List Char) :
                      Line.isComment ⟨k, c :: s⟩ = Line.isComment ⟨k, s⟩ := by
                    simp only [Line.isComment, Line.opensComment, htrim]
                  exact (hblank m _).trans ((ih h.tail h'.tail).trans (hblank n _).symm)
          | lineComment body =>
              have hline := h.newline
              have hline' := h'.newline
              rw [render_cons, List.mem_append, not_or] at hline hline'
              rw [eq_nil_of_lineComment h.wellFormed.1 hline.2,
                eq_nil_of_lineComment h'.wellFormed.1 hline'.2]
              rfl
          | blockComment body closed =>
              have hopens (k : ℕ) (s : List Char) : Line.isComment ⟨k, '/' :: '*' :: s⟩ = true := by
                have htrim : Text.trim ('/' :: '*' :: s) = '/' :: '*' :: Text.trimEnd s :=
                  (trim_append_cons (by decide) [] _).trans
                    (congrArg (List.cons '/') (trimEnd_append_cons (by decide) [] _))
                simp [Line.isComment, Line.opensComment, Line.trimmed, htrim]
              exact (hopens m _).trans (hopens n _).symm
          | literal quote body ending | textBlock body ending => cases hq
      | literal hend hlength => exact hquote h.wellFormed.1.1 _ _
      | textBlock hend => exact hquote (.inl rfl) _ _

end SameShape

/-! ### What is found on a line -/

/-- Some expression is found in the code of the line. -/
def findsAny (expressions : List Regex) (l : LexedLine) : Bool :=
  expressions.any fun r => (r.find? l.code).isSome

/-- A comparison with a literal is reported on the line. -/
def comparesLiteral (l : LexedLine) : Bool :=
  !(l.entry != .code || isExempt l) && findsAny expressions l

lemma isSome_findSome?_find? (expressions : List Regex) (l : LexedLine) :
    (expressions.findSome? fun r => r.find? l.code).isSome = findsAny expressions l := by
  rw [findsAny, Bool.eq_iff_iff, List.findSome?_isSome_iff, List.any_eq_true]

lemma map_const_eq {α : Type} (o : Option α) (n : ℕ) :
    (o.map fun _ => n) = if o.isSome then some n else none := by
  cases o <;> rfl

lemma map_line_bannedCall? (expressions : List Regex) (facility : String) (ctx : LineContext) :
    (bannedCall? expressions facility ctx).map Violation.line =
      if findsAny expressions ctx.line then some ctx.line.line.number else none := by
  rw [bannedCall?, Option.map_map, ← isSome_findSome?_find?]
  exact map_const_eq _ _

lemma map_line_hardcodedLiteral? (ctx : LineContext) :
    (hardcodedLiteral? ctx).map Violation.line =
      if comparesLiteral ctx.line then some ctx.line.line.number else none := by
  rw [hardcodedLiteral?, comparesLiteral]
  cases ctx.line.entry != .code || isExempt ctx.line with
  | true => rfl
  | false =>
      rw [if_neg Bool.false_ne_true, Option.map_map, Bool.not_false, Bool.true_and,
        ← isSome_findSome?_find?]
      exact map_const_eq _ _

/-- The numbers of the lines that a rule reports, if it asks for a property of the line alone. -/
lemma map_line_ruleViolations (rule : LineRule) {fires : LexedLine → Bool}
    (hrule : ∀ ctx, (rule.inspect? ctx).map Violation.line =
      if fires ctx.line then some ctx.line.line.number else none) (path : Path)
    (ls : List LexedLine) :
    (ruleViolations path [rule] ls).map Violation.line =
      (ls.filter fires).map fun l => l.line.number := by
  have hfrom (blanks : ℕ) : (ruleViolationsFrom path [rule] blanks ls).map Violation.line =
      (ls.filter fires).map fun l => l.line.number := by
    induction ls generalizing blanks with
    | nil => rfl
    | cons l ls ih =>
        have hline (ctx : LineContext) :
            ([rule].filterMap fun r => r.inspect? ctx).map Violation.line =
              if fires ctx.line then [ctx.line.line.number] else [] := by
          have hctx := hrule ctx
          rw [List.filterMap_cons]
          cases hv : rule.inspect? ctx with
          | none =>
              rw [hv] at hctx
              split at hctx
              · cases hctx
              · next hfires => rw [if_neg hfires]; rfl
          | some v =>
              rw [hv] at hctx
              split at hctx
              · next hfires => rw [if_pos hfires, ← Option.some.inj hctx]; rfl
              · cases hctx
        rw [ruleViolationsFrom, List.map_append, ih, hline]
        cases hfires : fires l <;> simp [hfires]
  exact hfrom 0

/-- Lines one by one are reported alike: a line of the given number is reported among the ones
exactly if it is reported among the others. -/
lemma mem_numbers_filter_iff {R : LexedLine → LexedLine → Prop} {fires : LexedLine → Bool} {n : ℕ}
    (hnumber : ∀ l k, R l k → k.line.number = l.line.number)
    (hfires : ∀ l k, R l k → l.line.number = n → fires k = fires l) {ls ks : List LexedLine}
    (h : List.Forall₂ R ls ks) :
    n ∈ (ks.filter fires).map (fun l => l.line.number) ↔
      n ∈ (ls.filter fires).map fun l => l.line.number := by
  simp only [List.mem_map, List.mem_filter, and_assoc]
  induction h with
  | nil => rfl
  | @cons l k ls ks hl _ ih =>
      have hhead : fires k = true ∧ k.line.number = n ↔ fires l = true ∧ l.line.number = n := by
        rw [hnumber l k hl]
        exact and_congr_left fun hn => by rw [hfires l k hl hn]
      simp only [List.mem_cons, or_and_right, exists_or, exists_eq_left]
      exact or_congr hhead ih

/-! ### Lines with their contents crossed out -/

/-- No call that is banned by default is found in the text. -/
def NoBannedCall (w : List Char) : Prop := ∀ r ∈ defaultBannedExpressions, r.find? w = none

instance : DecidablePred NoBannedCall := fun w =>
  inferInstanceAs (Decidable (∀ r ∈ defaultBannedExpressions, r.find? w = none))

section Blanked

variable {P : ℕ → List Char → Prop} {l k : LexedLine}

/-- Calls are found on the line alike. -/
lemma ReplacedBy.findsAny_blanked (h : ReplacedBy (LexedLine.BlankedTo P) l k)
    (hP : ∀ w, P l.line.number w → NoBannedCall w) :
    findsAny defaultBannedExpressions k = findsAny defaultBannedExpressions l := by
  obtain ⟨es, es', halike⟩ := h.exists_keptAlike
  have hunquoted : ∀ r ∈ defaultBannedExpressions, r.Unquoted := by decide +kernel
  rw [findsAny, findsAny, Bool.eq_iff_iff, List.any_eq_true, List.any_eq_true]
  refine exists_congr fun r => and_congr_right fun hr => ?_
  exact halike.isSome_find?_iff (hunquoted r hr) fun w hw => hP w hw r hr

/-- Comparisons are found in what is kept of a line, and of a line of the same shape. -/
lemma isSome_find?_of_mem_expressions {es es' : List Element} (h : OneLine es) (h' : OneLine es')
    (hs : List.Forall₂ SameShape es es')
    (hcontent : ∀ e ∈ es, e.isQuoted = true → NoComparison e.content) {r : Regex}
    (hr : r ∈ expressions) (hfound : (r.find? (keptText es)).isSome = true) :
    (r.find? (keptText es')).isSome = true := by
  simp only [expressions, List.mem_cons, List.not_mem_nil, or_false] at hr
  rcases hr with rfl | rfl | rfl
  · exact isSome_find?_receiver h h' hs hcontent hfound
  · exact isSome_find?_argument h h' hs hcontent hfound
  · exact isSome_find?_equality h h' hs hcontent hfound

/-- Comparisons are reported on the line alike. -/
lemma ReplacedBy.comparesLiteral_blanked (h : ReplacedBy (LexedLine.BlankedTo P) l k)
    (hP : ∀ w, P l.line.number w → NoComparison w) : comparesLiteral k = comparesLiteral l := by
  obtain ⟨es, es', halike⟩ := h.exists_keptAlike
  rw [comparesLiteral, comparesLiteral, h.entry]
  cases hentry : l.entry != .code with
  | true => rfl
  | false =>
      have hentry : l.entry = .code := by simpa using hentry
      have hkept := halike.kept
      have hkept' := halike.kept'
      have hrender := halike.render
      have hrender' := halike.render'
      rw [hentry, LexState.keptOpener, List.nil_append] at hkept hkept'
      rw [hentry, LexState.opener, List.nil_append] at hrender hrender'
      have hcontent : ∀ e ∈ es, e.isQuoted = true → NoComparison e.content :=
        fun e he hq => hP _ (halike.content e he hq)
      have hcontent' : ∀ e ∈ es', e.isQuoted = true → NoComparison e.content :=
        fun e he hq => noComparison_of_forall (halike.content' e he hq)
      have hback := SameShape.symm_all halike.shape
      have hcomment : k.isComment = l.isComment := by
        have hlook := isComment_render_of_sameShape halike.oneLine halike.shape halike.oneLine'
          k.line.number l.line.number
        rw [hrender, hrender'] at hlook
        rw [LexedLine.isComment, LexedLine.isComment, h.entry]
        exact congrArg _ hlook
      have hexempt : isExemptCode k.code = isExemptCode l.code := by
        rw [← hkept, ← hkept', Bool.eq_iff_iff]
        exact ⟨isExemptCode_of_sameShape halike.oneLine' hback hcontent',
          isExemptCode_of_sameShape halike.oneLine halike.shape hcontent⟩
      have hfound : findsAny expressions k = findsAny expressions l := by
        rw [findsAny, findsAny, ← hkept, ← hkept', Bool.eq_iff_iff, List.any_eq_true,
          List.any_eq_true]
        refine exists_congr fun r => and_congr_right fun hr => ⟨fun hfound => ?_, fun hfound => ?_⟩
        · exact isSome_find?_of_mem_expressions halike.oneLine' halike.oneLine hback hcontent' hr
            hfound
        · exact isSome_find?_of_mem_expressions halike.oneLine halike.oneLine' halike.shape
            hcontent hr hfound
      rw [isExempt_eq, isExempt_eq, hcomment, hexempt, hfound]

end Blanked

/-- The lines that a rule reports in a file. -/
def reportedLines (path : Path) (rule : LineRule) (text : List Char) : List ℕ :=
  (ruleViolations path [rule] (lex text)).map Violation.line

/-- **Crossing out the contents of all literals and text blocks** changes no reports of banned
calls, but on lines with contents that hold one of the calls, and no reports of comparisons with
literals, but on lines with contents that hold an `equals` call, an equality sign or what makes a
line the line of a constant. -/
theorem mem_reportedLines_blanked (path : Path) (facility : String) {P : ℕ → List Char → Prop}
    {text text' : List Char}
    (h : List.Forall₂ (LexedLine.BlankedTo P) (lex text) (Text.lines text')) (n : ℕ) :
    ((∀ w, P n w → NoBannedCall w) →
      (n ∈ reportedLines path (.bannedCall defaultBannedExpressions facility) text' ↔
        n ∈ reportedLines path (.bannedCall defaultBannedExpressions facility) text)) ∧
    ((∀ w, P n w → NoComparison w) →
      (n ∈ reportedLines path .hardcodedLiteral text' ↔
        n ∈ reportedLines path .hardcodedLiteral text)) := by
  have hlines : List.Forall₂ (ReplacedBy (LexedLine.BlankedTo P)) (lex text) (lex text') := by
    refine forall₂_lex (fun l k hl => ?_) h
    obtain ⟨es, es', halike⟩ := hl.exists_keptAlike
    exact halike.exit
  refine ⟨fun hP => ?_, fun hP => ?_⟩
  · have hrule := map_line_ruleViolations (.bannedCall defaultBannedExpressions facility)
      (map_line_bannedCall? defaultBannedExpressions facility) path
    rw [reportedLines, reportedLines, hrule, hrule]
    exact mem_numbers_filter_iff (fun _ _ hl => hl.number)
      (fun _ _ hl hn => hl.findsAny_blanked (hn ▸ hP)) hlines
  · have hrule := map_line_ruleViolations .hardcodedLiteral map_line_hardcodedLiteral? path
    rw [reportedLines, reportedLines, hrule, hrule]
    exact mem_numbers_filter_iff (fun _ _ hl => hl.number)
      (fun _ _ hl hn => hl.comparesLiteral_blanked (hn ▸ hP)) hlines

/-- Escapes, literals on one line and a text block. -/
theorem mem_reportedLines_blanked_noData :
    let text := "System.out.println(\"a\\\"b\" + ';');\nif (\"on\".equals(s)) t = \"\"\"\n  no data\"\"\";".toList
    let text' := "System.out.println(\"xxx\" + 'x');\nif (\"xx\".equals(s)) t = \"\"\"\nxxxxxxxxx\"\"\";".toList
    List.Forall₂ (LexedLine.BlankedTo fun _ w => NoBannedCall w ∧ NoComparison w) (lex text)
        (Text.lines text') ∧
      1 ∈ reportedLines ⟨"A.java"⟩ (.bannedCall defaultBannedExpressions "a Logger") text' ∧
      2 ∈ reportedLines ⟨"A.java"⟩ .hardcodedLiteral text' := by
  intro text text'
  have hlex : lex text =
      [⟨⟨1, "System.out.println(\"a\\\"b\" + ';');".toList⟩, .code,
          ⟨0, 0, 0, .code, "System.out.println(\"a\\\"b\" + ';');".toList⟩⟩,
        ⟨⟨2, "if (\"on\".equals(s)) t = \"\"\"".toList⟩, .code,
          ⟨0, 0, 0, .textBlock, "if (\"on\".equals(s)) t = \"\"\"".toList⟩⟩,
        ⟨⟨3, "  no data\"\"\";".toList⟩, .textBlock,
          ⟨0, 0, 0, .code, "  no data\"\"\";".toList⟩⟩] := by decide +kernel
  have hlines : Text.lines text' =
      ["System.out.println(\"xxx\" + 'x');".toList, "if (\"xx\".equals(s)) t = \"\"\"".toList,
        "xxxxxxxxx\"\"\";".toList] := by decide +kernel
  have h : List.Forall₂ (LexedLine.BlankedTo fun _ w => NoBannedCall w ∧ NoComparison w) (lex text)
      (Text.lines text') := by
    rw [hlex, hlines]
    refine .cons ?_ (.cons ?_ (.cons ?_ .nil))
    · exact ⟨"System.out.println(".toList.map .plain ++
        .literal '"' [.char 'a', .escape '"', .char 'b'] .closed ::
          (" + ".toList.map .plain ++ .literal '\'' [.char ';'] .closed ::
            ");".toList.map .plain), by decide +kernel⟩
    · exact ⟨"if (".toList.map .plain ++ .literal '"' [.char 'o', .char 'n'] .closed ::
        (".equals(s)) t = ".toList.map .plain ++ [.textBlock [] .unclosed]), by decide +kernel⟩
    · exact ⟨.textBlock ("  no data".toList.map .char) .closed :: [.plain ';'], by decide +kernel⟩
  have hall := mem_reportedLines_blanked ⟨"A.java"⟩ "a Logger" h
  exact ⟨h, ((hall 1).1 fun _ => And.left).2 (by decide +kernel),
    ((hall 2).2 fun _ => And.right).2 (by decide +kernel)⟩

/-- A call and a sign in literals are reported. In the second line the expression finds what stands
between two literals. -/
theorem mem_reportedLines_blanked_helpText :
    let text := "help = \"use System.out.println(x)\";\nlog(\"x == \" + y + \"z\");".toList
    let text' := "help = \"xxxxxxxxxxxxxxxxxxxxxxxxx\";\nlog(\"xxxxx\" + y + \"x\");".toList
    List.Forall₂ (LexedLine.BlankedTo fun _ _ => True) (lex text) (Text.lines text') ∧
      reportedLines ⟨"A.java"⟩ (.bannedCall defaultBannedExpressions "a Logger") text = [1] ∧
      reportedLines ⟨"A.java"⟩ (.bannedCall defaultBannedExpressions "a Logger") text' = [] ∧
      reportedLines ⟨"A.java"⟩ .hardcodedLiteral text = [2] ∧
      reportedLines ⟨"A.java"⟩ .hardcodedLiteral text' = [] := by
  intro text text'
  have hlex : lex text =
      [⟨⟨1, "help = \"use System.out.println(x)\";".toList⟩, .code,
          ⟨0, 0, 0, .code, "help = \"use System.out.println(x)\";".toList⟩⟩,
        ⟨⟨2, "log(\"x == \" + y + \"z\");".toList⟩, .code,
          ⟨0, 0, 0, .code, "log(\"x == \" + y + \"z\");".toList⟩⟩] := by decide +kernel
  have hlines : Text.lines text' =
      ["help = \"xxxxxxxxxxxxxxxxxxxxxxxxx\";".toList, "log(\"xxxxx\" + y + \"x\");".toList] := by
    decide +kernel
  refine ⟨?_, by decide +kernel, by decide +kernel, by decide +kernel, by decide +kernel⟩
  rw [hlex, hlines]
  refine .cons ?_ (.cons ?_ .nil)
  · exact ⟨"help = ".toList.map .plain ++
      .literal '"' ("use System.out.println(x)".toList.map .char) .closed :: [.plain ';'],
      by decide +kernel⟩
  · exact ⟨"log(".toList.map .plain ++ .literal '"' ("x == ".toList.map .char) .closed ::
      (" + y + ".toList.map .plain ++ .literal '"' [.char 'z'] .closed ::
        ");".toList.map .plain), by decide +kernel⟩

end QualityGate
