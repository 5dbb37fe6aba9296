import QualityGate.Proofs.Documentation.Lookback
import Mathlib.Tactic

/-!
How far down a documentation comment reaches. A comment documents the next declaration and none
below it: the way up from a line ends at the latest on the line of the declaration above it, unless
this line looks like a part of an annotation. A text is given by its elements, of which every text
is made (`exists_wellFormed`).

* `lt_lineStart_iff`: which line a position of a text is on.
* `PassedOver.isBlank_or_inAnnotation`: what a line is that is passed over.
* `EndsInComment.doc_of_opensWithMarker`: the mark that is found from a line on is the one of its comment.
* `isDocumented_eq_false_of_declaresAt`: **how far down a comment reaches**.
-/

namespace QualityGate

/-! ### Positions -/

/-- A line of a text is over before the next one starts. -/
lemma lineStart_add_length_le {t line : List Char} {i : ℕ} (h : (Text.lines t)[i]? = some line) :
    lineStart t i + line.length ≤ lineStart t (i + 1) := by
  have hle (p : List Char) : (Text.withoutLineEnd p).length ≤ p.length := by
    fun_induction Text.withoutLineEnd p <;> simp_all
  rw [Text.lines, List.getElem?_map, Option.map_eq_some_iff] at h
  obtain ⟨piece, hpiece, rfl⟩ := h
  rw [lineStart, lineStart, List.take_add_one, hpiece, List.flatten_append, List.length_append]
  simpa using hle piece

/-- Lines start one after the other. -/
lemma lineStart_mono (t : List Char) : Monotone (lineStart t) := by
  refine monotone_nat_of_le_succ fun i => ?_
  rw [lineStart, lineStart, List.take_add_one, List.flatten_append, List.length_append]
  exact Nat.le_add_right _ _

/-- A position comes before a line exactly if fewer line feeds than lines come before it. -/
lemma lt_lineStart_iff {t : List Char} {p : ℕ} (hp : p < t.length) (i : ℕ) :
    p < lineStart t i ↔ (t.take p).count '\n' < i := by
  induction i generalizing t p with
  | zero => simp
  | succ i ih =>
      by_cases hmem : '\n' ∈ t
      · obtain ⟨w, rest, rfl, hw⟩ := List.eq_append_cons_of_mem hmem
        rw [lineStart_succ (pieces_append_newline hw rest)]
        rcases Nat.lt_or_ge w.length p with hlt | hge
        · obtain ⟨q, rfl⟩ := Nat.exists_eq_add_of_lt hlt
          have hq : q < rest.length := by
            rw [List.length_append, List.length_cons] at hp
            omega
          have htake : (w ++ '\n' :: rest).take (w.length + q + 1) = w ++ '\n' :: rest.take q := by
            rw [Nat.add_assoc, List.take_length_add_append, List.take_succ_cons]
          have hrest := ih hq
          rw [htake, List.count_append, List.count_cons_self, List.count_eq_zero.2 hw,
            List.length_append, List.length_singleton]
          omega
        · rw [List.take_append_of_le_length hge,
            List.count_eq_zero.2 fun h => hw (List.mem_of_mem_take h), List.length_append,
            List.length_singleton]
          omega
      · have hpieces : Text.pieces t = [t] :=
          pieces_of_not_mem hmem (List.ne_nil_of_length_pos (by omega))
        rw [List.count_eq_zero.2 fun h => hmem (List.mem_of_mem_take h), lineStart, hpieces]
        simpa using hp

/-- A part of a text ends before the lines that start after it. -/
lemma length_le_lineStart (front rest : List Char) {j : ℕ} (hj : front.count '\n' < j) :
    front.length ≤ lineStart (front ++ rest) j := by
  rcases Nat.eq_zero_or_pos front.length with hnil | hpos
  · rw [hnil]
    exact Nat.zero_le _
  · have hlt : front.length - 1 < (front ++ rest).length := by
      rw [List.length_append]
      omega
    refine Nat.le_of_pred_lt ((lt_lineStart_iff hlt j).2 ?_)
    rw [List.take_append_of_le_length (Nat.sub_le _ _)]
    exact ((List.take_sublist _ _).count_le _).trans_lt hj

/-- If only white space follows on the line on which a part of a text ends, then the visible
characters down to the end of this line are in the part. -/
lemma lt_length_of_visible {front rest : List Char} {p : ℕ} {c : Char}
    (hblank : ∀ c ∈ rest.takeWhile inLine, Text.isBlank c = true)
    (hp : p < lineStart (front ++ rest) (front.count '\n' + 1))
    (hc : (front ++ rest)[p]? = some c) (hvisible : Text.isBlank c = false) :
    p < front.length := by
  rw [lt_lineStart_iff (List.getElem?_eq_some_iff.1 hc).1] at hp
  by_contra hge
  obtain ⟨n, rfl⟩ := Nat.exists_eq_add_of_le (not_lt.1 hge)
  rw [List.take_length_add_append, List.count_append] at hp
  rw [List.getElem?_append_right (Nat.le_add_right _ _), Nat.add_sub_cancel_left] at hc
  have hline : '\n' ∉ rest.take n := List.count_eq_zero.1 (by omega)
  have hin : inLine c = true := by
    rw [bne_iff_ne]
    rintro rfl
    exact absurd hvisible (by decide)
  obtain ⟨hn, heq⟩ := List.getElem?_eq_some_iff.1 hc
  have hmem : c ∈ rest.takeWhile inLine := by
    have htake := takeWhile_inLine_append hline (rest.drop n)
    rw [List.take_append_drop, List.drop_eq_getElem_cons hn, heq,
      List.takeWhile_cons_of_pos hin] at htake
    rw [htake]
    simp
  rw [hblank _ hmem] at hvisible
  cases hvisible

/-! ### Lines of annotations -/

/-- The line with this index looks like an annotation, or is one of the lines of its arguments. -/
def InAnnotation (ls : List LexedLine) (i : ℕ) : Prop :=
  (∃ l ∈ ls[i]?, l.line.isAnnotation = true) ∨
    ∃ above owner args below, ls = above ++ owner :: (args ++ below) ∧
      ArgumentList args.reverse owner ∧ above.length < i ∧ i ≤ above.length + args.length

/-- More lines below do not change this. -/
lemma InAnnotation.append {ls : List LexedLine} {i : ℕ} (h : InAnnotation ls i)
    (ks : List LexedLine) : InAnnotation (ls ++ ks) i := by
  rcases h with ⟨l, hl, hannotated⟩ | ⟨above, owner, args, below, rfl, hargs, hlt, hle⟩
  · exact .inl ⟨l, List.getElem?_append_left (List.getElem?_eq_some_iff.1 hl).1 ▸ hl, hannotated⟩
  · exact .inr ⟨above, owner, args, below ++ ks, by simp, hargs, hlt, hle⟩

/-- One line more that is passed over by itself. -/
lemma isBlank_or_inAnnotation_concat {ls : List LexedLine} {i : ℕ} {k l : LexedLine}
    (hls : ls[i]? = some l → l.line.isBlank = true ∨ InAnnotation ls i)
    (hk : k.line.isBlank = true ∨ k.line.isAnnotation = true) (hl : (ls ++ [k])[i]? = some l) :
    l.line.isBlank = true ∨ InAnnotation (ls ++ [k]) i := by
  rcases Nat.lt_or_ge i ls.length with hlt | hge
  · rw [List.getElem?_append_left hlt] at hl
    exact (hls hl).imp_right fun h => h.append [k]
  · have hmem := hl
    rw [List.getElem?_append_right hge] at hmem
    obtain rfl := List.mem_singleton.1 (List.mem_of_getElem? hmem)
    exact hk.imp_right fun hannotated => .inl ⟨l, hl, hannotated⟩

/-- A line that is passed over is blank or a part of an annotation. -/
lemma PassedOver.isBlank_or_inAnnotation {blanks : ℕ} {passed : List LexedLine}
    (h : PassedOver blanks passed) {ls : List LexedLine} {i : ℕ} {l : LexedLine}
    (hl : (ls ++ passed.reverse)[i]? = some l) (hi : ls.length ≤ i) :
    l.line.isBlank = true ∨ InAnnotation (ls ++ passed.reverse) i := by
  -- The way up goes from the end of the list to its front, so the last lines are looked at first.
  induction h with
  | nil =>
      rw [List.reverse_nil, List.append_nil, List.getElem?_eq_none hi] at hl
      cases hl
  | blank _ hblank _ ih =>
      rw [List.reverse_cons, ← List.append_assoc] at hl ⊢
      exact isBlank_or_inAnnotation_concat ih (.inl hblank) hl
  | annotated _ hannotated _ ih =>
      rw [List.reverse_cons, ← List.append_assoc] at hl ⊢
      exact isBlank_or_inAnnotation_concat ih (.inr hannotated) hl
  | @arguments n args owner ks hargs _ ih =>
      have hreverse : ls ++ (args ++ owner :: ks).reverse =
          ((ls ++ ks.reverse) ++ [owner]) ++ args.reverse := by simp
      rw [hreverse] at hl ⊢
      rcases Nat.lt_or_ge i ((ls ++ ks.reverse) ++ [owner]).length with hlt | hge
      · rw [List.getElem?_append_left hlt] at hl
        exact (isBlank_or_inAnnotation_concat ih (.inr hargs.owned) hl).imp_right
          fun h => h.append _
      · have hlength := (List.getElem?_eq_some_iff.1 hl).1
        have hlt : (ls ++ ks.reverse).length < i :=
          Nat.lt_of_succ_le (by simpa [Nat.add_assoc] using hge)
        refine .inr (.inr ⟨ls ++ ks.reverse, owner, args.reverse, [], by simp, ?_, hlt, ?_⟩)
        · rwa [List.reverse_reverse]
        · simp only [List.length_append, List.length_singleton] at hlength ⊢
          omega

/-! ### Comments at the ends of lines -/

/-- A block comment ends the line with this index, and its opening mark is the only one on the lines
of the comment, up to its end. -/
def EndsInComment (es : List Element) (k : ℕ) : Prop :=
  ∃ pre body post, es = pre ++ .blockComment body true :: post ∧
    (render pre).count '\n' + body.count '\n' = k ∧
    (∀ c ∈ (render post).takeWhile inLine, Text.isBlank c = true) ∧
    ¬ openingMark <:+: lastLineOf (render pre) ++ ['/'] ∧ OpensOnce body

/-- A documentation comment that is closed. -/
def Element.IsDoc : Element → Prop
  | blockComment body true => docMark <+: (blockComment body true).text
  | blockComment _ false | plain _ | lineComment _ | literal _ _ _ | textBlock _ _ => False

instance : DecidablePred Element.IsDoc
  | .blockComment body true =>
    inferInstanceAs (Decidable (docMark <+: (Element.blockComment body true).text))
  | .blockComment _ false | .plain _ | .lineComment _ | .literal _ _ _ | .textBlock _ _ =>
    inferInstanceAs (Decidable False)

/-- After the first of two positions and by the second one, a documentation comment closes. -/
def DocClosesBetween (es : List Element) (p q : ℕ) : Prop :=
  ∃ n < es.length, (∃ e ∈ es[n]?, e.IsDoc) ∧ p < (render (es.take (n + 1))).length ∧
    (render (es.take (n + 1))).length ≤ q

instance (es : List Element) (p q : ℕ) : Decidable (DocClosesBetween es p q) :=
  inferInstanceAs (Decidable (∃ n < es.length, (∃ e ∈ es[n]?, e.IsDoc) ∧
    p < (render (es.take (n + 1))).length ∧ (render (es.take (n + 1))).length ≤ q))

/-- On the line with this index there is a declaration, and at this column a character of its plain
code. -/
def DeclaresAt (es : List Element) (i column : ℕ) : Prop :=
  ∃ l ∈ (lex (render es))[i]?, l.entry = .code ∧ (declaration? l.code).isSome ∧
    ∃ m ∈ (lineMarks es i l)[column]?, m.region = .code ∧ Text.isBlank m.char = false

instance (es : List Element) (i column : ℕ) : Decidable (DeclaresAt es i column) :=
  inferInstanceAs (Decidable (∃ l ∈ (lex (render es))[i]?, l.entry = .code ∧
    (declaration? l.code).isSome ∧ ∃ m ∈ (lineMarks es i l)[column]?, m.region = .code ∧
      Text.isBlank m.char = false))

/-- Down to its end, a comment has as many line feeds as the text in front of it and its body. -/
lemma count_newline_render_comment (pre : List Element) (body : List Char) :
    (render (pre ++ [.blockComment body true])).count '\n' =
      (render pre).count '\n' + body.count '\n' := by
  simp [render, Element.text, List.count_append]

/-- The elements down to a comment. -/
lemma take_comment (pre post : List Element) (body : List Char) :
    (pre ++ .blockComment body true :: post).take (pre.length + 1) =
      pre ++ [.blockComment body true] := by
  rw [List.take_length_add_append]
  rfl

/-- A text goes on after a comment. -/
lemma render_comment_append (pre post : List Element) (body : List Char) :
    render (pre ++ .blockComment body true :: post) =
      render (pre ++ [.blockComment body true]) ++ render post := by
  simp [render]

/-- What is first among the lines above a line, apart from some of them, has as many lines above it
as there are left. -/
lemma getElem?_of_reverse_take {ls passed above : List LexedLine} {l : LexedLine} {j : ℕ}
    (h : (ls.take j).reverse = passed ++ l :: above) :
    above.length < j ∧ ls[above.length]? = some l := by
  have htake : ls.take j = above.reverse ++ l :: passed.reverse := by
    rw [← List.reverse_reverse (ls.take j), h]
    simp
  have hlength := List.length_take_le j ls
  rw [htake, List.length_append, List.length_cons, List.length_reverse] at hlength
  have hlt : above.length < j := by omega
  refine ⟨hlt, ?_⟩
  rw [← List.getElem?_take_of_lt hlt, htake, ← List.length_reverse,
    List.getElem?_append_right le_rfl, Nat.sub_self]
  rfl

/-- If a comment ends the line from which on a documentation comment is found, then it is the
documentation comment. -/
lemma EndsInComment.doc_of_opensWithMarker {es : List Element} (hes : WellFormed es) {j : ℕ}
    {passed above : List LexedLine} {l : LexedLine}
    (habove : ((lex (render es)).take j).reverse = passed ++ l :: above)
    (hends : EndsInComment es above.length) (hopens : opensWithMarker (l :: above) = true) :
    ∃ pre body post, es = pre ++ .blockComment body true :: post ∧
      (render (pre ++ [.blockComment body true])).count '\n' = above.length ∧
      (∀ c ∈ (render post).takeWhile inLine, Text.isBlank c = true) ∧
      docMark <+: (Element.blockComment body true).text := by
  obtain ⟨pre, body, post, rfl, hcount, hblank, hfront, honce⟩ := hends
  refine ⟨pre, body, post, rfl, (count_newline_render_comment pre body).trans hcount, hblank, ?_⟩
  obtain ⟨x, above', rest, -, hlength, hchars, htail, hlex⟩ := exists_lex_comment pre post
  have hlines := hlex body hes
  rw [← List.append_assoc] at hlines
  have hnumber : l.line.number = (above' ++ x.lines (Text.splitAt '\n' body)).length := by
    rw [number_of_getElem?_lex (getElem?_of_reverse_take habove).2, List.length_append,
      x.length_lines, hlength, ← hcount, Nat.add_assoc]
  have hsame := cons_eq_reverse_of_number habove hlines hnumber
  have hblank' := not_openingMark_of_blank fun c hc => hblank c (htail.subset hc)
  rw [hsame, List.reverse_append] at hopens
  rw [← hchars] at hfront
  exact (CommentPlace.opensWithMarker_lines honce hfront hblank' above'.reverse).1 hopens

/-! ### The next declaration -/

/-- A declaration is on a line that is not blank. -/
lemma DeclaresAt.exists_line {es : List Element} (hes : WellFormed es) {i column : ℕ}
    (h : DeclaresAt es i column) :
    ∃ l c, (lex (render es))[i]? = some l ∧ l.line.isBlank = false ∧
      (render es)[lineStart (render es) i + column]? = some c ∧ Text.isBlank c = false ∧
      lineStart (render es) i + column < lineStart (render es) (i + 1) := by
  obtain ⟨l, hl, -, -, m, hm, -, hvisible⟩ := h
  obtain ⟨-, htext, -, -, hchars, -⟩ := lex_line hl
  rw [marksFrom_render hes] at hchars
  have hc : l.line.text[column]? = some m.char := by
    rw [← hchars, List.getElem?_map]
    exact congrArg (Option.map Mark.char) hm
  have hcolumn := (List.getElem?_eq_some_iff.1 hc).1
  refine ⟨l, m.char, hl, ?_, ?_, hvisible, ?_⟩
  · rw [Bool.eq_false_iff]
    intro hblank
    rw [Line.forall_isBlank hblank m.char (List.mem_of_getElem? hc)] at hvisible
    cases hvisible
  · rw [lineMarks, marksAt, List.getElem?_take_of_lt hcolumn, List.getElem?_drop] at hm
    rw [← map_char_marks, List.getElem?_map, map_char_marks, hm]
    rfl
  · have := lineStart_add_length_le htext
    omega

/-- **How far down a comment reaches.** A line is not documented if there is a declaration on a line
above it, and no documentation comment closes after the start of this declaration. This is said of
declarations on lines that do not look like a part of an annotation, and of texts in which a line
from there on only ends like a comment if a comment ends it. -/
theorem isDocumented_eq_false_of_declaresAt {es : List Element} (hes : WellFormed es)
    {i column j : ℕ} (hij : i < j) (hdeclares : DeclaresAt es i column)
    (hdoc : ¬ DocClosesBetween es (lineStart (render es) i + column) (lineStart (render es) j))
    (hapart : ¬ InAnnotation ((lex (render es)).take j) i)
    (hends : ∀ k, i ≤ k → k < j → ∀ l ∈ (lex (render es))[k]?, l.line.closesComment = true →
      EndsInComment es k) (window cap : ℕ) :
    isDocumented window cap (lex (render es)) j = false := by
  obtain ⟨d, c, hd, hblank, hc, hvisible, hstart⟩ := hdeclares.exists_line hes
  generalize lineStart (render es) i + column = p at hdoc hc hstart
  rw [Bool.eq_false_iff]
  intro hdocumented
  obtain ⟨blanks, passed, l, above, habove, hpassed, -, -, hcloses, -, hmark⟩ :=
    documentedBy_iff.1 hdocumented
  obtain ⟨hlt, hl⟩ := getElem?_of_reverse_take habove
  rcases Nat.lt_or_ge above.length i with hover | hreach
  · -- The line of the declaration would be passed over.
    have htake : (lex (render es)).take j = (above.reverse ++ [l]) ++ passed.reverse := by
      rw [← List.reverse_reverse ((lex (render es)).take j), habove]
      simp
    rw [← List.getElem?_take_of_lt hij, htake] at hd
    rw [htake] at hapart
    refine (hpassed.isBlank_or_inAnnotation hd (by simpa using hover)).elim (fun h => ?_) hapart
    rw [hblank] at h
    cases h
  · -- The comment that is found would close below the start of the declaration.
    have hopens : opensWithMarker (l :: above) = true := by
      have hmono := opensWithMarker_take_mono (Nat.le_max_left _ (l :: above).length) hmark
      rwa [List.take_of_length_le (Nat.le_max_right _ _)] at hmono
    obtain ⟨pre, body, post, rfl, hcount, htail, hmarks⟩ :=
      (hends above.length hreach hlt l hl hcloses).doc_of_opensWithMarker hes habove hopens
    have hbelow := hstart.trans_le (lineStart_mono _ (Nat.succ_le_succ hreach))
    refine hdoc ⟨pre.length, by simp, ⟨.blockComment body true, by simp, hmarks⟩, ?_⟩
    rw [take_comment pre post body]
    constructor
    · rw [← hcount, render_comment_append pre post body] at hbelow
      rw [render_comment_append pre post body] at hc
      exact lt_length_of_visible htail hbelow hc hvisible
    · rw [render_comment_append pre post body]
      exact length_le_lineStart _ _ (hcount.trans_lt hlt)

/-- A documented method on a line that ends in another comment, and a method below it. -/
theorem isDocumented_eq_false_of_declaresAt_twoMethods :
    let es := Element.blockComment "* doc ".toList true ::
      ("\nint a(); ".toList.map .plain ++ .blockComment " see ".toList true ::
        "\nint b();\n".toList.map .plain)
    WellFormed es ∧ DeclaresAt es 1 0 ∧ DeclaresAt es 2 0 ∧
      ¬ DocClosesBetween es (lineStart (render es) 1 + 0) (lineStart (render es) 2) ∧
      isDocumented 5 50 (lex (render es)) 1 = true ∧
      ∀ window cap, isDocumented window cap (lex (render es)) 2 = false := by
  intro es
  have hes : WellFormed es := by decide +kernel
  have hdeclares : DeclaresAt es 1 0 := by decide +kernel
  have hdoc : ¬ DocClosesBetween es (lineStart (render es) 1 + 0) (lineStart (render es) 2) := by
    decide +kernel
  have hnone : ∀ k ∈ (lex (render es)).take 2, k.line.isAnnotation = false := by decide +kernel
  have hapart : ¬ InAnnotation ((lex (render es)).take 2) 1 := by
    rintro (⟨l, hl, hannotated⟩ | ⟨above, owner, args, below, heq, hargs, -, -⟩)
    · rw [hnone l (List.mem_of_getElem? hl)] at hannotated
      cases hannotated
    · have howner := hnone owner (by rw [heq]; simp)
      rw [hargs.owned] at howner
      cases howner
  refine ⟨hes, hdeclares, by decide +kernel, hdoc, by decide +kernel, fun window cap => ?_⟩
  refine isDocumented_eq_false_of_declaresAt hes (by decide) hdeclares hdoc hapart
    (fun k hk hk' l _ _ => ?_) window cap
  obtain rfl : k = 1 := le_antisymm (Nat.le_of_lt_succ hk') hk
  exact ⟨.blockComment "* doc ".toList true :: "\nint a(); ".toList.map .plain, " see ".toList,
    "\nint b();\n".toList.map .plain, rfl, by decide +kernel,
    List.all_eq_true.1 (by decide +kernel), by decide +kernel, by decide +kernel⟩

/-- A line that starts with an annotation is passed over together with the method that it declares,
and the comment of this method documents the next one too. -/
theorem isDocumented_below_annotatedMethod :
    let es := "class A \x7b\n    ".toList.map Element.plain ++
      .blockComment "* doc ".toList true ::
        ("\n    @Override public void a() \x7b\x7d\n" ++
          "    public void b() \x7b\x7d\n\x7d\n").toList.map .plain
    WellFormed es ∧ DeclaresAt es 2 4 ∧ DeclaresAt es 3 4 ∧
      ¬ DocClosesBetween es (lineStart (render es) 2 + 4) (lineStart (render es) 3) ∧
      isDocumented 5 50 (lex (render es)) 3 = true := by
  decide +kernel

end QualityGate
