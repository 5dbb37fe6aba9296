import QualityGate.Documentation
import QualityGate.Method.Span
import QualityGate.Proofs.Source.Uncommented
import Mathlib.Tactic

/-!
Methods and declarations are found whatever comments stand on their lines. They are looked for in
the code of a line, and the text of the line only matters as far as it looks like a comment.

* `methodSpansFrom_eq_of_sameStart`: what a search for methods sees of the lines.
* `LexedLine.IsUncommented`: the line without its comments.
* `methodSpans_uncommented`: **without comments the same methods and declarations are found**, but
  for declarations right behind a comment.
-/

namespace QualityGate

/-! ### What a search for methods sees -/

/-- Lines that a search for methods does not tell apart. -/
structure SameStart (l k : LexedLine) : Prop where
  number : k.line.number = l.line.number
  entry : k.entry = l.entry
  scan : k.scan = l.scan
  /-- How a line looks only matters if it declares a member. -/
  isComment : memberDeclaration? l.code ≠ none → k.line.isComment = l.line.isComment

section SameStart

variable {ls ks : List LexedLine}

lemma opensBody_eq_of_sameStart (h : List.Forall₂ SameStart ls ks) (parens : ℤ) (throwing : Bool) :
    opensBody parens throwing ks = opensBody parens throwing ls := by
  induction h generalizing parens throwing with
  | nil => rfl
  | @cons l k ls ks hl _ ih =>
      have hcode : k.code = l.code := congrArg Scan.code hl.scan
      rw [opensBody, opensBody, hl.scan, hcode]
      simp only [ih]

lemma methodStart?_eq_of_sameStart (h : List.Forall₂ SameStart ls ks) :
    methodStart? ks = methodStart? ls := by
  cases h with
  | nil => rfl
  | @cons l k ls ks hl hls =>
      have hbody : hasBody (k :: ks) = hasBody (l :: ls) :=
        opensBody_eq_of_sameStart (.cons hl hls) 0 false
      have hcode : k.code = l.code := congrArg Scan.code hl.scan
      rw [methodStart?, methodStart?, hl.entry, hcode, hbody]
      cases hm : memberDeclaration? l.code with
      | none => simp
      | some d => rw [hl.isComment (by rw [hm]; simp)]

lemma methodSpansFrom_eq_of_sameStart (h : List.Forall₂ SameStart ls ks)
    (current : Option OpenMethod) : methodSpansFrom current ks = methodSpansFrom current ls := by
  induction h generalizing current with
  | nil => rfl
  | @cons l k ls ks hl hls ih =>
      have hadvance (m : OpenMethod) : m.advance k = m.advance l := by
        simp only [OpenMethod.advance, hl.scan]
      rw [methodSpansFrom, methodSpansFrom, methodStart?_eq_of_sameStart (.cons hl hls), hl.number]
      simp only [hadvance, ih]

end SameStart

/-! ### Lines without comments -/

/-- The text is the line, which starts in plain code, without its comments. -/
structure LexedLine.IsUncommented (l : LexedLine) (t : List Char) : Prop where
  entry : l.entry = .code
  exists_elements : ∃ es, WellFormed es ∧ render es = l.line.text ∧ t = render (withoutComments es)

/-- White space declares nothing. -/
lemma declaration?_of_trim_eq_nil {s : List Char} (h : Text.trim s = []) :
    declaration? s = none := by
  rw [declaration?, typeDeclaration?, memberDeclaration?, h]
  decide +kernel

/-- The line may be replaced by the line without comments, unless it declares something right
behind a comment. -/
def MayUncomment (l : LexedLine) (t : List Char) : Prop :=
  t = l.line.text ∨
    l.IsUncommented t ∧ (l.line.opensComment = true → declaration? l.code = none)

section Uncommented

variable {l k : LexedLine} (h : ReplacedBy MayUncomment l k)

include h

lemma ReplacedBy.scan_uncommented : k.scan = l.scan := by
  rw [h.scan, h.scan']
  rcases h.rel with heq | ⟨⟨hentry, es, hes, htext, heq⟩, -⟩
  · rw [heq]
  · have hline := h.oneLine
    have hline' := h.oneLine'
    rw [heq] at hline'
    rw [← htext] at hline
    rw [heq, hentry, ← htext, ofLine_withoutComments hes hline hline']

/-- A line with a declaration looks like a comment or is blank without its comments exactly if it
does so with them. -/
lemma ReplacedBy.look_uncommented (hd : declaration? l.code ≠ none) :
    k.line.isComment = l.line.isComment ∧ k.line.isBlank = l.line.isBlank := by
  rcases h.rel with heq | ⟨⟨hentry, es, hes, htext, heq⟩, hfront⟩
  · rw [h.eq_of_text heq]
    exact ⟨rfl, rfl⟩
  · have hline := h.oneLine
    have hline' := h.oneLine'
    rw [← htext] at hline
    rw [heq] at hline'
    have hcode {fs : List Element} (hfs : WellFormed fs) (hf : '\n' ∉ render fs) :
        (Scan.ofLine .code (render fs)).code = keptText fs := by
      rw [ofLine_eq_scanOf _ hf, marksFrom_render hfs]
      exact flatMap_kept_marks fs
    have hkept : l.code = keptText es := by
      rw [LexedLine.code, h.scan, hentry, ← htext, hcode hes hline]
    have hkept' : keptText (withoutComments es) = keptText es := by
      rw [← hcode (hes.withoutComments hline) hline', ← hcode hes hline,
        ofLine_withoutComments hes hline hline']
    have hne : Text.trim (keptText es) ≠ [] := fun hnil =>
      hd (declaration?_of_trim_eq_nil (by rw [hkept, hnil]))
    have hl : l.line = ⟨l.line.number, render es⟩ := by rw [htext]
    have hk : k.line = ⟨k.line.number, render (withoutComments es)⟩ := by rw [← heq]
    have hlook : LooksLikeCode (render es) (keptText es) := by
      rcases look_of_wellFormed hes hline with hnil | ⟨hopens, -⟩ | hlook
      · exact absurd hnil hne
      · refine absurd (hfront ?_) hd
        rw [hl]
        exact hopens _
      · exact hlook
    have hlook' : LooksLikeCode (render (withoutComments es)) (keptText es) := by
      rw [← hkept']
      rcases look_of_wellFormed (hes.withoutComments hline) hline' with
        hnil | ⟨-, body, hbody⟩ | hlook
      · exact absurd (hkept' ▸ hnil) hne
      · exact absurd hbody (closedComment_not_mem_withoutComments es body)
      · exact hlook
    rw [hl, hk, hlook.isComment, hlook'.isComment, hlook.isBlank, hlook'.isBlank]
    exact ⟨rfl, rfl⟩

lemma ReplacedBy.sameStart_uncommented : SameStart l k := by
  refine ⟨h.number, h.entry, h.scan_uncommented, fun hm => (h.look_uncommented fun hd => hm ?_).1⟩
  rw [declaration?, Option.or_eq_none_iff] at hd
  exact hd.2

lemma ReplacedBy.requiredDeclaration?_uncommented (visibilities : List Visibility) :
    requiredDeclaration? visibilities k = requiredDeclaration? visibilities l := by
  have hcode : k.code = l.code := congrArg Scan.code h.scan_uncommented
  rw [requiredDeclaration?, requiredDeclaration?, LexedLine.isComment, LexedLine.isComment, h.entry,
    hcode]
  cases hd : declaration? l.code with
  | none => simp
  | some d =>
      obtain ⟨hcomment, hblank⟩ := h.look_uncommented (by rw [hd]; simp)
      rw [hcomment, hblank]

end Uncommented

/-- **Comments on a line do not matter** to what methods are found, how long they are, and which
lines declare something that has to be documented. Any number of lines may lose their comments. The
one exception is a declaration right behind a comment that stands first on its line: it is taken for
a comment. -/
theorem methodSpans_uncommented {text text' : List Char}
    (h : List.Forall₂ MayUncomment (lex text) (Text.lines text')) :
    methodSpans (lex text') = methodSpans (lex text) ∧
      (∀ path limit, longMethods path limit (lex text') = longMethods path limit (lex text)) ∧
      ∀ visibilities, (lex text').map (requiredDeclaration? visibilities) =
        (lex text).map (requiredDeclaration? visibilities) := by
  have hlines : List.Forall₂ (ReplacedBy MayUncomment) (lex text) (lex text') :=
    forall₂_lex (fun _ _ hl => congrArg Scan.exit hl.scan_uncommented) h
  have hspans : methodSpans (lex text') = methodSpans (lex text) :=
    methodSpansFrom_eq_of_sameStart (hlines.imp fun _ _ hl => hl.sameStart_uncommented) none
  refine ⟨hspans, fun path limit => by rw [longMethods, longMethods, hspans],
    fun visibilities => ?_⟩
  have hmap : List.Forall₂ Eq ((lex text).map (requiredDeclaration? visibilities))
      ((lex text').map (requiredDeclaration? visibilities)) :=
    List.forall₂_map_left_iff.2 (List.forall₂_map_right_iff.2 (hlines.imp fun _ _ hl =>
      (hl.requiredDeclaration?_uncommented visibilities).symm))
  rw [List.forall₂_eq_eq_eq] at hmap
  exact hmap.symm

/-- Comments in the head of a method, behind it and in its body. -/
theorem methodSpans_uncommented_counterText :
    let text := "  int /* next */ step(int n) \x7b // one\n    n++; /* b */ return n;\n  \x7d\n".toList
    let text' := "  int   step(int n) \x7b \n    n++;   return n;\n  \x7d\n".toList
    List.Forall₂ MayUncomment (lex text) (Text.lines text') ∧
      methodSpans (lex text') = [⟨"step".toList, 1, 3, 2⟩] := by
  intro text text'
  have hlex : lex text =
      [⟨⟨1, "  int /* next */ step(int n) \x7b // one".toList⟩, .code,
        ⟨1, 0, 0, .code, "  int   step(int n) \x7b ".toList⟩⟩,
        ⟨⟨2, "    n++; /* b */ return n;".toList⟩, .code,
          ⟨0, 0, 0, .code, "    n++;   return n;".toList⟩⟩,
        ⟨⟨3, "  \x7d".toList⟩, .code, ⟨0, 1, 0, .code, "  \x7d".toList⟩⟩] := by decide +kernel
  have hlines : Text.lines text' =
      ["  int   step(int n) \x7b ".toList, "    n++;   return n;".toList, "  \x7d".toList] := by
    decide +kernel
  have h : List.Forall₂ MayUncomment (lex text) (Text.lines text') := by
    rw [hlex, hlines]
    refine .cons (.inr ⟨⟨rfl, ?_⟩, by decide⟩) (.cons (.inr ⟨⟨rfl, ?_⟩, by decide⟩)
      (.cons (.inl rfl) .nil))
    · exact ⟨"  int ".toList.map .plain ++ .blockComment " next ".toList true ::
        (" step(int n) \x7b ".toList.map .plain ++ [.lineComment " one".toList]), by decide +kernel⟩
    · exact ⟨"    n++; ".toList.map .plain ++ .blockComment " b ".toList true ::
        " return n;".toList.map .plain, by decide +kernel⟩
  exact ⟨h, (methodSpans_uncommented h).1.trans (by decide +kernel)⟩

/-- A method right behind a comment is not found. -/
theorem methodSpans_uncommented_entryPoint :
    let text := "/* entry point */ void run() \x7b \x7d".toList
    let text' := "  void run() \x7b \x7d".toList
    List.Forall₂ (fun l t => t = l.line.text ∨ l.IsUncommented t) (lex text) (Text.lines text') ∧
      methodSpans (lex text) = [] ∧ methodSpans (lex text') = [⟨"run".toList, 1, 1, 0⟩] := by
  intro text text'
  have hlex : lex text =
      [⟨⟨1, text⟩, .code, ⟨1, 1, 0, .code, "  void run() \x7b \x7d".toList⟩⟩] := by decide +kernel
  have hlines : Text.lines text' = [text'] := by decide +kernel
  refine ⟨?_, by decide +kernel, by decide +kernel⟩
  rw [hlex, hlines]
  refine .cons (.inr ⟨rfl, .blockComment " entry point ".toList true ::
    " void run() \x7b \x7d".toList.map .plain, by decide +kernel⟩) .nil

end QualityGate
