import QualityGate.Proofs.Documentation.Opening
import QualityGate.Proofs.Text.Blank
import Mathlib.Tactic

/-!
The wording of a documentation comment. Two texts that differ only in what one documentation comment
says have the same documented lines and the same undocumented declarations, as long as neither
comment has another opening mark below its first line or ends on a line that looks like an
annotation.

* `SameLook`, `SameAbove`: lines that look the same from below.
* `SameAbove.documentedBy_eq`: they document the same.
* `sameAbove_lines`: the lines of two comments at the same place look the same from below.
* `isDocumented_eq_of_wording`: **what a documentation comment says does not matter**.
-/

namespace QualityGate

/-! ### Lines that look the same -/

/-- Whether the first opening mark of the line goes on with a star, if there is one. -/
def LexedLine.opensDoc? (l : LexedLine) : Option Bool :=
  (fromCommentStart? l.line.text).map fun text => "/**".toList.isPrefixOf text

/-- The nearest line with an opening mark decides. -/
lemma opensWithMarker_cons (l : LexedLine) (above : List LexedLine) :
    opensWithMarker (l :: above) = l.opensDoc?.getD (opensWithMarker above) := by
  rw [opensWithMarker, LexedLine.opensDoc?]
  cases fromCommentStart? l.line.text <;> rfl

/-- Two lines cannot be told apart on the way up. -/
structure SameLook (l l' : LexedLine) : Prop where
  parenDelta : l.scan.parenDelta = l'.scan.parenDelta
  annotated : l.line.isAnnotation = l'.line.isAnnotation
  blank : l.line.isBlank = l'.line.isBlank
  closes : l.line.closesComment = l'.line.closesComment
  opensDoc : l.opensDoc? = l'.opensDoc?

lemma SameLook.refl (l : LexedLine) : SameLook l l := ⟨rfl, rfl, rfl, rfl, rfl⟩

/-- The lines of two comments above the last one, and the lines above the comments, which are the
same. The inner lines are only ever counted. -/
inductive SameInside : List LexedLine → List LexedLine → Prop where
  | first {l l' : LexedLine} (above : List LexedLine) :
      l.scan.parenDelta = l'.scan.parenDelta → l.line.isAnnotation = l'.line.isAnnotation →
        l.opensDoc? = l'.opensDoc? → SameInside (l :: above) (l' :: above)
  | inner {l l' : LexedLine} {above above' : List LexedLine} :
      l.scan.parenDelta = 0 → l'.scan.parenDelta = 0 → l.opensDoc? = none → l'.opensDoc? = none →
        SameInside above above' → SameInside (l :: above) (l' :: above')

/-- Lines that look the same from below: they are the same but for the lines of a comment, the last
of which is not passed over. -/
inductive SameAbove : List LexedLine → List LexedLine → Prop where
  | refl (ls : List LexedLine) : SameAbove ls ls
  | cons {l l' : LexedLine} {above above' : List LexedLine} :
      SameLook l l' → SameAbove above above' → SameAbove (l :: above) (l' :: above')
  | last {l l' : LexedLine} {above above' : List LexedLine} : SameLook l l' →
      l.line.isAnnotation = false → l.line.isBlank = false → SameInside above above' →
        SameAbove (l :: above) (l' :: above')

/-- What is above an argument list looks the same. -/
def SameArguments (cap : ℕ) (b : ℤ) (ls ls' : List LexedLine) : Prop :=
  Option.Rel (fun p q => SameAbove p.1 q.1 ∧ p.2 = q.2) (aboveArguments? cap b ls)
    (aboveArguments? cap b ls')

/-- What is above an argument list is the same above the same lines. -/
lemma SameArguments.refl (cap : ℕ) (b : ℤ) (ls : List LexedLine) : SameArguments cap b ls ls := by
  rw [SameArguments]
  cases aboveArguments? cap b ls with
  | none => exact .none
  | some p => exact .some ⟨.refl p.1, rfl⟩

lemma SameArguments.of_some {cap : ℕ} {b : ℤ} {ls ls' rest : List LexedLine} {left : ℕ}
    (h : SameArguments cap b ls ls') (hrest : aboveArguments? cap b ls = some (rest, left)) :
    ∃ rest', aboveArguments? cap b ls' = some (rest', left) ∧ SameAbove rest rest' := by
  rw [SameArguments, hrest] at h
  cases hrest' : aboveArguments? cap b ls' with
  | none =>
      rw [hrest'] at h
      cases h
  | some q =>
      rw [hrest'] at h
      obtain ⟨hsame, hleft⟩ : SameAbove rest q.1 ∧ left = q.2 := by
        cases h with
        | some h => exact h
      exact ⟨q.1, by rw [hleft], hsame⟩

lemma SameArguments.of_none {cap : ℕ} {b : ℤ} {ls ls' : List LexedLine}
    (h : SameArguments cap b ls ls') (hnone : aboveArguments? cap b ls = none) :
    aboveArguments? cap b ls' = none := by
  rw [SameArguments, hnone] at h
  cases hrest' : aboveArguments? cap b ls' with
  | none => rfl
  | some q =>
      rw [hrest'] at h
      cases h

/-- One line up within an argument list. -/
lemma SameArguments.cons {l l' : LexedLine} {above above' : List LexedLine} {b : ℤ}
    (hparens : l.scan.parenDelta = l'.scan.parenDelta)
    (hends : 0 ≤ b + l.scan.parenDelta → l.line.isAnnotation = l'.line.isAnnotation ∧
      (l.line.isAnnotation = true → SameAbove above above'))
    (hgoes : b + l.scan.parenDelta < 0 →
      ∀ cap, SameArguments cap (b + l.scan.parenDelta) above above') (cap : ℕ) :
    SameArguments cap b (l :: above) (l' :: above') := by
  rw [SameArguments]
  cases cap with
  | zero => exact .none
  | succ cap =>
      rw [aboveArguments?, aboveArguments?, ← hparens]
      by_cases hb : b + l.scan.parenDelta ≥ 0
      · obtain ⟨hannotated, habove⟩ := hends hb
        rw [if_pos hb, if_pos hb, ← hannotated]
        split_ifs with hl
        · exact .some ⟨habove hl, rfl⟩
        · exact .none
      · rw [if_neg hb, if_neg hb]
        exact hgoes (not_le.1 hb) cap

/-- Going up through an argument list that ends among the lines of a comment. -/
lemma SameInside.arguments {above above' : List LexedLine} (h : SameInside above above') {b : ℤ}
    (hb : b < 0) (cap : ℕ) : SameArguments cap b above above' := by
  induction h generalizing cap with
  | first above hparens hannotated _ =>
      refine SameArguments.cons hparens (fun _ => ⟨hannotated, fun _ => .refl above⟩)
        (fun _ cap => ?_) cap
      exact SameArguments.refl cap _ above
  | inner hl hl' _ _ _ ih =>
      refine SameArguments.cons (hl.trans hl'.symm) (fun hends => ?_) (fun _ cap => ?_) cap
      · omega
      · rw [hl, add_zero]
        exact ih cap

/-- Going up through an argument list. -/
lemma SameAbove.arguments {above above' : List LexedLine} (h : SameAbove above above') {b : ℤ}
    (hb : b < 0) (cap : ℕ) : SameArguments cap b above above' := by
  induction h generalizing b cap with
  | refl above => exact SameArguments.refl cap b above
  | cons hlook habove ih =>
      refine SameArguments.cons hlook.parenDelta (fun _ => ⟨hlook.annotated, fun _ => habove⟩)
        (fun hgoes cap => ih hgoes cap) cap
  | last hlook hannotated _ hinside =>
      refine SameArguments.cons hlook.parenDelta (fun _ => ⟨hlook.annotated, fun hl => ?_⟩)
        (fun hgoes cap => hinside.arguments hgoes cap) cap
      rw [hannotated] at hl
      cases hl

/-- Among the nearest of the lines the same opening mark is found. -/
lemma SameInside.opensWithMarker_take {above above' : List LexedLine} (h : SameInside above above')
    (n : ℕ) : opensWithMarker (above.take n) = opensWithMarker (above'.take n) := by
  induction h generalizing n with
  | first above _ _ hdoc =>
      cases n with
      | zero => rfl
      | succ n => rw [List.take_succ_cons, List.take_succ_cons, opensWithMarker_cons, hdoc,
          opensWithMarker_cons]
  | inner _ _ hl hl' _ ih =>
      cases n with
      | zero => rfl
      | succ n =>
          rw [List.take_succ_cons, List.take_succ_cons, opensWithMarker_cons, hl,
            opensWithMarker_cons, hl']
          exact ih n

lemma SameAbove.opensWithMarker_take {above above' : List LexedLine} (h : SameAbove above above')
    (n : ℕ) : opensWithMarker (above.take n) = opensWithMarker (above'.take n) := by
  have hstep {l l' : LexedLine} {above above' : List LexedLine} (hlook : SameLook l l')
      (hrest : ∀ n, opensWithMarker (above.take n) = opensWithMarker (above'.take n)) (n : ℕ) :
      opensWithMarker ((l :: above).take n) = opensWithMarker ((l' :: above').take n) := by
    cases n with
    | zero => rfl
    | succ n =>
        rw [List.take_succ_cons, List.take_succ_cons, opensWithMarker_cons, hlook.opensDoc, hrest,
          opensWithMarker_cons]
  induction h generalizing n with
  | refl above => rfl
  | cons hlook _ ih => exact hstep hlook ih n
  | last hlook _ _ hinside => exact hstep hlook hinside.opensWithMarker_take n

/-- The nearest of lines that look the same. -/
lemma SameAbove.exists_cons {l : LexedLine} {above ls' : List LexedLine}
    (h : SameAbove (l :: above) ls') :
    ∃ l' above', ls' = l' :: above' ∧ SameLook l l' ∧
      (∀ b < 0, ∀ cap, SameArguments cap b above above') ∧
      (l.line.isAnnotation = true ∨ l.line.isBlank = true → SameAbove above above') := by
  cases h with
  | refl =>
      exact ⟨l, above, rfl, .refl l, fun b _ cap => .refl cap b above, fun _ => .refl above⟩
  | cons hlook habove =>
      exact ⟨_, _, rfl, hlook, fun b hb cap => habove.arguments hb cap, fun _ => habove⟩
  | last hlook hannotated hblank hinside =>
      refine ⟨_, _, rfl, hlook, fun b hb cap => hinside.arguments hb cap, ?_⟩
      rw [hannotated, hblank]
      rintro (h | h) <;> cases h

/-- **Lines that look the same from below** document the same. -/
theorem SameAbove.documentedBy_eq {above above' : List LexedLine} (h : SameAbove above above')
    (window cap : ℕ) : documentedBy window cap above = documentedBy window cap above' := by
  -- along the way up from the first lines; from the other lines it is the same way
  induction window, cap, above using documentedBy.induct generalizing above' with
  | case1 window cap =>
      cases h
      rfl
  | case2 window l above =>
      obtain ⟨l', above', rfl, -⟩ := h.exists_cons
      simp [documentedBy]
  | case3 window l above cap hl rest left hargs ih =>
      obtain ⟨l', above', rfl, hlook, hup, -⟩ := h.exists_cons
      obtain ⟨rest', hargs', hrest⟩ := (hup _ hl cap).of_some hargs
      rw [Nat.succ_eq_add_one, documentedBy_arguments hl hargs, ih hrest]
      rw [hlook.parenDelta] at hl hargs'
      rw [documentedBy_arguments hl hargs']
  | case4 window l above cap hl hargs =>
      obtain ⟨l', above', rfl, hlook, hup, -⟩ := h.exists_cons
      have hargs' := (hup _ hl cap).of_none hargs
      rw [Nat.succ_eq_add_one, documentedBy_unowned hl hargs]
      rw [hlook.parenDelta] at hl hargs'
      rw [documentedBy_unowned hl hargs']
  | case5 window l above cap hl ha ih =>
      obtain ⟨l', above', rfl, hlook, -, hpass⟩ := h.exists_cons
      rw [Nat.succ_eq_add_one, documentedBy_annotated hl ha, ih (hpass (.inl ha))]
      rw [hlook.parenDelta] at hl
      rw [hlook.annotated] at ha
      rw [documentedBy_annotated hl ha]
  | case6 l above cap hl ha hb =>
      obtain ⟨l', above', rfl, hlook, -⟩ := h.exists_cons
      have hl' := hlook.parenDelta ▸ hl
      have ha' := hlook.annotated ▸ ha
      have hb' := hlook.blank ▸ hb
      simp [documentedBy, hl, ha, hb, hl', ha', hb']
  | case7 l above cap hl ha hb window ih =>
      obtain ⟨l', above', rfl, hlook, -, hpass⟩ := h.exists_cons
      rw [Nat.succ_eq_add_one, Nat.succ_eq_add_one, documentedBy_blank hl ha hb,
        ih (hpass (.inr hb))]
      rw [hlook.parenDelta] at hl
      rw [hlook.annotated] at ha
      rw [hlook.blank] at hb
      rw [documentedBy_blank hl ha hb]
  | case8 window l above cap hl ha hb =>
      obtain ⟨l', above', rfl, hlook, -⟩ := h.exists_cons
      rw [Nat.succ_eq_add_one, documentedBy_other hl ha hb, h.opensWithMarker_take, hlook.closes]
      rw [hlook.parenDelta] at hl
      rw [hlook.annotated] at ha
      rw [hlook.blank] at hb
      rw [documentedBy_other hl ha hb]

/-! ### What a line looks like -/

/-- A text is trimmed in front of a documentation comment and after its opening mark. -/
lemma trim_append_doc (u t : List Char) : Text.trim (u ++ '/' :: '*' :: '*' :: t) =
    Text.trimStart u ++ '/' :: '*' :: '*' :: Text.trimEnd t := by
  have hstar := trimEnd_append_cons (by decide : Text.isBlank '*' = false) ['*'] t
  rw [List.singleton_append, List.singleton_append] at hstar
  rw [trim_append_cons (by decide), hstar]

/-- A text is trimmed in front of the end of a comment and after it. -/
lemma trim_append_end (u t : List Char) : Text.trim (u ++ '*' :: '/' :: t) =
    Text.trimStart u ++ '*' :: '/' :: Text.trimEnd t := by
  have hslash := trimEnd_append_cons (by decide : Text.isBlank '/' = false) [] t
  rw [List.nil_append, List.nil_append] at hslash
  rw [trim_append_cons (by decide), hslash]

/-- A text without a slash starts what comes before a slash, or nothing. -/
lemma isPrefixOf_append_slash {w : List Char} (hw : '/' ∉ w) (u t : List Char) :
    w.isPrefixOf (u ++ '/' :: t) = w.isPrefixOf u := by
  induction u generalizing w with
  | nil =>
      cases w with
      | nil => rfl
      | cons c w =>
          have hc : c ≠ '/' := fun h => hw (h ▸ List.mem_cons_self)
          simp [List.isPrefixOf, hc]
  | cons d u ih =>
      cases w with
      | nil => rfl
      | cons c w =>
          rw [List.cons_append, List.isPrefixOf, List.isPrefixOf,
            ih fun h => hw (List.mem_cons_of_mem c h)]

/-- What a text starts with is decided by as many of its characters. -/
lemma isPrefixOf_append_of_le {w s : List Char} (h : w.length ≤ s.length) (t : List Char) :
    w.isPrefixOf (s ++ t) = w.isPrefixOf s := by
  rw [Bool.eq_iff_iff, List.isPrefixOf_iff_prefix, List.isPrefixOf_iff_prefix]
  refine ⟨fun hw => ?_, fun hw => hw.trans (List.prefix_append s t)⟩
  exact List.prefix_of_prefix_length_le hw (List.prefix_append s t) h

namespace CommentPlace

variable (x : CommentPlace) (n : ℕ) (t : List Char)

/-- Whether a line with a documentation comment is taken for an annotation is decided in front of
the comment. -/
lemma isAnnotation_of_doc : Line.isAnnotation ⟨n, x.frontText ++ '/' :: '*' :: '*' :: t⟩ =
    (['@'].isPrefixOf (Text.trimStart x.frontText) &&
      !"@interface".toList.isPrefixOf (Text.trimStart x.frontText)) := by
  rw [Line.isAnnotation, Line.trimmed, trim_append_doc, isPrefixOf_append_slash (by decide),
    isPrefixOf_append_slash (by decide)]

/-- Whether it is taken for a comment is decided up to the opening mark. -/
lemma isComment_of_doc : Line.isComment ⟨n, x.frontText ++ '/' :: '*' :: '*' :: t⟩ =
    Line.isComment ⟨n, x.frontText ++ ['/', '*', '*']⟩ := by
  have htrim := trim_append_doc x.frontText t
  have htrim' := trim_append_doc x.frontText []
  simp only [Line.isComment, Line.opensComment, Line.trimmed, htrim, htrim']
  cases Text.trimStart x.frontText with
  | nil => rfl
  | cons c u => cases u <;> rfl

/-- It is not blank. -/
lemma isBlank_of_doc : Line.isBlank ⟨n, x.frontText ++ '/' :: '*' :: '*' :: t⟩ = false := by
  rw [Line.isBlank, Line.trimmed, trim_append_doc]
  simp

/-- Whether its first opening mark goes on with a star is decided up to there. -/
lemma opensDoc?_of_doc (s : LexState) (scan : Scan) :
    LexedLine.opensDoc? ⟨⟨n, x.frontText ++ '/' :: '*' :: '*' :: t⟩, s, scan⟩ =
      LexedLine.opensDoc? ⟨⟨n, x.frontText ++ ['/', '*', '*']⟩, s, scan⟩ := by
  simp only [LexedLine.opensDoc?]
  induction x.frontText with
  | nil => rfl
  | cons c u ih =>
      have hstart {w : List Char} (hw : w.length ≤ 3) :
          w.isPrefixOf (c :: (u ++ '/' :: '*' :: '*' :: t)) =
            w.isPrefixOf (c :: (u ++ ['/', '*', '*'])) := by
        have hassoc : c :: (u ++ '/' :: '*' :: '*' :: t) = c :: (u ++ ['/', '*', '*']) ++ t := by
          simp
        rw [hassoc]
        exact isPrefixOf_append_of_le (by simp; omega) t
      rw [List.cons_append, List.cons_append, fromCommentStart?, fromCommentStart?,
        hstart (by decide)]
      split_ifs
      · exact congrArg some (hstart (by decide))
      · exact ih

/-- Whether a line with the end of a comment ends like one is decided from there on. -/
lemma closesComment_of_end (u : List Char) : Line.closesComment ⟨n, u ++ '*' :: '/' :: t⟩ =
    "*/".toList.isSuffixOf ('*' :: '/' :: Text.trimEnd t) := by
  rw [Line.closesComment, Line.trimmed, trim_append_end, Bool.eq_iff_iff,
    List.isSuffixOf_iff_suffix, List.isSuffixOf_iff_suffix]
  refine ⟨fun h => ?_, fun h => h.trans (List.suffix_append _ _)⟩
  exact List.suffix_of_suffix_length_le h (List.suffix_append _ _) (by simp)

/-! ### The lines of two comments -/

/-- The line with a whole documentation comment looks the same whatever the comment says. -/
lemma sameLook_onlyLine (body body' : List Char) :
    SameLook (x.onlyLine ('*' :: body)) (x.onlyLine ('*' :: body')) := by
  refine ⟨rfl, ?_, ?_, ?_, ?_⟩
  · exact (x.isAnnotation_of_doc _ _).trans (x.isAnnotation_of_doc _ _).symm
  · exact (x.isBlank_of_doc _ _).trans (x.isBlank_of_doc _ _).symm
  · have hends (body : List Char) : (x.onlyLine ('*' :: body)).line.closesComment =
        "*/".toList.isSuffixOf ('*' :: '/' :: Text.trimEnd x.tail) := by
      rw [← closesComment_of_end x.number x.tail (x.frontText ++ '/' :: '*' :: '*' :: body)]
      simp [onlyLine]
    rw [hends, hends]
  · exact (x.opensDoc?_of_doc _ _ _ _).trans (x.opensDoc?_of_doc _ _ _ _).symm

end CommentPlace

/-- The lines of the comment below the first one are not mistaken for anything else: there is no
other opening mark on them, and the last one does not look like an annotation. -/
structure Inconspicuous (body : List Char) : Prop where
  opensOnce : OpensOnce body
  unannotated : ∀ text ∈ (Text.splitAt '\n' body).tail.getLast?, ¬ ['@'] <+: Text.trimStart text

namespace CommentPlace

variable {x : CommentPlace}

/-- The last line of an inconspicuous comment does not look like an annotation. -/
lemma isAnnotation_lastLine {text : List Char} (htext : ¬ ['@'] <+: Text.trimStart text) (n : ℕ) :
    (x.lastLine n text).line.isAnnotation = false := by
  have htrim : (x.lastLine n text).line.trimmed =
      Text.trimStart text ++ '*' :: '/' :: Text.trimEnd x.tail := trim_append_end text x.tail
  have hat : ['@'].isPrefixOf (x.lastLine n text).line.trimmed = false := by
    rw [htrim]
    cases hstart : Text.trimStart text with
    | nil => rfl
    | cons c u =>
        have hc : '@' ≠ c := fun h => htext (by rw [hstart, h]; exact List.prefix_append [c] u)
        simpa [List.isPrefixOf] using hc
  rw [Line.isAnnotation, hat, Bool.false_and]

/-- It is not blank. -/
lemma isBlank_lastLine (n : ℕ) (text : List Char) : (x.lastLine n text).line.isBlank = false := by
  have htrim : (x.lastLine n text).line.trimmed =
      Text.trimStart text ++ '*' :: '/' :: Text.trimEnd x.tail := trim_append_end text x.tail
  rw [Line.isBlank, htrim]
  simp

/-- The last lines of two inconspicuous comments look the same. -/
lemma sameLook_lastLine {text text' : List Char} (htext : ¬ openingMark <:+: text ++ ['*'])
    (htext' : ¬ openingMark <:+: text' ++ ['*']) (hat : ¬ ['@'] <+: Text.trimStart text)
    (hat' : ¬ ['@'] <+: Text.trimStart text') (n n' : ℕ) :
    SameLook (x.lastLine n text) (x.lastLine n' text') := by
  refine ⟨rfl, ?_, ?_, ?_, ?_⟩
  · rw [isAnnotation_lastLine hat, isAnnotation_lastLine hat']
  · rw [isBlank_lastLine, isBlank_lastLine]
  · exact (closesComment_of_end _ _ _).trans (closesComment_of_end _ _ _).symm
  · rw [LexedLine.opensDoc?, LexedLine.opensDoc?, fromCommentStart?_lastLine htext,
      fromCommentStart?_lastLine htext']

/-- The lines of two comments between the first and the last ones are only counted. -/
lemma sameInside_append {ks ks' above above' : List LexedLine} (hlength : ks.length = ks'.length)
    (hks : ∀ k ∈ ks, k.scan.parenDelta = 0 ∧ k.opensDoc? = none)
    (hks' : ∀ k ∈ ks', k.scan.parenDelta = 0 ∧ k.opensDoc? = none)
    (habove : SameInside above above') : SameInside (ks ++ above) (ks' ++ above') := by
  induction ks generalizing ks' with
  | nil =>
      obtain rfl : ks' = [] := List.length_eq_zero_iff.1 hlength.symm
      exact habove
  | cons k ks ih =>
      cases ks' with
      | nil => cases hlength
      | cons k' ks' =>
          obtain ⟨hk, hks⟩ := List.forall_mem_cons.1 hks
          obtain ⟨hk', hks'⟩ := List.forall_mem_cons.1 hks'
          exact .inner hk.1 hk'.1 hk.2 hk'.2 (ih (Nat.succ.inj hlength) hks hks')

/-- A line between the first and the last one of such a comment is only counted. -/
lemma innerLines_quiet {ts : List (List Char)}
    (hts : ∀ text ∈ ts, '\n' ∉ text ∧ ¬ openingMark <:+: text) (n : ℕ) :
    ∀ k ∈ (innerLines n ts).reverse, k.scan.parenDelta = 0 ∧ k.opensDoc? = none := by
  intro k hk
  have hmem := List.mem_reverse.1 hk
  have hnone := fromCommentStart?_eq_none_iff.2 (fromCommentStart?_innerLines hts n k hmem)
  obtain ⟨m, text, -, rfl⟩ := exists_of_mem_innerLines hmem
  exact ⟨rfl, by rw [LexedLine.opensDoc?, hnone]; rfl⟩

/-- A documentation comment of several lines. -/
lemma exists_doc_parts {body : List Char} (hmem : '\n' ∈ body)
    (hbody : Inconspicuous ('*' :: body)) :
    ∃ first ts last, Text.splitAt '\n' ('*' :: body) = ('*' :: first) :: (ts ++ [last]) ∧
      ts.length + 1 = body.count '\n' ∧ (∀ text ∈ ts, '\n' ∉ text ∧ ¬ openingMark <:+: text) ∧
      ¬ openingMark <:+: last ++ ['*'] ∧ ¬ ['@'] <+: Text.trimStart last := by
  obtain ⟨first, rest, ts, last, -, -, hparts⟩ := exists_splitAt hmem
  have hdoc := splitAt_cons (by decide : '*' ≠ '\n') hparts
  obtain ⟨hts, hlast⟩ := hbody.opensOnce.parts hdoc
  refine ⟨first, ts, last, hdoc, ?_, hts, hlast, ?_⟩
  · have hlength := length_splitAt body
    rw [hparts] at hlength
    simp only [List.length_cons, List.length_append, List.length_nil] at hlength
    omega
  · refine hbody.unannotated last ?_
    rw [hdoc]
    simp

/-- **The lines of two comments** with as many lines look the same from below. -/
theorem sameAbove_lines {body body' : List Char} (hlines : body.count '\n' = body'.count '\n')
    (hbody : Inconspicuous ('*' :: body)) (hbody' : Inconspicuous ('*' :: body'))
    (above : List LexedLine) :
    SameAbove ((x.lines (Text.splitAt '\n' ('*' :: body))).reverse ++ above)
      ((x.lines (Text.splitAt '\n' ('*' :: body'))).reverse ++ above) := by
  by_cases hmem : '\n' ∈ body
  · have hmem' : '\n' ∈ body' := List.count_pos_iff.1 (hlines ▸ List.count_pos_iff.2 hmem)
    obtain ⟨first, ts, last, hparts, hlength, hts, hlast, hat⟩ := exists_doc_parts hmem hbody
    obtain ⟨first', ts', last', hparts', hlength', hts', hlast', hat'⟩ :=
      exists_doc_parts hmem' hbody'
    have hfirst : SameInside (x.firstLine ('*' :: first) :: above)
        (x.firstLine ('*' :: first') :: above) := by
      have htext (first : List Char) : lineText ('*' :: first) = '*' :: lineText first :=
        lineText_append [] (by decide) (by decide) first
      refine .first above rfl ?_ ?_
      · simp only [firstLine, htext]
        exact (x.isAnnotation_of_doc _ _).trans (x.isAnnotation_of_doc _ _).symm
      · simp only [firstLine, htext]
        exact (x.opensDoc?_of_doc _ _ _ _).trans (x.opensDoc?_of_doc _ _ _ _).symm
    have hinside := sameInside_append (by simp; omega) (innerLines_quiet hts (x.number + 1))
      (innerLines_quiet hts' (x.number + 1)) hfirst
    have hsame := SameAbove.last (sameLook_lastLine (x := x) hlast hlast' hat hat'
      (x.number + 1 + ts.length) (x.number + 1 + ts'.length)) (isAnnotation_lastLine hat _)
      (isBlank_lastLine _ _) hinside
    rw [hparts, hparts', lines_concat, lines_concat]
    simpa using hsame
  · have hmem' : '\n' ∉ body' := fun h => hmem (List.count_pos_iff.1
      (hlines ▸ List.count_pos_iff.2 h))
    have hone {body : List Char} (h : '\n' ∉ body) :
        Text.splitAt '\n' ('*' :: body) = ['*' :: body] := Text.splitAt_of_not_mem (by simp [h])
    rw [hone hmem, hone hmem']
    exact .cons (x.sameLook_onlyLine body body') (.refl above)

end CommentPlace

/-! ### Undocumented declarations -/

section MissingDocs

variable (path : Path) (window cap : ℕ) (visibilities : List Visibility)

/-- The lines above the further lines are the first lines and those above them. -/
lemma missingDocsFrom_append (above ls ms : List LexedLine) :
    missingDocsFrom path window cap visibilities above (ls ++ ms) =
      missingDocsFrom path window cap visibilities above ls ++
        missingDocsFrom path window cap visibilities (ls.reverse ++ above) ms := by
  induction ls generalizing above with
  | nil => rfl
  | cons l ls ih =>
      have hreverse : (l :: ls).reverse ++ above = ls.reverse ++ l :: above := by simp
      rw [List.cons_append, missingDocsFrom, missingDocsFrom, ih, hreverse]
      cases requiredDeclaration? visibilities l with
      | none => rfl
      | some d =>
          dsimp only
          split_ifs
          · rfl
          · rfl

/-- Below lines that look the same from below, the same declarations are undocumented. -/
lemma SameAbove.missingDocsFrom_eq {above above' : List LexedLine} (h : SameAbove above above')
    (ls : List LexedLine) : missingDocsFrom path window cap visibilities above ls =
      missingDocsFrom path window cap visibilities above' ls := by
  induction ls generalizing above above' with
  | nil => rfl
  | cons l ls ih =>
      rw [missingDocsFrom, missingDocsFrom, h.documentedBy_eq, ih (.cons (.refl l) h)]

/-- A line that starts inside a comment declares nothing. -/
lemma requiredDeclaration?_inside {l : LexedLine} (h : l.entry = .blockComment) :
    requiredDeclaration? visibilities l = none := by
  simp [requiredDeclaration?, h]

/-- Lines inside a comment declare nothing. -/
lemma missingDocsFrom_inside {ls : List LexedLine} (h : ∀ l ∈ ls, l.entry = .blockComment)
    (above : List LexedLine) : missingDocsFrom path window cap visibilities above ls = [] := by
  induction ls generalizing above with
  | nil => rfl
  | cons l ls ih =>
      obtain ⟨hl, hls⟩ := List.forall_mem_cons.1 h
      rw [missingDocsFrom, ih hls, requiredDeclaration?_inside visibilities hl]

/-- What a line with a documentation comment declares does not depend on what the comment says. -/
lemma requiredDeclaration?_doc (x : CommentPlace) (s : LexState) (scan : Scan) (t t' : List Char) :
    requiredDeclaration? visibilities
        ⟨⟨x.number, x.frontText ++ '/' :: '*' :: '*' :: t⟩, s, scan⟩ =
      requiredDeclaration? visibilities
        ⟨⟨x.number, x.frontText ++ '/' :: '*' :: '*' :: t'⟩, s, scan⟩ := by
  simp only [requiredDeclaration?, LexedLine.isComment, x.isComment_of_doc _ t,
    x.isComment_of_doc _ t', x.isBlank_of_doc _ t, x.isBlank_of_doc _ t', LexedLine.code]

/-- The lines of a documentation comment: the first one, which is scanned alike for all comments
with as many lines, and lines that start inside the comment. -/
lemma exists_doc_lines (x : CommentPlace) (body : List Char) :
    ∃ t inside, (∀ l ∈ inside, l.entry = .blockComment) ∧
      x.lines (Text.splitAt '\n' ('*' :: body)) =
        ⟨⟨x.number, x.frontText ++ '/' :: '*' :: '*' :: t⟩, x.state,
          if 0 < body.count '\n' then { scanOf x.state x.front with exit := .blockComment }
          else scanOf x.state (x.front ++ CommentPlace.closing :: marksFrom .code x.tail)⟩ ::
            inside := by
  by_cases hmem : '\n' ∈ body
  · obtain ⟨first, rest, ts, last, -, -, hparts⟩ := exists_splitAt hmem
    have htext : lineText ('*' :: first) = '*' :: lineText first :=
      lineText_append [] (by decide) (by decide) first
    refine ⟨lineText first, CommentPlace.innerLines (x.number + 1) ts ++
      [x.lastLine (x.number + 1 + ts.length) last], fun l hl => ?_, ?_⟩
    · rcases List.mem_append.1 hl with hl | hl
      · obtain ⟨k, text, -, rfl⟩ := CommentPlace.exists_of_mem_innerLines hl
        rfl
      · obtain rfl := List.mem_singleton.1 hl
        rfl
    · rw [splitAt_cons (by decide) hparts, CommentPlace.lines_concat,
        if_pos (List.count_pos_iff.2 hmem), CommentPlace.firstLine, htext]
  · have hparts : Text.splitAt '\n' ('*' :: body) = ['*' :: body] :=
      Text.splitAt_of_not_mem (by simp [hmem])
    refine ⟨body ++ '*' :: '/' :: x.tail, [], by simp, ?_⟩
    rw [hparts, List.count_eq_zero.2 hmem, if_neg (Nat.lt_irrefl 0)]
    rfl

/-- On the lines of two comments at the same place the same declarations are undocumented. -/
lemma missingDocsFrom_lines (x : CommentPlace) {body body' : List Char}
    (hlines : body.count '\n' = body'.count '\n') (above : List LexedLine) :
    missingDocsFrom path window cap visibilities above
        (x.lines (Text.splitAt '\n' ('*' :: body))) =
      missingDocsFrom path window cap visibilities above
        (x.lines (Text.splitAt '\n' ('*' :: body'))) := by
  obtain ⟨t, inside, hinside, hls⟩ := exists_doc_lines x body
  obtain ⟨t', inside', hinside', hls'⟩ := exists_doc_lines x body'
  rw [hls, hls', missingDocsFrom, missingDocsFrom, missingDocsFrom_inside _ _ _ _ hinside,
    missingDocsFrom_inside _ _ _ _ hinside', hlines, requiredDeclaration?_doc _ x _ _ t t']

end MissingDocs

/-! ### Comments on lines of their own -/

/-- White space has no parentheses. -/
lemma parenDelta_of_blank {ms : List Mark} (s : LexState)
    (hms : ∀ m ∈ ms, m.region = .code → Text.isBlank m.char = true) :
    (scanOf s ms).parenDelta = 0 := by
  have hnone (c : Char) (hc : Text.isBlank c = false) : (plainChars ms).count c = 0 := by
    rw [List.count_eq_zero, plainChars, List.mem_map]
    rintro ⟨m, hm, rfl⟩
    obtain ⟨hm, hcode⟩ := List.mem_filter.1 hm
    rw [hms m hm (by simpa using hcode)] at hc
    cases hc
  have hdelta : (scanOf s ms).parenDelta =
      (plainChars ms).count '(' - (plainChars ms).count ')' := rfl
  rw [hdelta, hnone '(' (by decide), hnone ')' (by decide)]
  rfl

/-- A documentation comment stands on lines of its own. -/
structure CommentPlace.StandsAlone (x : CommentPlace) : Prop where
  front : ∀ c ∈ x.frontText, Text.isBlank c = true
  tail : ∀ c ∈ x.tail, Text.isBlank c = true

namespace CommentPlace

variable {x : CommentPlace}

/-- After such a comment there are no parentheses. -/
lemma StandsAlone.after (h : x.StandsAlone) :
    ∀ m ∈ closing :: marksFrom .code x.tail, m.region = .code → Text.isBlank m.char = true := by
  intro m hm hcode
  rcases List.mem_cons.1 hm with rfl | hm
  · cases hcode
  · refine h.tail m.char ?_
    rw [← map_char_marksFrom .code x.tail]
    exact List.mem_map_of_mem hm

/-- In front of such a comment there is no opening mark. -/
lemma StandsAlone.not_openingMark_front (h : x.StandsAlone) :
    ¬ openingMark <:+: x.frontText ++ ['/'] := by
  intro hmark
  have hmem : '*' ∈ x.frontText ++ ['/'] := hmark.subset (by simp [openingMark])
  rcases List.mem_append.1 hmem with hmem | hmem
  · exact absurd (h.front '*' hmem) (by decide)
  · simp at hmem

/-- The line ends with the end of the comment. -/
lemma StandsAlone.closesComment (h : x.StandsAlone) (n : ℕ) (u : List Char) :
    Line.closesComment ⟨n, u ++ '*' :: '/' :: x.tail⟩ = true := by
  have htail : Text.trimEnd x.tail = [] := by
    have hstart := Text.trimStart_eq_nil.2 fun c hc => h.tail c (List.mem_reverse.1 hc)
    rw [Text.trimStart] at hstart
    rw [Text.trimEnd, hstart, List.reverse_nil]
  rw [closesComment_of_end, htail]
  rfl

/-- The last line of an inconspicuous comment that stands alone is not passed over, and it ends like
a comment. -/
lemma StandsAlone.exists_last (h : x.StandsAlone) {body : List Char}
    (hbody : Inconspicuous ('*' :: body)) :
    ∃ l above, (x.lines (Text.splitAt '\n' ('*' :: body))).reverse = l :: above ∧ l.IsContent ∧
      l.line.closesComment = true := by
  by_cases hmem : '\n' ∈ body
  · obtain ⟨first, ts, last, hparts, -, -, -, hat⟩ := exists_doc_parts hmem hbody
    refine ⟨x.lastLine (x.number + 1 + ts.length) last,
      (x.firstLine ('*' :: first) :: innerLines (x.number + 1) ts).reverse, ?_, ⟨?_, ?_, ?_⟩, ?_⟩
    · rw [hparts, lines_concat]
      simp
    · exact (parenDelta_of_blank .blockComment h.after).ge
    · exact isAnnotation_lastLine hat _
    · exact isBlank_lastLine _ _
    · exact h.closesComment _ _
  · have hparts : Text.splitAt '\n' ('*' :: body) = ['*' :: body] :=
      Text.splitAt_of_not_mem (by simp [hmem])
    have htext : (x.onlyLine ('*' :: body)).line =
        ⟨x.number, x.frontText ++ '/' :: '*' :: '*' :: (body ++ '*' :: '/' :: x.tail)⟩ := rfl
    refine ⟨x.onlyLine ('*' :: body), [], by rw [hparts]; rfl, ⟨?_, ?_, ?_⟩, ?_⟩
    · refine (parenDelta_of_blank x.state fun m hm hcode => ?_).ge
      rcases List.mem_append.1 hm with hm | hm
      · exact h.front m.char (List.mem_map_of_mem hm)
      · exact h.after m hm hcode
    · rw [htext, isAnnotation_of_doc, Text.trimStart_eq_nil.2 h.front]
      rfl
    · rw [htext, isBlank_of_doc]
    · have hends := h.closesComment x.number (x.frontText ++ '/' :: '*' :: '*' :: body)
      rw [htext]
      simpa using hends

/-- **A declaration directly below** a documentation comment that stands alone is documented if the
comment is within the cap. -/
lemma StandsAlone.documentedBy (h : x.StandsAlone) {body : List Char}
    (hbody : Inconspicuous ('*' :: body)) (above : List LexedLine) (window : ℕ) {cap : ℕ}
    (hcap : body.count '\n' < cap) :
    documentedBy window cap ((x.lines (Text.splitAt '\n' ('*' :: body))).reverse ++ above) =
      true := by
  obtain ⟨l, rest, hlines, hl, hends⟩ := h.exists_last hbody
  have hopens := (opensWithMarker_lines hbody.opensOnce h.not_openingMark_front
    (not_openingMark_of_blank h.tail) []).2 ⟨body ++ ['*', '/'], rfl⟩
  rw [List.append_nil] at hopens
  have hlength : (x.lines (Text.splitAt '\n' ('*' :: body))).reverse.length ≤ cap := by
    rw [List.length_reverse, length_lines, List.count_cons_of_ne (by decide)]
    omega
  have htake : opensWithMarker
      (((x.lines (Text.splitAt '\n' ('*' :: body))).reverse ++ above).take cap) = true := by
    refine opensWithMarker_take_mono hlength ?_
    rwa [List.take_left]
  rw [hlines] at htake ⊢
  exact documentedBy_iff.2 ⟨0, [], l, rest ++ above, rfl, .nil, Nat.zero_le _, hl, hends, by
    rw [List.length_nil]; omega, by simpa using htake⟩

end CommentPlace

/-! ### Two texts -/

/-- More lines that are the same below lines that look the same. -/
lemma SameAbove.append {above above' : List LexedLine} (h : SameAbove above above')
    (ls : List LexedLine) : SameAbove (ls ++ above) (ls ++ above') := by
  induction ls with
  | nil => exact h
  | cons l ls ih => exact .cons (.refl l) ih

/-- **What a documentation comment says does not matter.** Let two texts differ only in the body of
one documentation comment, which has as many lines in both of them and is inconspicuous. Then the
same lines outside of the comment are documented and the same declarations are not, for all
budgets. A declaration directly below the comment is documented if the comment stands alone and is
within the cap. -/
theorem isDocumented_eq_of_wording {pre post : List Element} {body body' : List Char}
    (h : WellFormed (pre ++ .blockComment ('*' :: body) true :: post))
    (h' : WellFormed (pre ++ .blockComment ('*' :: body') true :: post))
    (hlines : body.count '\n' = body'.count '\n') (hbody : Inconspicuous ('*' :: body))
    (hbody' : Inconspicuous ('*' :: body')) :
    (∀ window cap index,
      index ≤ (render pre).count '\n' ∨ (render pre).count '\n' + body.count '\n' < index →
        isDocumented window cap
            (lex (render (pre ++ .blockComment ('*' :: body) true :: post))) index =
          isDocumented window cap
            (lex (render (pre ++ .blockComment ('*' :: body') true :: post))) index) ∧
      (∀ path window cap visibilities,
        missingDocs path window cap visibilities
            (lex (render (pre ++ .blockComment ('*' :: body) true :: post))) =
          missingDocs path window cap visibilities
            (lex (render (pre ++ .blockComment ('*' :: body') true :: post)))) ∧
      ((∀ c ∈ lastLineOf (render pre), Text.isBlank c = true) →
        (∀ c ∈ (render post).takeWhile inLine, Text.isBlank c = true) →
          ∀ window cap, body.count '\n' < cap →
            isDocumented window cap (lex (render (pre ++ .blockComment ('*' :: body) true :: post)))
              ((render pre).count '\n' + body.count '\n' + 1) = true) := by
  obtain ⟨x, above, rest, -, habove, hfront, htail, hlex⟩ := exists_lex_comment pre post
  have hstar (body : List Char) : ('*' :: body).count '\n' = body.count '\n' :=
    List.count_cons_of_ne (by decide)
  have hls := hlex _ h
  have hls' := hlex _ h'
  have hlength := x.length_lines ('*' :: body)
  have hlength' := x.length_lines ('*' :: body')
  rw [hstar] at hls hls' hlength hlength'
  rw [← hlines] at hls' hlength'
  rw [hls, hls']
  generalize lexFrom x.stateBelow (numberedFrom (x.number + body.count '\n' + 1)
    (Text.lines rest)) = below
  have hsame := CommentPlace.sameAbove_lines (x := x) hlines hbody hbody' above.reverse
  refine ⟨fun window cap index hindex => ?_, fun path window cap visibilities => ?_,
    fun hblank hblank' window cap hcap => ?_⟩
  · rw [isDocumented, isDocumented]
    rcases hindex with hindex | hindex
    · rw [List.take_append_of_le_length (by omega), List.take_append_of_le_length (by omega)]
    · obtain ⟨k, rfl⟩ : ∃ k, index = above.length + (body.count '\n' + 1 + k) :=
        ⟨index - (above.length + (body.count '\n' + 1)), by omega⟩
      have htake (ls : List LexedLine) (hls : ls.length = body.count '\n' + 1) :
          ((above ++ (ls ++ below)).take (above.length + (body.count '\n' + 1 + k))).reverse =
            (below.take k).reverse ++ (ls.reverse ++ above.reverse) := by
        rw [List.take_length_add_append, ← hls, List.take_length_add_append]
        simp
      rw [htake _ hlength, htake _ hlength']
      exact (hsame.append _).documentedBy_eq window cap
  · rw [missingDocs, missingDocs, missingDocsFrom_append, missingDocsFrom_append,
      missingDocsFrom_append, missingDocsFrom_append, List.append_nil,
      missingDocsFrom_lines _ _ _ _ x hlines, hsame.missingDocsFrom_eq]
  · have halone : x.StandsAlone :=
      ⟨fun c hc => hblank c (hfront ▸ hc), fun c hc => hblank' c (htail.subset hc)⟩
    have htake : ((above ++ (x.lines (Text.splitAt '\n' ('*' :: body)) ++ below)).take
        ((render pre).count '\n' + body.count '\n' + 1)).reverse =
          (x.lines (Text.splitAt '\n' ('*' :: body))).reverse ++ above.reverse := by
      rw [← habove, Nat.add_assoc, ← hlength, List.take_length_add_append, List.take_left]
      simp
    rw [isDocumented, htake]
    exact halone.documentedBy hbody above.reverse window hcap

/-- Two comments of two lines, one of which has an opening mark on its first line. -/
theorem isDocumented_eq_of_wording_twoLines :
    let post := "\nint f();\n".toList.map Element.plain
    let es := Element.blockComment "* a\n b ".toList true :: post
    let es' := Element.blockComment "* see /* \n \x7b(@ ".toList true :: post
    WellFormed es ∧ WellFormed es' ∧ isDocumented 5 50 (lex (render es)) 2 = true ∧
      isDocumented 5 50 (lex (render es')) 2 = true ∧
      ∀ path visibilities, missingDocs path 5 50 visibilities (lex (render es)) =
        missingDocs path 5 50 visibilities (lex (render es')) := by
  intro post es es'
  have hes : WellFormed ([] ++ es) := by decide +kernel
  have hes' : WellFormed ([] ++ es') := by decide +kernel
  have hbody : Inconspicuous "* a\n b ".toList := ⟨by decide, by decide⟩
  have hbody' : Inconspicuous "* see /* \n \x7b(@ ".toList := ⟨by decide, by decide⟩
  obtain ⟨hsame, hmissing, hbelow⟩ := isDocumented_eq_of_wording hes hes' (by decide) hbody hbody'
  have hdocumented := hbelow (List.all_eq_true.1 (by decide))
    (List.all_eq_true.1 (by decide +kernel)) 5 50 (by decide)
  have hdocumented' := hsame 5 50 2 (.inr (by decide))
  exact ⟨hes, hes', hdocumented, hdocumented'.symm.trans hdocumented,
    fun path visibilities => hmissing path 5 50 visibilities⟩

/-- Two comments that differ in one star below their first lines, which makes an opening mark: one
documents the class below it, and the other one does not. -/
theorem isDocumented_ne_of_glob :
    let post := "\npublic class A \x7b\n\x7d\n".toList.map Element.plain
    let es := Element.blockComment "*\n * Reads src/*.java files.\n ".toList true :: post
    let es' := Element.blockComment "*\n * Reads src/.java files.\n ".toList true :: post
    WellFormed es ∧ WellFormed es' ∧ isDocumented 5 50 (lex (render es)) 3 = false ∧
      isDocumented 5 50 (lex (render es')) 3 = true := by
  decide +kernel

end QualityGate
