import QualityGate.Proofs.Documentation.Budget
import QualityGate.Proofs.Source.Plain
import Mathlib.Tactic

/-!
What documents a declaration, said of the lines above it, nearest first. Blank lines, annotations
and the argument lists of annotations are passed over. The first line that is none of these has to
end like a block comment, and the nearest opening mark from there on has to go on with a star.

* `fromCommentStart?_eq_none_iff`, `fromCommentStart?_append`: the first opening mark of a line.
* `PassedOver`: lines that are passed over on the way up.
* `documentedBy_append`: what is passed over uses up its share of the two budgets, and no more.
* `documentedBy_iff`: **when lines document** what stands below them.
-/

namespace QualityGate

/-! ### Opening marks -/

/-- The mark that opens a block comment. -/
def openingMark : List Char := ['/', '*']

/-- The mark that opens a documentation comment. -/
def docMark : List Char := ['/', '*', '*']

/-- There is no opening mark exactly if none is found. -/
lemma fromCommentStart?_eq_none_iff {t : List Char} :
    fromCommentStart? t = none ↔ ¬ openingMark <:+: t := by
  induction t with
  | nil => simp [fromCommentStart?, openingMark]
  | cons c t ih =>
      rw [fromCommentStart?, List.infix_cons_iff, not_or]
      have hiff : "/*".toList.isPrefixOf (c :: t) = true ↔ openingMark <+: c :: t :=
        List.isPrefixOf_iff_prefix
      split_ifs with h
      · simp [hiff.1 h]
      · rw [ih]
        exact ⟨fun ht => ⟨mt hiff.2 h, ht⟩, fun ht => ht.2⟩

/-- What comes before the first opening mark is skipped. -/
lemma fromCommentStart?_append {u : List Char} {c : Char} (h : ¬ openingMark <:+: u ++ [c])
    (t : List Char) : fromCommentStart? (u ++ c :: t) = fromCommentStart? (c :: t) := by
  induction u with
  | nil => rfl
  | cons d u ih =>
      have hrest : ¬ openingMark <:+: u ++ [c] := fun hin => h (List.infix_cons_iff.2 (.inr hin))
      have hhere : ¬ "/*".toList.isPrefixOf (d :: (u ++ c :: t)) = true := by
        intro hopens
        refine h (List.infix_cons_iff.2 (.inl ?_))
        have hmark : openingMark <+: d :: (u ++ c :: t) := List.isPrefixOf_iff_prefix.1 hopens
        have hfront : d :: (u ++ [c]) <+: d :: (u ++ c :: t) := ⟨t, by simp⟩
        exact List.prefix_of_prefix_length_le hmark hfront (by simp [openingMark])
      rw [List.cons_append, fromCommentStart?, if_neg hhere, ih hrest]

/-- The nearest line with an opening mark decides. -/
lemma opensWithMarker_append {below : List LexedLine}
    (h : ∀ l ∈ below, ¬ openingMark <:+: l.line.text) (ls : List LexedLine) :
    opensWithMarker (below ++ ls) = opensWithMarker ls := by
  induction below with
  | nil => rfl
  | cons l below ih =>
      have hl := fromCommentStart?_eq_none_iff.2 (h l List.mem_cons_self)
      have hbelow := ih fun k hk => h k (List.mem_cons_of_mem l hk)
      rw [List.cons_append, opensWithMarker, hl]
      exact hbelow

/-- The nearest opening mark goes on with a star. -/
lemma opensWithMarker_iff {ls : List LexedLine} :
    opensWithMarker ls = true ↔ ∃ below l above text, ls = below ++ l :: above ∧
      (∀ k ∈ below, ¬ openingMark <:+: k.line.text) ∧ fromCommentStart? l.line.text = some text ∧
        docMark <+: text := by
  constructor
  · intro h
    induction ls with
    | nil => cases h
    | cons l ls ih =>
        rw [opensWithMarker] at h
        cases hl : fromCommentStart? l.line.text with
        | some text =>
            rw [hl] at h
            exact ⟨[], l, ls, text, rfl, by simp, hl, List.isPrefixOf_iff_prefix.1 h⟩
        | none =>
            rw [hl] at h
            obtain ⟨below, o, above, text, rfl, hbelow, ho⟩ := ih h
            refine ⟨l :: below, o, above, text, rfl, ?_, ho⟩
            exact List.forall_mem_cons.2 ⟨fromCommentStart?_eq_none_iff.1 hl, hbelow⟩
  · rintro ⟨below, l, above, text, rfl, hbelow, hl, htext⟩
    rw [opensWithMarker_append hbelow, opensWithMarker, hl]
    exact List.isPrefixOf_iff_prefix.2 htext

/-! ### The way up -/

/-- The line is none of those that are passed over. -/
def LexedLine.IsContent (l : LexedLine) : Prop :=
  0 ≤ l.scan.parenDelta ∧ l.line.isAnnotation = false ∧ l.line.isBlank = false

/-- The argument list of an annotation, given without the line of the annotation. -/
structure ArgumentList (args : List LexedLine) (owner : LexedLine) : Prop where
  ne_nil : args ≠ []
  /-- On each line of the list some parentheses are closed that are opened further up. -/
  closes : ∀ n, 0 < n → n ≤ args.length → parensAfter args n < 0
  opens : 0 ≤ parensAfter args args.length + owner.scan.parenDelta
  owned : owner.line.isAnnotation = true

/-- Lines that are passed over on the way up, with the number of blank lines among them that are in
no argument list. -/
inductive PassedOver : ℕ → List LexedLine → Prop where
  | nil : PassedOver 0 []
  | blank {n : ℕ} {l : LexedLine} {ls : List LexedLine} : 0 ≤ l.scan.parenDelta →
      l.line.isBlank = true → PassedOver n ls → PassedOver (n + 1) (l :: ls)
  | annotated {n : ℕ} {l : LexedLine} {ls : List LexedLine} : 0 ≤ l.scan.parenDelta →
      l.line.isAnnotation = true → PassedOver n ls → PassedOver n (l :: ls)
  | arguments {n : ℕ} {args : List LexedLine} {owner : LexedLine} {ls : List LexedLine} :
      ArgumentList args owner → PassedOver n ls → PassedOver n (args ++ owner :: ls)

/-- A blank line is no annotation. -/
lemma Line.isAnnotation_of_isBlank {l : Line} (h : l.isBlank = true) : l.isAnnotation = false := by
  have htrimmed : l.trimmed = [] := List.isEmpty_iff.1 h
  simp [ isAnnotation, htrimmed]

/-- More lines keep parentheses open if the first one does, and the others then go on so. -/
lemma forall_parensAfter_cons {b : ℤ} {l : LexedLine} {ls : List LexedLine} :
    (∀ n, 0 < n → n ≤ (l :: ls).length → b + parensAfter (l :: ls) n < 0) ↔
      b + l.scan.parenDelta < 0 ∧
        ∀ n, 0 < n → n ≤ ls.length → b + l.scan.parenDelta + parensAfter ls n < 0 := by
  refine ⟨fun h => ⟨?_, fun n _ hn => ?_⟩, fun ⟨hl, hls⟩ n hpos hn => ?_⟩
  · simpa [parensAfter_cons, parensAfter_zero] using h 1 Nat.one_pos (by simp)
  · have := h (n + 1) n.succ_pos (Nat.succ_le_succ hn)
    rwa [parensAfter_cons, ← add_assoc] at this
  · cases n with
    | zero => exact absurd hpos (lt_irrefl 0)
    | succ n =>
        rw [parensAfter_cons, ← add_assoc]
        rcases Nat.eq_zero_or_pos n with rfl | hn'
        · rwa [parensAfter_zero, add_zero]
        · exact hls n hn' (Nat.le_of_succ_le_succ hn)

lemma forall_parensAfter_cons_neg {l : LexedLine} {ls : List LexedLine} :
    (∀ n, 0 < n → n ≤ (l :: ls).length → parensAfter (l :: ls) n < 0) ↔
      l.scan.parenDelta < 0 ∧
        ∀ n, 0 < n → n ≤ ls.length → l.scan.parenDelta + parensAfter ls n < 0 := by
  simpa only [zero_add] using @forall_parensAfter_cons 0 l ls

/-- Going up through an argument list ends at the first line on which the parentheses balance
again, which has to be an annotation. -/
lemma aboveArguments?_eq_some_iff {cap left : ℕ} {b : ℤ} {ls rest : List LexedLine} :
    aboveArguments? cap b ls = some (rest, left) ↔ ∃ args owner, ls = args ++ owner :: rest ∧
      (∀ n, 0 < n → n ≤ args.length → b + parensAfter args n < 0) ∧
      0 ≤ b + parensAfter args args.length + owner.scan.parenDelta ∧
      owner.line.isAnnotation = true ∧ cap = args.length + 1 + left := by
  constructor
  · intro h
    induction ls generalizing cap b with
    | nil => simp [aboveArguments?] at h
    | cons l ls ih =>
        obtain _ | cap := cap
        · simp [aboveArguments?] at h
        simp only [aboveArguments?] at h
        split_ifs at h with hb hl
        · cases h
          refine ⟨[], l, rfl, fun n hn hn' => ?_, by simpa [parensAfter_zero] using hb, hl, ?_⟩
          · rw [List.length_nil] at hn'
            omega
          · simp
            omega
        · obtain ⟨args, owner, rfl, hcloses, hopens, howner, hcap⟩ := ih h
          refine ⟨l :: args, owner, rfl, forall_parensAfter_cons.2 ⟨not_le.1 hb, hcloses⟩, ?_,
            howner, ?_⟩
          · rw [List.length_cons, parensAfter_cons]
            omega
          · rw [List.length_cons]
            omega
  · rintro ⟨args, owner, rfl, hcloses, hopens, howner, rfl⟩
    induction args generalizing b with
    | nil =>
        have hb : b + owner.scan.parenDelta ≥ 0 := by simpa [parensAfter_zero] using hopens
        have hcap : ([] : List LexedLine).length + 1 + left = left + 1 := by simp; omega
        rw [hcap, List.nil_append, aboveArguments?, if_pos hb, if_pos howner]
    | cons l args ih =>
        obtain ⟨hb, hcloses⟩ := forall_parensAfter_cons.1 hcloses
        have hcap : (l :: args).length + 1 + left = args.length + 1 + left + 1 := by
          rw [List.length_cons]
          omega
        rw [List.length_cons, parensAfter_cons, ← add_assoc] at hopens
        rw [hcap, List.cons_append, aboveArguments?, if_neg (not_le.2 hb)]
        exact ih hcloses hopens

/-- An argument list leads to what is above its annotation. -/
lemma ArgumentList.documentedBy {args : List LexedLine} {owner : LexedLine}
    (h : ArgumentList args owner) (window cap : ℕ) (above : List LexedLine) :
    documentedBy window (args.length + 1 + cap) (args ++ owner :: above) =
      documentedBy window cap above := by
  obtain ⟨hne, hcloses, hopens, howner⟩ := h
  cases args with
  | nil => exact absurd rfl hne
  | cons l args =>
      obtain ⟨hl, hcloses⟩ := forall_parensAfter_cons_neg.1 hcloses
      rw [List.length_cons, parensAfter_cons] at hopens
      have hargs : aboveArguments? (args.length + 1 + cap) l.scan.parenDelta
          (args ++ owner :: above) = some (above, cap) :=
        aboveArguments?_eq_some_iff.2 ⟨args, owner, rfl, hcloses, hopens, howner, rfl⟩
      have hcap : (l :: args).length + 1 + cap = args.length + 1 + cap + 1 := by
        rw [List.length_cons]
        omega
      rw [hcap, List.cons_append, documentedBy_arguments hl hargs]

/-- **What is passed over** uses up one unit of the window for each blank line and one of the cap
for each line. -/
theorem documentedBy_append {blanks : ℕ} {passed : List LexedLine} (h : PassedOver blanks passed)
    (window cap : ℕ) (above : List LexedLine) :
    documentedBy (blanks + window) (passed.length + cap) (passed ++ above) =
      documentedBy window cap above := by
  induction h with
  | nil => rw [Nat.zero_add, List.length_nil, Nat.zero_add, List.nil_append]
  | @blank n l ls hparens hblank _ ih =>
      have hwindow : n + 1 + window = n + window + 1 := by omega
      have hcap : (l :: ls).length + cap = ls.length + cap + 1 := by
        rw [List.length_cons]
        omega
      have hnone : ¬ l.line.isAnnotation = true := by
        simp [Line.isAnnotation_of_isBlank hblank]
      rw [hwindow, hcap, List.cons_append, documentedBy_blank (by omega) hnone hblank, ih]
  | @annotated n l ls hparens hl _ ih =>
      have hcap : (l :: ls).length + cap = ls.length + cap + 1 := by
        rw [List.length_cons]
        omega
      rw [hcap, List.cons_append, documentedBy_annotated (by omega) hl, ih]
  | @arguments n args owner ls hargs _ ih =>
      have hcap : (args ++ owner :: ls).length + cap = args.length + 1 + (ls.length + cap) := by
        rw [List.length_append, List.length_cons]
        omega
      rw [hcap, List.append_assoc, List.cons_append, hargs.documentedBy, ih]

/-- The first line that is not passed over decides. -/
lemma documentedBy_content {l : LexedLine} (hl : l.IsContent) (window cap : ℕ)
    (above : List LexedLine) :
    documentedBy window (cap + 1) (l :: above) =
      (l.line.closesComment && opensWithMarker ((l :: above).take (cap + 1))) :=
  documentedBy_other (by have := hl.1; omega) (by simp [hl.2.1]) (by simp [hl.2.2])

/-- **When lines document** what stands below them: within the two budgets, the first line that is
not passed over ends like a block comment, and from there on the nearest opening mark of a block
comment goes on with a star. -/
theorem documentedBy_iff {window cap : ℕ} {ls : List LexedLine} :
    documentedBy window cap ls = true ↔
      ∃ blanks passed l above, ls = passed ++ l :: above ∧ PassedOver blanks passed ∧
        blanks ≤ window ∧ l.IsContent ∧ l.line.closesComment = true ∧ passed.length < cap ∧
        opensWithMarker ((l :: above).take (cap - passed.length)) = true := by
  constructor
  · intro h
    -- along the way up, which adds a line or an argument list to what is passed over
    induction window, cap, ls using documentedBy.induct with
    | case1 window cap => simp [documentedBy] at h
    | case2 window l above => simp [documentedBy] at h
    | case3 window l above cap hl rest left hargs ih =>
        rw [Nat.succ_eq_add_one, documentedBy_arguments hl hargs] at h
        obtain ⟨args, owner, rfl, hcloses, hopens, howner, rfl⟩ :=
          aboveArguments?_eq_some_iff.1 hargs
        obtain ⟨blanks, passed, k, above, rfl, hpassed, hblanks, hk, hends, hcap, hmark⟩ := ih h
        have hlist : ArgumentList (l :: args) owner := by
          refine ⟨List.cons_ne_nil _ _, forall_parensAfter_cons_neg.2 ⟨hl, hcloses⟩, ?_, howner⟩
          rw [List.length_cons, parensAfter_cons]
          exact hopens
        refine ⟨blanks, (l :: args) ++ owner :: passed, k, above, by simp,
          .arguments hlist hpassed, hblanks, hk, hends, ?_, ?_⟩
        · simp only [List.length_append, List.length_cons]
          omega
        · have hleft : (args.length + 1 + left).succ - ((l :: args) ++ owner :: passed).length =
              left - passed.length := by
            simp only [List.length_append, List.length_cons]
            omega
          rw [hleft]
          exact hmark
    | case4 window l above cap hl hargs =>
        rw [Nat.succ_eq_add_one, documentedBy_unowned hl hargs] at h
        cases h
    | case5 window l above cap hl ha ih =>
        rw [Nat.succ_eq_add_one, documentedBy_annotated hl ha] at h
        obtain ⟨blanks, passed, k, above, rfl, hpassed, hblanks, hk, hends, hcap, hmark⟩ := ih h
        refine ⟨blanks, l :: passed, k, above, rfl, .annotated (by omega) ha hpassed, hblanks, hk,
          hends, Nat.succ_lt_succ hcap, ?_⟩
        rwa [List.length_cons, Nat.succ_sub_succ]
    | case6 l above cap hl ha hb => simp [documentedBy, hl, ha, hb] at h
    | case7 l above cap hl ha hb window ih =>
        rw [Nat.succ_eq_add_one, Nat.succ_eq_add_one, documentedBy_blank hl ha hb] at h
        obtain ⟨blanks, passed, k, above, rfl, hpassed, hblanks, hk, hends, hcap, hmark⟩ := ih h
        refine ⟨blanks + 1, l :: passed, k, above, rfl, .blank (by omega) hb hpassed,
          Nat.succ_le_succ hblanks, hk, hends, Nat.succ_lt_succ hcap, ?_⟩
        rwa [List.length_cons, Nat.succ_sub_succ]
    | case8 window l above cap hl ha hb =>
        have hcontent : l.IsContent := ⟨by omega, by simpa using ha, by simpa using hb⟩
        rw [Nat.succ_eq_add_one, documentedBy_content hcontent, Bool.and_eq_true] at h
        exact ⟨0, [], l, above, rfl, .nil, Nat.zero_le _, hcontent, h.1, Nat.succ_pos _, h.2⟩
  · rintro ⟨blanks, passed, l, above, rfl, hpassed, hblanks, hl, hends, hcap, hmark⟩
    obtain ⟨window, rfl⟩ := Nat.exists_eq_add_of_le hblanks
    obtain ⟨left, rfl⟩ : ∃ left, cap = passed.length + (left + 1) :=
      ⟨cap - passed.length - 1, by omega⟩
    rw [Nat.add_sub_cancel_left] at hmark
    rw [documentedBy_append hpassed, documentedBy_content hl, Bool.and_eq_true]
    exact ⟨hends, hmark⟩

end QualityGate
