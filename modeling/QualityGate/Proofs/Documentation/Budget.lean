import QualityGate.Documentation
import Mathlib.Tactic

/-!
The two budgets of documentation. Going up from a declaration passes at most `window` blank lines
and looks at at most `cap` lines. A larger budget never changes what was found within a smaller one:
the way up is the same line by line, and more of each budget is left at its end.

* `documentedBy_arguments`, `documentedBy_unowned`, `documentedBy_annotated`,
  `documentedBy_blank`, `documentedBy_other`: one step up, by the kind of the line.
* `aboveArguments?_mono`: an argument list that is passed is passed with a larger cap too.
* `opensWithMarker_take_mono`: an opening that is found is found among more lines too.
* `documentedBy_mono`: **what is documented stays documented** with larger budgets.
-/

namespace QualityGate

/-! ### One step up -/

section Step

variable {l : LexedLine} {above : List LexedLine} {window cap : ℕ}

/-- The last line of an argument list leads to the lines above its annotation. -/
lemma documentedBy_arguments (hl : l.scan.parenDelta < 0) {rest : List LexedLine} {left : ℕ}
    (h : aboveArguments? cap l.scan.parenDelta above = some (rest, left)) :
    documentedBy window (cap + 1) (l :: above) = documentedBy window left rest := by
  rw [documentedBy.eq_def]
  dsimp only
  rw [if_pos hl]
  split
  · next h' => cases h.symm.trans h'; rfl
  · next h' => cases h.symm.trans h'

/-- An argument list that no annotation owns ends the way. -/
lemma documentedBy_unowned (hl : l.scan.parenDelta < 0)
    (h : aboveArguments? cap l.scan.parenDelta above = none) :
    documentedBy window (cap + 1) (l :: above) = false := by
  rw [documentedBy.eq_def]
  dsimp only
  rw [if_pos hl]
  split
  · next h' => cases h.symm.trans h'
  · rfl

/-- An annotation is passed for free. -/
lemma documentedBy_annotated (hl : ¬ l.scan.parenDelta < 0) (ha : l.line.isAnnotation = true) :
    documentedBy window (cap + 1) (l :: above) = documentedBy window cap above := by
  rw [documentedBy.eq_def]
  dsimp only
  rw [if_neg hl, if_pos ha]

/-- A blank line is passed for one unit of the window. -/
lemma documentedBy_blank (hl : ¬ l.scan.parenDelta < 0) (ha : ¬ l.line.isAnnotation = true)
    (hb : l.line.isBlank = true) :
    documentedBy (window + 1) (cap + 1) (l :: above) = documentedBy window cap above := by
  rw [documentedBy, if_neg hl, if_neg ha, if_pos hb]

/-- Any other line decides. -/
lemma documentedBy_other (hl : ¬ l.scan.parenDelta < 0) (ha : ¬ l.line.isAnnotation = true)
    (hb : ¬ l.line.isBlank = true) :
    documentedBy window (cap + 1) (l :: above) =
      (l.line.closesComment && opensWithMarker ((l :: above).take (cap + 1))) := by
  rw [documentedBy.eq_def]
  dsimp only
  rw [if_neg hl, if_neg ha, if_neg hb]

end Step

/-! ### Larger budgets -/

/-- An argument list that is passed is passed with a larger cap too, and no less of it is left. -/
lemma aboveArguments?_mono {cap cap' : ℕ} (hcap : cap ≤ cap') {balance : ℤ}
    {ls rest : List LexedLine} {left : ℕ}
    (h : aboveArguments? cap balance ls = some (rest, left)) :
    ∃ left', left ≤ left' ∧ aboveArguments? cap' balance ls = some (rest, left') := by
  induction ls generalizing cap cap' balance with
  | nil => simp [aboveArguments?] at h
  | cons l ls ih =>
      obtain _ | cap := cap
      · simp [aboveArguments?] at h
      obtain ⟨cap', rfl⟩ : ∃ n, cap' = n + 1 := ⟨cap' - 1, by omega⟩
      have hle : cap ≤ cap' := by omega
      simp only [aboveArguments?] at h ⊢
      split at h
      · next hbalance =>
        rw [if_pos hbalance]
        split at h
        · next hl =>
          cases h
          exact ⟨cap', hle, if_pos hl⟩
        · cases h
      · next hbalance =>
        rw [if_neg hbalance]
        exact ih hle h

/-- An opening that is found among the nearest lines is found among more of them too. -/
lemma opensWithMarker_take_mono {n m : ℕ} (hnm : n ≤ m) {ls : List LexedLine}
    (h : opensWithMarker (ls.take n) = true) : opensWithMarker (ls.take m) = true := by
  induction ls generalizing n m with
  | nil => simp [opensWithMarker] at h
  | cons l ls ih =>
      obtain _ | n := n
      · cases h
      obtain ⟨m, rfl⟩ : ∃ k, m = k + 1 := ⟨m - 1, by omega⟩
      simp only [List.take_succ_cons, opensWithMarker] at h ⊢
      cases hl : fromCommentStart? l.line.text with
      | some text =>
          rw [hl] at h
          exact h
      | none =>
          rw [hl] at h
          exact ih (Nat.le_of_succ_le_succ hnm) h

/-- **What is documented stays documented** when more blank lines may be passed and more lines may
be looked at. -/
theorem documentedBy_mono {window window' cap cap' : ℕ} (hwindow : window ≤ window')
    (hcap : cap ≤ cap') {ls : List LexedLine} (h : documentedBy window cap ls = true) :
    documentedBy window' cap' ls = true := by
  -- along the way up under the smaller budgets, which the larger ones follow line by line
  induction window, cap, ls using documentedBy.induct generalizing window' cap' with
  | case1 window cap => simp [documentedBy] at h
  | case2 window l above => simp [documentedBy] at h
  | case3 window l above cap hl rest left hargs ih =>
      obtain ⟨cap', rfl⟩ : ∃ n, cap' = n + 1 := ⟨cap' - 1, by omega⟩
      obtain ⟨left', hleft, hargs'⟩ := aboveArguments?_mono (Nat.le_of_succ_le_succ hcap) hargs
      rw [Nat.succ_eq_add_one, documentedBy_arguments hl hargs] at h
      rw [documentedBy_arguments hl hargs']
      exact ih hwindow hleft h
  | case4 window l above cap hl hargs =>
      rw [documentedBy_unowned hl hargs] at h
      cases h
  | case5 window l above cap hl ha ih =>
      obtain ⟨cap', rfl⟩ : ∃ n, cap' = n + 1 := ⟨cap' - 1, by omega⟩
      rw [Nat.succ_eq_add_one, documentedBy_annotated hl ha] at h
      rw [documentedBy_annotated hl ha]
      exact ih hwindow (Nat.le_of_succ_le_succ hcap) h
  | case6 l above cap hl ha hb => simp [documentedBy, hl, ha, hb] at h
  | case7 l above cap hl ha hb window ih =>
      obtain ⟨window', rfl⟩ : ∃ n, window' = n + 1 := ⟨window' - 1, by omega⟩
      obtain ⟨cap', rfl⟩ : ∃ n, cap' = n + 1 := ⟨cap' - 1, by omega⟩
      rw [Nat.succ_eq_add_one, Nat.succ_eq_add_one, documentedBy_blank hl ha hb] at h
      rw [documentedBy_blank hl ha hb]
      exact ih (Nat.le_of_succ_le_succ hwindow) (Nat.le_of_succ_le_succ hcap) h
  | case8 window l above cap hl ha hb =>
      obtain ⟨cap', rfl⟩ : ∃ n, cap' = n + 1 := ⟨cap' - 1, by omega⟩
      rw [Nat.succ_eq_add_one, documentedBy_other hl ha hb, Bool.and_eq_true] at h
      rw [documentedBy_other hl ha hb, Bool.and_eq_true]
      exact ⟨h.1, opensWithMarker_take_mono hcap h.2⟩

end QualityGate
