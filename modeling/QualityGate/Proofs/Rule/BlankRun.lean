import QualityGate.Proofs.Analysis.Findings
import Mathlib.Tactic

/-!
Runs of blank lines. The rule about them counts, line by line, how many blank lines stand in a row,
and reports where the count is one more than the limit. The count passes through every number from
one on, so each run that is longer than the limit is reported once.

* `IsBlankRun`: blank lines in a row, with no further blank line at either end.
* `mem_ruleViolationsFrom_iff`: what rules report, with the count that they see on each line.
* `InRow`, `inRow_blanksBefore`: the count is the number of blank lines in a row.
* `IsBlankRun.inRow`, `InRow.exists_isBlankRun`: what the count says about the runs.
* `reports_each_blankRun`: **every run that is too long is reported once**, on its first line past
  the limit, and nothing else is.
-/

namespace QualityGate

variable {ls : List LexedLine} {start length i n c k : ℕ}

/-! ### Runs -/

/-- There is a blank line at a place. -/
def BlankAt (ls : List LexedLine) (i : ℕ) : Prop := ∃ l ∈ ls[i]?, l.line.isBlank = true

/-- A run of blank lines that goes on in neither direction: it starts at a place and has so many
lines. Nothing is asked of the states in which the lines start. -/
structure IsBlankRun (ls : List LexedLine) (start length : ℕ) : Prop where
  pos : 0 < length
  blank : ∀ i, start ≤ i → i < start + length → BlankAt ls i
  before : ∀ i, i + 1 = start → ¬BlankAt ls i
  after : ¬BlankAt ls (start + length)

instance (ls : List LexedLine) (i : ℕ) : Decidable (BlankAt ls i) :=
  inferInstanceAs (Decidable (∃ l ∈ ls[i]?, _))

lemma BlankAt.lt_length (h : BlankAt ls i) : i < ls.length := by
  obtain ⟨l, hl, -⟩ := h
  exact (List.getElem?_eq_some_iff.1 hl).1

/-- A run is known from where it starts. -/
lemma IsBlankRun.length_unique {length' : ℕ} (h : IsBlankRun ls start length)
    (h' : IsBlankRun ls start length') : length = length' := by
  rcases Nat.lt_trichotomy length length' with hlt | heq | hlt
  · exact absurd (h'.blank _ (Nat.le_add_right _ _) (by omega)) h.after
  · exact heq
  · exact absurd (h.blank _ (Nat.le_add_right _ _) (by omega)) h'.after

/-! ### Counting -/

/-- The number of blank lines in a row, one line further. -/
def countBlank (blanks : ℕ) (l : LexedLine) : ℕ := if l.line.isBlank then blanks + 1 else 0

/-- **What rules report**: on each line, what they find with the number of blank lines in a row up
to that line. -/
theorem mem_ruleViolationsFrom_iff {path : Path} {rules : List LineRule} {blanks : ℕ}
    {v : Violation} :
    v ∈ ruleViolationsFrom path rules blanks ls ↔
      ∃ i l, ls[i]? = some l ∧ ∃ r ∈ rules,
        r.inspect? ⟨path, l, (ls.take (i + 1)).foldl countBlank blanks⟩ = some v := by
  induction ls generalizing blanks with
  | nil => simp [ruleViolationsFrom]
  | cons k ls ih =>
      rw [ruleViolationsFrom, List.mem_append, List.mem_filterMap, ih]
      constructor
      · rintro (hv | ⟨i, l, hl, hv⟩)
        · exact ⟨0, k, rfl, hv⟩
        · exact ⟨i + 1, l, hl, hv⟩
      · rintro ⟨i, l, hl, hv⟩
        cases i with
        | zero =>
            cases hl
            exact .inl hv
        | succ i => exact .inr ⟨i, l, hl, hv⟩

/-- The number of blank lines in a row right before a place. -/
def blanksBefore (ls : List LexedLine) (n : ℕ) : ℕ := (ls.take n).foldl countBlank 0

/-- So many blank lines stand in a row right before a place, and not more. -/
structure InRow (ls : List LexedLine) (n c : ℕ) : Prop where
  le : c ≤ n
  blank : ∀ i, n ≤ i + c → i < n → BlankAt ls i
  before : ∀ i, i + 1 + c = n → ¬BlankAt ls i

/-- One line further there is one more blank line in the row, or the row has ended. -/
lemma InRow.succ {l : LexedLine} (h : InRow ls n c) (hl : ls[n]? = some l) :
    InRow ls (n + 1) (countBlank c l) := by
  rw [countBlank]
  split_ifs with hblank
  · refine ⟨Nat.succ_le_succ h.le, fun i hfrom hto => ?_, fun i hi => h.before i (by omega)⟩
    rcases Nat.lt_succ_iff_lt_or_eq.1 hto with hlt | rfl
    · exact h.blank i (by omega) hlt
    · exact ⟨l, hl, hblank⟩
  · refine ⟨Nat.zero_le _, fun i hfrom hto => absurd hto (by omega), fun i hi => ?_⟩
    obtain rfl : i = n := by omega
    rintro ⟨l', hl', hblank'⟩
    obtain rfl : l = l' := Option.some.inj (hl.symm.trans hl')
    exact hblank hblank'

/-- **The count is the number of blank lines in a row.** -/
theorem inRow_blanksBefore (hn : n ≤ ls.length) : InRow ls n (blanksBefore ls n) := by
  induction n with
  | zero => exact ⟨le_rfl, fun i _ hto => absurd hto (Nat.not_lt_zero i), fun i hi => by omega⟩
  | succ n ih =>
      have hl : ls[n]? = some ls[n] := List.getElem?_eq_getElem hn
      have hcount : blanksBefore ls (n + 1) = countBlank (blanksBefore ls n) ls[n] := by
        rw [blanksBefore, List.take_add_one, hl, List.foldl_append]
        rfl
      rw [hcount]
      exact (ih (Nat.le_of_succ_le hn)).succ hl

/-- The number of blank lines in a row is determined. -/
lemma InRow.unique {c' : ℕ} (h : InRow ls n c) (h' : InRow ls n c') : c = c' := by
  have hle {c c' : ℕ} (h : InRow ls n c) (h' : InRow ls n c') : c' ≤ c := by
    by_contra hlt
    have hc' := h'.le
    exact h.before (n - c - 1) (by omega) (h'.blank (n - c - 1) (by omega) (by omega))
  exact le_antisymm (hle h' h) (hle h h')

/-- Inside a run, the row has the lines of the run so far. -/
lemma IsBlankRun.inRow (h : IsBlankRun ls start length) (hk : k ≤ length) :
    InRow ls (start + k) k :=
  ⟨Nat.le_add_left k start, fun i hfrom hto => h.blank i (by omega) (by omega),
    fun i hi => h.before i (by omega)⟩

/-- Blank lines in a row begin a run, which goes on as far as there are blank lines. -/
lemma InRow.exists_isBlankRun (h : InRow ls n c) (hc : 0 < c) :
    ∃ length, c ≤ length ∧ IsBlankRun ls (n - c) length := by
  classical
  have hend : ∃ k, ¬BlankAt ls (n + k) :=
    ⟨ls.length, fun hblank => absurd hblank.lt_length (by omega)⟩
  have hle := h.le
  refine ⟨c + Nat.find hend, Nat.le_add_right _ _, by omega, fun i hfrom hto => ?_,
    fun i hi => h.before i (by omega), ?_⟩
  · rcases Nat.lt_or_ge i n with hlt | hge
    · exact h.blank i (by omega) hlt
    · obtain ⟨k, rfl⟩ := Nat.exists_eq_add_of_le hge
      exact not_not.1 (Nat.find_min hend (by omega))
  · have hplace : n - c + (c + Nat.find hend) = n + Nat.find hend := by omega
    rw [hplace]
    exact Nat.find_spec hend

/-! ### Reports -/

/-- The report of a run of blank lines on a line. -/
def blankRunViolation (path : Path) (limit line : ℕ) : Violation where
  kind := .styleSmell
  severity := .info
  rule := "consecutive-blank-lines"
  path := path
  line := line
  message := s!"More than {limit} consecutive blank line(s)"
  remediation := "Remove the extra blank lines"

section Reports

variable {limit : ℕ} (hlimit : limit < maxCount)

include hlimit

/-- The rule reports where the count is one more than the limit, if there is a greater count than
the limit. -/
lemma inspect?_blankRun_eq_some_iff {ctx : LineContext} {v : Violation} :
    (LineRule.blankRun limit).inspect? ctx = some v ↔
      ctx.blankRun = limit + 1 ∧ v = blankRunViolation ctx.path limit ctx.line.line.number := by
  have hsmall : (limit + 1) % (maxCount + 1) = limit + 1 := Nat.mod_eq_of_lt (by omega)
  rw [LineRule.inspect?, blankRun?, hsmall, Option.ite_none_right_eq_some, Option.some.injEq]
  exact and_congr_right fun _ => eq_comm

/-- In a source text the rule reports the runs that are longer than the limit. -/
lemma mem_ruleViolations_blankRun_iff {path : Path} {text : List Char} {v : Violation} :
    v ∈ ruleViolations path [.blankRun limit] (lex text) ↔
      ∃ start length, IsBlankRun (lex text) start length ∧ limit < length ∧
        v = blankRunViolation path limit (start + limit + 1) := by
  rw [ruleViolations, mem_ruleViolationsFrom_iff]
  constructor
  · rintro ⟨i, l, hl, r, hr, hv⟩
    obtain rfl := List.mem_singleton.1 hr
    obtain ⟨hcount, rfl⟩ := (inspect?_blankRun_eq_some_iff hlimit).1 hv
    have hrow : InRow (lex text) (i + 1) (limit + 1) :=
      hcount ▸ inRow_blanksBefore (List.getElem?_eq_some_iff.1 hl).1
    obtain ⟨length, hlong, hrun⟩ := hrow.exists_isBlankRun (Nat.succ_pos limit)
    refine ⟨i + 1 - (limit + 1), length, hrun, hlong, ?_⟩
    have hle := hrow.le
    have hplace : i + 1 - (limit + 1) + limit + 1 = i + 1 := by omega
    rw [number_of_getElem?_lex hl, hplace]
  · rintro ⟨start, length, hrun, hlong, rfl⟩
    obtain ⟨l, hl, -⟩ := hrun.blank (start + limit) (Nat.le_add_right _ _) (by omega)
    have hcount : blanksBefore (lex text) (start + limit + 1) = limit + 1 :=
      (inRow_blanksBefore (List.getElem?_eq_some_iff.1 hl).1).unique
        (hrun.inRow (Nat.succ_le_of_lt hlong))
    refine ⟨start + limit, l, hl, _, List.mem_singleton_self _, ?_⟩
    rw [inspect?_blankRun_eq_some_iff hlimit, number_of_getElem?_lex hl]
    exact ⟨hcount, rfl⟩

end Reports

/-- One rule of several reports part of what they report together. -/
lemma ruleViolationsFrom_sublist {rules : List LineRule} {r : LineRule} (hr : r ∈ rules)
    (path : Path) (blanks : ℕ) (ls : List LexedLine) :
    (ruleViolationsFrom path [r] blanks ls).Sublist (ruleViolationsFrom path rules blanks ls) := by
  induction ls generalizing blanks with
  | nil => exact List.Sublist.refl _
  | cons l ls ih => exact ((List.singleton_sublist.2 hr).filterMap _).append (ih _)

/-- **Every run of blank lines that is longer than the limit is reported once**, on its first line
past the limit, and nothing else is: not a run within the limit, whatever surrounds it.

The reports of the rule are part of what the rules report together, and all that is reported under
its name if it is the only rule of that name. They are on different lines, further down each time,
and each of them is about one of the runs that are too long, and each of these runs has one. -/
theorem reports_each_blankRun {rules : List LineRule} {limit : ℕ} (hrule : .blankRun limit ∈ rules)
    (hlimit : limit < maxCount) (path : Path) (text : List Char) :
    let own := ruleViolations path [.blankRun limit] (lex text)
    own.Sublist (ruleViolations path rules (lex text)) ∧
      ((rules.map LineRule.name).count "consecutive-blank-lines" = 1 →
        ((ruleViolations path rules (lex text)).filter fun v =>
          v.rule = "consecutive-blank-lines") = own) ∧
      own.Pairwise (fun v w => v.line < w.line) ∧
      Set.BijOn (fun run : ℕ × ℕ => blankRunViolation path limit (run.1 + limit + 1))
        {run | IsBlankRun (lex text) run.1 run.2 ∧ limit < run.2} {v | v ∈ own} ∧
      ∀ start length, IsBlankRun (lex text) start length → length ≤ limit →
        ∀ v ∈ own, ¬(start < v.line ∧ v.line ≤ start + length) := by
  intro own
  have hmem {v : Violation} : v ∈ own ↔ _ := mem_ruleViolations_blankRun_iff hlimit
  refine ⟨ruleViolationsFrom_sublist hrule path 0 (lex text), fun hone => ?_,
    pairwise_ruleViolationsFrom_single path _ 0 (pairwise_lex text), ⟨?_, ?_, ?_⟩, ?_⟩
  · rw [ruleViolations, filter_ruleViolationsFrom_name]
    exact congrArg (ruleViolationsFrom path · 0 (lex text)) (filter_name_eq_singleton hrule hone)
  · rintro ⟨start, length⟩ ⟨hrun, hlong⟩
    exact hmem.2 ⟨start, length, hrun, hlong, rfl⟩
  · rintro ⟨start, length⟩ ⟨hrun, -⟩ ⟨start', length'⟩ ⟨hrun', -⟩ hsame
    have hline : start + limit + 1 = start' + limit + 1 := congrArg Violation.line hsame
    obtain rfl : start = start' := by omega
    exact Prod.ext rfl (hrun.length_unique hrun')
  · intro v hv
    obtain ⟨start, length, hrun, hlong, rfl⟩ := hmem.1 hv
    exact ⟨(start, length), ⟨hrun, hlong⟩, rfl⟩
  · -- a reported line of the run would be too far down in a run that holds the one reported
    rintro start length hrun hshort v hv ⟨hfrom, hto⟩
    obtain ⟨start', length', hrun', hlong, rfl⟩ := hmem.1 hv
    replace hfrom : start < start' + limit + 1 := hfrom
    replace hto : start' + limit + 1 ≤ start + length := hto
    exact hrun.before (start - 1) (by omega) (hrun'.blank (start - 1) (by omega) (by omega))

/-- A text that starts with two blank lines, has one blank line and two more inside a comment, and
ends with three blank lines. -/
def blankRunsText : List Char := "\n \n/*\n\n a\n\t\n\n*/\n\n\n\n".toList

/-- Four runs, one of them within the limit: the other three are reported on their second line. -/
theorem reports_each_blankRun_blankRunsText :
    LineRule.blankRun 1 ∈ LineRule.defaults ∧ 1 < maxCount ∧
      (LineRule.defaults.map LineRule.name).count "consecutive-blank-lines" = 1 ∧
      IsBlankRun (lex blankRunsText) 3 1 ∧ IsBlankRun (lex blankRunsText) 5 2 ∧
      ((ruleViolations ⟨"A.java"⟩ LineRule.defaults (lex blankRunsText)).filter fun v =>
          v.rule = "consecutive-blank-lines") =
        [2, 7, 10].map (blankRunViolation ⟨"A.java"⟩ 1) := by
  have hrule : LineRule.blankRun 1 ∈ LineRule.defaults := by
    rw [LineRule.defaults]
    simp [LineRule.defaultBlankLimit]
  have hone : (LineRule.defaults.map LineRule.name).count "consecutive-blank-lines" = 1 := by
    decide
  obtain ⟨-, hall, -⟩ := reports_each_blankRun hrule (by decide) ⟨"A.java"⟩ blankRunsText
  refine ⟨hrule, by decide, hone, ?_, ?_, ?_⟩
  · refine ⟨by decide, by decide +kernel, fun i hi => ?_, by decide +kernel⟩
    obtain rfl : i = 2 := by omega
    decide +kernel
  · refine ⟨by decide, by decide +kernel, fun i hi => ?_, by decide +kernel⟩
    obtain rfl : i = 4 := by omega
    decide +kernel
  · rw [hall hone]
    decide +kernel

end QualityGate
