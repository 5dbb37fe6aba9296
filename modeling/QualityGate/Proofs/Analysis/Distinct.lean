import QualityGate.Analysis
import QualityGate.Proofs.Violation.Order
import Mathlib.Tactic

/-!
What the checks of one file report. Every violation names the file, and no two violations name the
same line and the same rule: methods start on different lines, a line declares at most one thing
that needs documentation, and a line breaks a rule at most once.

* `pairwise_lex`: the lines of a source text are numbered upwards.
* `pairwise_methodSpans`: the methods of a file start on different lines, further down each time.
* `Analysis.pairwise_found`: no two violations of a file agree in line and rule.
* `Analysis.pairwise_violations`: the violations of a file are strictly in the order of reports.
-/

namespace QualityGate

/-! ### Line numbers -/

/-- The lines are numbered upwards. -/
def NumberedUpwards (ls : List LexedLine) : Prop :=
  ls.Pairwise fun a b => a.line.number < b.line.number

/-- Lines numbered from a number on have no smaller number. -/
lemma le_number_of_mem_numberedFrom {n : ℕ} {ts : List (List Char)} {l : Line}
    (h : l ∈ numberedFrom n ts) : n ≤ l.number := by
  induction ts generalizing n with
  | nil => cases h
  | cons t ts ih =>
      rcases List.mem_cons.1 h with rfl | h
      · exact le_rfl
      · exact (Nat.le_succ n).trans (ih h)

/-- Lines numbered from a number on are numbered upwards. -/
lemma pairwise_numberedFrom (n : ℕ) (ts : List (List Char)) :
    (numberedFrom n ts).Pairwise fun a b => a.number < b.number := by
  induction ts generalizing n with
  | nil => exact List.Pairwise.nil
  | cons t ts ih =>
      rw [numberedFrom, List.pairwise_cons]
      exact ⟨fun l hl => le_number_of_mem_numberedFrom hl, ih (n + 1)⟩

/-- The lines of a source text are numbered upwards. -/
lemma pairwise_lex (text : List Char) : NumberedUpwards (lex text) := by
  have h := pairwise_numberedFrom 1 (Text.lines text)
  rw [← lexFrom_line .code (numberedFrom 1 (Text.lines text)), List.pairwise_map] at h
  exact h

/-! ### Methods -/

/-- A method that ends on the given lines was open before them or starts on one of them. -/
lemma startLine_of_mem_methodSpansFrom {current : Option OpenMethod} {ls : List LexedLine}
    {s : MethodSpan} (h : s ∈ methodSpansFrom current ls) :
    (∃ m ∈ current, s.startLine = m.startLine) ∨ ∃ l ∈ ls, s.startLine = l.line.number := by
  induction ls generalizing current with
  | nil => cases h
  | cons l ls ih =>
      have hstart (m : OpenMethod)
          (hm : current.or ((methodStart? (l :: ls)).map fun d => .start d.name l.line.number) =
            some m) :
          (∃ m' ∈ current, m.startLine = m'.startLine) ∨
            ∃ k ∈ l :: ls, m.startLine = k.line.number := by
        cases current with
        | some m' => exact .inl ⟨m', rfl, by cases hm; rfl⟩
        | none =>
            obtain ⟨d, -, rfl⟩ := Option.map_eq_some_iff.1 hm
            exact .inr ⟨l, List.mem_cons_self, rfl⟩
      have htail (h : ∃ k ∈ ls, s.startLine = k.line.number) :
          ∃ k ∈ l :: ls, s.startLine = k.line.number := by
        obtain ⟨k, hk, hs⟩ := h
        exact ⟨k, List.mem_cons_of_mem l hk, hs⟩
      rw [methodSpansFrom] at h
      split at h
      · rcases ih h with ⟨m, hm, -⟩ | h
        · cases hm
        · exact .inr (htail h)
      · next m hm =>
        dsimp only at h
        split at h
        · rcases List.mem_cons.1 h with rfl | h
          · exact hstart m hm
          · rcases ih h with ⟨m', hm', -⟩ | h
            · cases hm'
            · exact .inr (htail h)
        · rcases ih h with ⟨m', hm', hs⟩ | h
          · cases hm'
            rw [hs]
            exact hstart m hm
          · exact .inr (htail h)

/-- Methods start further down each time, when the one that is open starts above the lines. -/
lemma pairwise_methodSpansFrom {current : Option OpenMethod} {ls : List LexedLine}
    (hls : NumberedUpwards ls)
    (hcurrent : ∀ m ∈ current, ∀ l ∈ ls, m.startLine < l.line.number) :
    (methodSpansFrom current ls).Pairwise fun a b => a.startLine < b.startLine := by
  induction ls generalizing current with
  | nil => exact List.Pairwise.nil
  | cons l ls ih =>
      obtain ⟨hl, hls⟩ := List.pairwise_cons.1 hls
      rw [methodSpansFrom]
      split
      · exact ih hls (by simp)
      · next m hm =>
        have hstart : ∀ k ∈ ls, m.startLine < k.line.number := by
          intro k hk
          cases current with
          | some m' =>
              cases hm
              exact hcurrent m rfl k (List.mem_cons_of_mem l hk)
          | none =>
              obtain ⟨d, -, rfl⟩ := Option.map_eq_some_iff.1 hm
              exact hl k hk
        dsimp only
        split
        · refine List.pairwise_cons.2 ⟨fun s hs => ?_, ih hls (by simp)⟩
          rcases startLine_of_mem_methodSpansFrom hs with ⟨m', hm', -⟩ | ⟨k, hk, hs⟩
          · cases hm'
          · rw [hs]
            exact hstart k hk
        · refine ih hls fun m' hm' => ?_
          cases hm'
          exact hstart

/-- The methods of a file start on different lines, further down each time. -/
theorem pairwise_methodSpans {ls : List LexedLine} (hls : NumberedUpwards ls) :
    (methodSpans ls).Pairwise fun a b => a.startLine < b.startLine :=
  pairwise_methodSpansFrom hls (by simp)

/-- A method with too many lines is reported on one of the lines. -/
lemma mem_longMethods {path : Path} {limit : ℕ} {ls : List LexedLine} {v : Violation}
    (h : v ∈ longMethods path limit ls) :
    v.path = path ∧ v.rule = "long-method" ∧ ∃ l ∈ ls, v.line = l.line.number := by
  obtain ⟨m, hm, rfl⟩ := List.mem_map.1 h
  rcases startLine_of_mem_methodSpansFrom (List.mem_filter.1 hm).1 with ⟨m', hm', -⟩ | hline
  · cases hm'
  · exact ⟨rfl, rfl, hline⟩

/-- The violations of the limit on methods are about different lines. -/
lemma pairwise_longMethods (path : Path) (limit : ℕ) {ls : List LexedLine}
    (hls : NumberedUpwards ls) :
    (longMethods path limit ls).Pairwise fun v w => v.line < w.line :=
  List.pairwise_map.2 ((pairwise_methodSpans hls).filter _)

/-! ### Documentation -/

/-- A missing documentation is reported on one of the lines. -/
lemma mem_missingDocsFrom {path : Path} {window cap : ℕ} {visibilities : List Visibility}
    {above ls : List LexedLine} {v : Violation}
    (h : v ∈ missingDocsFrom path window cap visibilities above ls) :
    v.path = path ∧ v.rule = "missing-doc" ∧ ∃ l ∈ ls, v.line = l.line.number := by
  induction ls generalizing above with
  | nil => cases h
  | cons l ls ih =>
      have htail (h : v ∈ missingDocsFrom path window cap visibilities (l :: above) ls) :
          v.path = path ∧ v.rule = "missing-doc" ∧ ∃ k ∈ l :: ls, v.line = k.line.number := by
        obtain ⟨hp, hr, k, hk, hv⟩ := ih h
        exact ⟨hp, hr, k, List.mem_cons_of_mem l hk, hv⟩
      rw [missingDocsFrom] at h
      split at h
      · exact htail h
      · split at h
        · exact htail h
        · rcases List.mem_cons.1 h with rfl | h
          · exact ⟨rfl, rfl, l, List.mem_cons_self, rfl⟩
          · exact htail h

/-- Missing documentation is reported on different lines. -/
lemma pairwise_missingDocsFrom (path : Path) (window cap : ℕ) (visibilities : List Visibility)
    (above : List LexedLine) {ls : List LexedLine} (hls : NumberedUpwards ls) :
    (missingDocsFrom path window cap visibilities above ls).Pairwise
      fun v w => v.line < w.line := by
  induction ls generalizing above with
  | nil => exact List.Pairwise.nil
  | cons l ls ih =>
      obtain ⟨hl, hls⟩ := List.pairwise_cons.1 hls
      rw [missingDocsFrom]
      split
      · exact ih _ hls
      · split
        · exact ih _ hls
        · refine List.pairwise_cons.2 ⟨fun w hw => ?_, ih _ hls⟩
          obtain ⟨-, -, k, hk, hw⟩ := mem_missingDocsFrom hw
          rw [hw]
          exact hl k hk

/-! ### Line rules -/

/-- No line rule has the name of another check. -/
lemma LineRule.name_ne (r : LineRule) : r.name ≠ "long-method" ∧ r.name ≠ "missing-doc" := by
  cases r <;> simp [name]

/-- A rule reports under its name, in the file and on the line that it looks at. -/
lemma LineRule.of_inspect? {r : LineRule} {ctx : LineContext} {v : Violation}
    (h : r.inspect? ctx = some v) :
    v.path = ctx.path ∧ v.rule = r.name ∧ v.line = ctx.line.line.number := by
  cases r with
  | bannedCall expressions facility =>
      obtain ⟨m, -, rfl⟩ := Option.map_eq_some_iff.1 h
      exact ⟨rfl, rfl, rfl⟩
  | hardcodedLiteral =>
      simp only [inspect?, hardcodedLiteral?] at h
      split at h
      · cases h
      · obtain ⟨m, -, rfl⟩ := Option.map_eq_some_iff.1 h
        exact ⟨rfl, rfl, rfl⟩
  | longLine limit | blankRun limit =>
      simp only [inspect?, longLine?, blankRun?] at h
      split at h <;> cases h
      exact ⟨rfl, rfl, rfl⟩
  | wildcardImport =>
      simp only [inspect?, wildcardImport?] at h
      split at h
      · cases h
      · obtain ⟨m, -, rfl⟩ := Option.map_eq_some_iff.1 h
        exact ⟨rfl, rfl, rfl⟩
  | indent disallowed =>
      simp only [inspect?, indent?] at h
      split at h
      · cases h
      · split at h <;> cases h
        exact ⟨rfl, rfl, rfl⟩

/-- A violation of a rule is reported under the name of one of the rules, on one of the lines. -/
lemma mem_ruleViolationsFrom {path : Path} {rules : List LineRule} {blanks : ℕ}
    {ls : List LexedLine} {v : Violation} (h : v ∈ ruleViolationsFrom path rules blanks ls) :
    v.path = path ∧ v.rule ∈ rules.map LineRule.name ∧ ∃ l ∈ ls, v.line = l.line.number := by
  induction ls generalizing blanks with
  | nil => cases h
  | cons l ls ih =>
      rw [ruleViolationsFrom] at h
      rcases List.mem_append.1 h with h | h
      · obtain ⟨r, hr, hv⟩ := List.mem_filterMap.1 h
        obtain ⟨hp, hrule, hline⟩ := LineRule.of_inspect? hv
        exact ⟨hp, hrule ▸ List.mem_map_of_mem hr, l, List.mem_cons_self, hline⟩
      · obtain ⟨hp, hrule, k, hk, hline⟩ := ih h
        exact ⟨hp, hrule, k, List.mem_cons_of_mem l hk, hline⟩

/-- What a line rule reports is not reported under the name of another check. -/
lemma rule_ne_of_mem_ruleViolationsFrom {path : Path} {rules : List LineRule} {blanks : ℕ}
    {ls : List LexedLine} {v : Violation} (h : v ∈ ruleViolationsFrom path rules blanks ls) :
    v.rule ≠ "long-method" ∧ v.rule ≠ "missing-doc" := by
  obtain ⟨-, hmem, -⟩ := mem_ruleViolationsFrom h
  obtain ⟨r, -, hr⟩ := List.mem_map.1 hmem
  exact hr ▸ r.name_ne

/-- Rules with different names report a line under different names. -/
lemma pairwise_filterMap_inspect? {rules : List LineRule}
    (hrules : (rules.map LineRule.name).Nodup) (ctx : LineContext) :
    (rules.filterMap fun r => r.inspect? ctx).Pairwise fun v w => v.rule ≠ w.rule := by
  refine List.Pairwise.filterMap _ (fun r s hne v hv w hw => ?_) (List.pairwise_map.1 hrules)
  rw [(LineRule.of_inspect? hv).2.1, (LineRule.of_inspect? hw).2.1]
  exact hne

/-- Two violations of rules differ in line or rule. -/
lemma pairwise_ruleViolationsFrom (path : Path) {rules : List LineRule}
    (hrules : (rules.map LineRule.name).Nodup) (blanks : ℕ) {ls : List LexedLine}
    (hls : NumberedUpwards ls) :
    (ruleViolationsFrom path rules blanks ls).Pairwise
      fun v w => v.line ≠ w.line ∨ v.rule ≠ w.rule := by
  induction ls generalizing blanks with
  | nil => exact List.Pairwise.nil
  | cons l ls ih =>
      obtain ⟨hl, hls⟩ := List.pairwise_cons.1 hls
      rw [ruleViolationsFrom, List.pairwise_append]
      refine ⟨(pairwise_filterMap_inspect? hrules _).imp .inr, ih _ hls, fun v hv w hw => ?_⟩
      obtain ⟨r, -, hv⟩ := List.mem_filterMap.1 hv
      obtain ⟨-, -, k, hk, hw⟩ := mem_ruleViolationsFrom hw
      rw [(LineRule.of_inspect? hv).2.2, hw]
      exact .inl (hl k hk).ne

/-! ### All checks -/

namespace Analysis

/-- Every violation of a file names the file. -/
theorem path_of_mem_found {a : Analysis} {path : Path} {ls : List LexedLine} {v : Violation}
    (h : v ∈ a.found path ls) : v.path = path := by
  rcases List.mem_append.1 h with h | h
  · rcases List.mem_append.1 h with h | h
    · exact (mem_longMethods h).1
    · exact (mem_missingDocsFrom h).1
  · exact (mem_ruleViolationsFrom h).1

/-- **At most one violation for each line and rule**, where the line rules have different names. -/
theorem pairwise_found {a : Analysis} (hrules : (a.rules.map LineRule.name).Nodup) (path : Path)
    {ls : List LexedLine} (hls : NumberedUpwards ls) :
    (a.found path ls).Pairwise fun v w => v.line ≠ w.line ∨ v.rule ≠ w.rule := by
  unfold found
  rw [List.pairwise_append, List.pairwise_append]
  refine ⟨⟨(pairwise_longMethods path _ hls).imp fun h => .inl h.ne,
    (pairwise_missingDocsFrom path _ _ _ [] hls).imp fun h => .inl h.ne, fun v hv w hw => ?_⟩,
    pairwise_ruleViolationsFrom path hrules 0 hls, fun v hv w hw => ?_⟩
  · rw [(mem_longMethods hv).2.1, (mem_missingDocsFrom hw).2.1]
    exact .inr (by decide)
  · obtain ⟨hlong, hmissing⟩ := rule_ne_of_mem_ruleViolationsFrom hw
    rcases List.mem_append.1 hv with hv | hv
    · rw [(mem_longMethods hv).2.1]
      exact .inr hlong.symm
    · rw [(mem_missingDocsFrom hv).2.1]
      exact .inr hmissing.symm

/-- No two violations of a file tie in the order of reports. -/
lemma pairwise_violations_ne {a : Analysis} (hrules : (a.rules.map LineRule.name).Nodup)
    (path : Path) (text : List Char) :
    (a.violations path text).Pairwise fun v w => v.order w ≠ .eq := by
  refine pairwise_ne_of_perm (a.violations_perm path text).symm ?_
  refine (pairwise_found hrules path (pairwise_lex text)).imp fun {v w} h htie => ?_
  obtain ⟨-, hline, hrule, -⟩ := Violation.order_eq_iff.1 htie
  exact h.elim (· hline) (· hrule)

/-- The violations of a file are strictly in the order of reports. -/
theorem pairwise_violations {a : Analysis} (hrules : (a.rules.map LineRule.name).Nodup)
    (path : Path) (text : List Char) :
    (a.violations path text).Pairwise fun v w => v.order w = .lt :=
  pairwise_lt_of_pairwise_ne (pairwise_mergeSort_of_transCmp Violation.order _)
    (pairwise_violations_ne hrules path text)

/-- The rules of a configuration have different names. -/
lemma nodup_rules_of_ofConfig {c : Config} {a : Analysis} (h : ofConfig c = .ok a) :
    (a.rules.map LineRule.name).Nodup := by
  unfold ofConfig at h
  split at h
  · cases h
  · cases h
    simp only [List.map_cons, List.map_nil, LineRule.name]
    decide

end Analysis

end QualityGate
