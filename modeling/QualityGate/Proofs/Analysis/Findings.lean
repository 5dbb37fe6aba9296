import QualityGate.Proofs.Analysis.Distinct
import QualityGate.Proofs.Source.Plain
import Mathlib.Tactic

/-!
What the checks of a file report, taken apart and put in order. The report holds what each check
finds on its own, neither more nor less, and it comes in the order of lines and rules, whatever the
order in which the rules are listed.

* `Violation.precedes_of_order`: in one file the order of reports is the order of lines and rules.
* `filter_ruleViolationsFrom_name`: what several rules report under a name is what the rules of that
  name report alone.
* `ruleViolationsFrom_perm`: the order of the rules only changes the order of what they report.
* `Analysis.filter_violations`: a part of the report is what is found of it, in the order of lines.
* `Analysis.violations_by_line_and_rule`: **what the checks of a file report**.
-/

namespace QualityGate

/-! ### The order of lines and rules -/

/-- On a line further up, or on the same line and by an earlier rule. -/
def Violation.Precedes (v w : Violation) : Prop :=
  v.line < w.line ∨ v.line = w.line ∧ v.rule < w.rule

/-- In one file the order of reports is the order of lines and rules. -/
lemma Violation.precedes_of_order {v w : Violation} (hpath : v.path = w.path)
    (hne : v.line ≠ w.line ∨ v.rule ≠ w.rule) (h : v.order w = .lt) : v.Precedes w := by
  rw [order, hpath, Path.order_self, Ordering.eq_then, Ordering.then_eq_lt] at h
  rcases h with hline | ⟨hline, h⟩
  · exact .inl (Std.compare_eq_lt.1 hline)
  · have hline : v.line = w.line := Std.compare_eq_iff_eq.1 hline
    rcases Ordering.then_eq_lt.1 h with hrule | ⟨hrule, -⟩
    · exact .inr ⟨hline, compareOfLessAndEq_eq_lt.1 hrule⟩
    · have hrule : v.rule = w.rule := Std.compare_eq_iff_eq.1 hrule
      exact absurd hrule (hne.resolve_left (not_not.2 hline))

/-- In one file, what is on a line further up comes first. -/
lemma Violation.order_of_line_lt {v w : Violation} (hpath : v.path = w.path)
    (hline : v.line < w.line) : v.order w = .lt := by
  rw [order, hpath, Path.order_self, Ordering.eq_then, Ordering.then_eq_lt]
  exact .inl (Std.compare_eq_lt.2 hline)

/-! ### One rule of several -/

/-- What several rules report on a line under a name is what the rules of that name report. -/
lemma filter_filterMap_inspect? (rules : List LineRule) (name : String) (ctx : LineContext) :
    ((rules.filterMap fun r => r.inspect? ctx).filter fun v => v.rule = name) =
      (rules.filter fun r => r.name = name).filterMap fun r => r.inspect? ctx := by
  induction rules with
  | nil => rfl
  | cons r rules ih =>
      cases hv : r.inspect? ctx with
      | none => by_cases hname : r.name = name <;> simp [hv, hname, ih]
      | some v =>
          have hrule : v.rule = r.name := (LineRule.of_inspect? hv).2.1
          by_cases hname : r.name = name <;> simp [hv, hrule, hname, ih]

/-- **What several rules report under a name** is what the rules of that name report alone. -/
theorem filter_ruleViolationsFrom_name (path : Path) (rules : List LineRule) (name : String)
    (blanks : ℕ) (ls : List LexedLine) :
    ((ruleViolationsFrom path rules blanks ls).filter fun v => v.rule = name) =
      ruleViolationsFrom path (rules.filter fun r => r.name = name) blanks ls := by
  induction ls generalizing blanks with
  | nil => rfl
  | cons l ls ih =>
      rw [ruleViolationsFrom, ruleViolationsFrom, List.filter_append, ih,
        filter_filterMap_inspect?]

/-- A rule whose name occurs once is the only one of its name. -/
lemma filter_name_eq_singleton {rules : List LineRule} {r : LineRule} (hr : r ∈ rules)
    (hone : (rules.map LineRule.name).count r.name = 1) :
    (rules.filter fun s => s.name = r.name) = [r] := by
  have hlength : (rules.filter fun s => s.name = r.name).length = 1 := by
    rw [← hone, List.count, List.countP_map, List.countP_eq_length_filter]
    exact congrArg _ (List.filter_congr fun s _ => (beq_eq_decide s.name r.name).symm)
  obtain ⟨s, hs⟩ := List.length_eq_one_iff.1 hlength
  have hmem : r ∈ rules.filter fun s => s.name = r.name :=
    List.mem_filter.2 ⟨hr, decide_eq_true rfl⟩
  rw [hs] at hmem
  rw [hs, List.mem_singleton.1 hmem]

/-- What several rules report under the name of one of them is what this one reports alone. -/
theorem filter_ruleViolationsFrom (path : Path) {rules : List LineRule}
    (hrules : (rules.map LineRule.name).Nodup) {r : LineRule} (hr : r ∈ rules) (blanks : ℕ)
    (ls : List LexedLine) :
    ((ruleViolationsFrom path rules blanks ls).filter fun v => v.rule = r.name) =
      ruleViolationsFrom path [r] blanks ls := by
  have hone := List.count_eq_one_of_mem hrules (List.mem_map_of_mem hr)
  rw [filter_ruleViolationsFrom_name, filter_name_eq_singleton hr hone]

/-- One rule reports on different lines, further down each time. -/
lemma pairwise_ruleViolationsFrom_single (path : Path) (r : LineRule) (blanks : ℕ)
    {ls : List LexedLine} (hls : NumberedUpwards ls) :
    (ruleViolationsFrom path [r] blanks ls).Pairwise fun v w => v.line < w.line := by
  induction ls generalizing blanks with
  | nil => exact List.Pairwise.nil
  | cons l ls ih =>
      obtain ⟨hl, hls⟩ := List.pairwise_cons.1 hls
      rw [ruleViolationsFrom, List.pairwise_append]
      refine ⟨?_, ih _ hls, fun v hv w hw => ?_⟩
      · rw [List.filterMap_cons]
        cases r.inspect? _ with
        | none => exact List.Pairwise.nil
        | some v => exact List.pairwise_singleton _ v
      · obtain ⟨s, -, hv⟩ := List.mem_filterMap.1 hv
        obtain ⟨-, -, k, hk, hw⟩ := mem_ruleViolationsFrom hw
        rw [(LineRule.of_inspect? hv).2.2, hw]
        exact hl k hk

/-- The order of the rules only changes the order of what they report. -/
lemma ruleViolationsFrom_perm (path : Path) {rules rules' : List LineRule}
    (h : rules'.Perm rules) (blanks : ℕ) (ls : List LexedLine) :
    (ruleViolationsFrom path rules' blanks ls).Perm (ruleViolationsFrom path rules blanks ls) := by
  induction ls generalizing blanks with
  | nil => exact .nil
  | cons l ls ih => exact (h.filterMap _).append (ih _)

/-! ### The report of a file -/

namespace Analysis

/-- The checks with their usual settings, or those that a configuration asks for. -/
def IsConfigured (a : Analysis) : Prop := a = standard ∨ ∃ c, ofConfig c = .ok a

variable {a : Analysis} {path : Path} {text : List Char} {ls : List LexedLine} {v : Violation}

/-- The line rules have different names. -/
lemma IsConfigured.nodup_rules (h : a.IsConfigured) : (a.rules.map LineRule.name).Nodup := by
  rcases h with rfl | ⟨c, hc⟩
  · simp only [standard, LineRule.defaults, List.map_cons, List.map_nil, LineRule.name]
    decide
  · exact nodup_rules_of_ofConfig hc

/-- A violation is on one of the lines. -/
lemma line_of_mem_found (h : v ∈ a.found path ls) : ∃ l ∈ ls, v.line = l.line.number := by
  rcases List.mem_append.1 h with h | h
  · rcases List.mem_append.1 h with h | h
    · exact (mem_longMethods h).2.2
    · exact (mem_missingDocsFrom h).2.2
  · exact (mem_ruleViolationsFrom h).2.2

lemma mem_violations : v ∈ a.violations path text ↔ v ∈ a.found path (lex text) :=
  (a.violations_perm path text).mem_iff

/-- The lines of a file are numbered from one up to their number. -/
lemma line_of_mem_violations (h : v ∈ a.violations path text) :
    1 ≤ v.line ∧ v.line ≤ (lex text).length := by
  obtain ⟨l, hl, hline⟩ := line_of_mem_found (mem_violations.1 h)
  obtain ⟨i, hi, rfl⟩ := List.mem_iff_getElem.1 hl
  rw [hline, number_of_getElem?_lex (List.getElem?_eq_getElem hi)]
  exact ⟨Nat.le_add_left 1 i, hi⟩

/-- The report is strictly in the order of lines and rules. -/
lemma pairwise_precedes (hrules : (a.rules.map LineRule.name).Nodup) :
    (a.violations path text).Pairwise Violation.Precedes := by
  have hne : (a.violations path text).Pairwise fun v w => v.line ≠ w.line ∨ v.rule ≠ w.rule :=
    ((a.violations_perm path text).symm.pairwise_iff fun {v w} h =>
      h.imp Ne.symm Ne.symm).1 (pairwise_found hrules path (pairwise_lex text))
  refine ((pairwise_violations hrules path text).and hne).imp_of_mem fun {v w} hv hw h => ?_
  have hpath : v.path = w.path := by
    rw [path_of_mem_found (mem_violations.1 hv), path_of_mem_found (mem_violations.1 hw)]
  exact Violation.precedes_of_order hpath h.2 h.1

/-- **A part of the report** is what is found of it, if this is in the order of the lines. -/
theorem filter_violations (hrules : (a.rules.map LineRule.name).Nodup) {p : Violation → Bool}
    {vs : List Violation} (hfound : (a.found path (lex text)).filter p = vs)
    (hlines : vs.Pairwise fun v w => v.line < w.line) :
    (a.violations path text).filter p = vs := by
  refine eq_of_perm_of_pairwise_lt ?_ ((pairwise_violations hrules path text).filter p)
    (hlines.imp_of_mem fun {v w} hv hw hline => ?_)
  · rw [← hfound]
    exact (a.violations_perm path text).filter p
  · rw [← hfound] at hv hw
    refine Violation.order_of_line_lt ?_ hline
    rw [path_of_mem_found (List.mem_of_mem_filter hv),
      path_of_mem_found (List.mem_of_mem_filter hw)]

/-- Each check alone gives what is reported under its name. -/
lemma filter_found (ls : List LexedLine) (name : String) :
    ((a.found path ls).filter fun v => v.rule = name) =
      (if name = "long-method" then longMethods path a.methodLimit ls else []) ++
        (if name = "missing-doc" then
          missingDocs path a.docs.window a.docs.cap a.docs.visibilities ls else []) ++
        (ruleViolations path a.rules ls).filter fun v => v.rule = name := by
  have hpart {vs : List Violation} {rule : String} (h : ∀ v ∈ vs, v.rule = rule) :
      (vs.filter fun v => v.rule = name) = if name = rule then vs else [] := by
    split_ifs with hname
    · exact List.filter_eq_self.2 fun v hv => decide_eq_true ((h v hv).trans hname.symm)
    · refine List.filter_eq_nil_iff.2 fun v hv => ?_
      rw [h v hv, decide_eq_true_eq]
      exact Ne.symm hname
  rw [found, List.filter_append, List.filter_append, hpart fun v hv => (mem_longMethods hv).2.1,
    missingDocs, hpart fun v hv => (mem_missingDocsFrom hv).2.1]

/-- The order in which the rules are listed does not change the report. -/
lemma violations_perm_rules (hrules : (a.rules.map LineRule.name).Nodup) {rules : List LineRule}
    (h : rules.Perm a.rules) :
    Analysis.violations { a with rules := rules } path text = a.violations path text := by
  have hperm : (Analysis.found { a with rules := rules } path (lex text)).Perm
      (a.found path (lex text)) := (ruleViolationsFrom_perm path h 0 (lex text)).append_left _
  refine Violation.sort_eq_of_perm hperm (pairwise_ne_of_perm ?_
    (pairwise_violations_ne hrules path text))
  exact (a.violations_perm path text).trans hperm.symm

/-- **What the checks of a file report.** The report is strictly in the order of lines and rules, so
no line breaks a rule twice; each violation names the file and one of its lines. The report holds
what the three checks find, with nothing lost or added. What it has under the name of a check is
what this check finds alone, in the order of the lines, and it has nothing under another name. The
order in which the rules are listed does not matter. -/
theorem violations_by_line_and_rule (ha : a.IsConfigured) (path : Path) (text : List Char) :
    (a.violations path text).Pairwise Violation.Precedes ∧
      (∀ v ∈ a.violations path text,
        v.path = path ∧ 1 ≤ v.line ∧ v.line ≤ (lex text).length ∧
          v.rule ∈ "long-method" :: "missing-doc" :: a.rules.map LineRule.name) ∧
      (a.violations path text).Perm (longMethods path a.methodLimit (lex text) ++
        missingDocs path a.docs.window a.docs.cap a.docs.visibilities (lex text) ++
        ruleViolations path a.rules (lex text)) ∧
      ((a.violations path text).filter fun v => v.rule = "long-method") =
        longMethods path a.methodLimit (lex text) ∧
      ((a.violations path text).filter fun v => v.rule = "missing-doc") =
        missingDocs path a.docs.window a.docs.cap a.docs.visibilities (lex text) ∧
      (∀ r ∈ a.rules, ((a.violations path text).filter fun v => v.rule = r.name) =
        ruleViolations path [r] (lex text)) ∧
      ∀ rules : List LineRule, rules.Perm a.rules →
        Analysis.violations { a with rules := rules } path text = a.violations path text := by
  have hrules := ha.nodup_rules
  have hlines := pairwise_lex text
  have hnone {name : String}
      (h : ∀ v ∈ ruleViolations path a.rules (lex text), v.rule ≠ name) :
      ((ruleViolations path a.rules (lex text)).filter fun v => v.rule = name) = [] :=
    List.filter_eq_nil_iff.2 fun v hv hname => h v hv (of_decide_eq_true hname)
  refine ⟨pairwise_precedes hrules, fun v hv => ?_, a.violations_perm path text, ?_, ?_,
    fun r hr => ?_, fun rules h => violations_perm_rules hrules h⟩
  · obtain ⟨hpos, hle⟩ := line_of_mem_violations hv
    refine ⟨path_of_mem_found (mem_violations.1 hv), hpos, hle, ?_⟩
    rcases List.mem_append.1 (mem_violations.1 hv) with h | h
    · rcases List.mem_append.1 h with h | h
      · simp [(mem_longMethods h).2.1]
      · simp [(mem_missingDocsFrom h).2.1]
    · exact List.mem_cons_of_mem _ (List.mem_cons_of_mem _ (mem_ruleViolationsFrom h).2.1)
  · refine filter_violations hrules ?_ (pairwise_longMethods path _ hlines)
    rw [filter_found, hnone fun v hv => (rule_ne_of_mem_ruleViolationsFrom hv).1]
    simp
  · refine filter_violations hrules ?_ (pairwise_missingDocsFrom path _ _ _ [] hlines)
    rw [filter_found, hnone fun v hv => (rule_ne_of_mem_ruleViolationsFrom hv).2]
    simp
  · refine filter_violations hrules ?_ (pairwise_ruleViolationsFrom_single path r 0 hlines)
    rw [filter_found, if_neg r.name_ne.1, if_neg r.name_ne.2]
    exact filter_ruleViolationsFrom path hrules hr 0 (lex text)

/-- The checks of a configuration that bans no call. -/
def banningNothing : Analysis where
  methodLimit := 30
  docs := {}
  rules := [.bannedCall [] defaultLoggingFacility, .hardcodedLiteral, .longLine 120, .blankRun 1,
    .wildcardImport, .indent .tab]

/-- A tab before an import of everything in a package: two rules are broken on the same line. They
are reported in the order of their names, each as by its rule alone, also where the analysis lists
its rules the other way round. -/
theorem violations_by_line_and_rule_import :
    banningNothing.IsConfigured ∧
      (banningNothing.violations ⟨"A.java"⟩ "\timport a.*;\n".toList).Pairwise
        Violation.Precedes ∧
      ((banningNothing.violations ⟨"A.java"⟩ "\timport a.*;\n".toList).filter
        fun v => v.rule = "disallowed-indent").map Violation.line = [1] ∧
      ((banningNothing.violations ⟨"A.java"⟩ "\timport a.*;\n".toList).filter
        fun v => v.rule = "wildcard-import").map Violation.line = [1] ∧
      Analysis.violations { banningNothing with rules := banningNothing.rules.reverse } ⟨"A.java"⟩
        "\timport a.*;\n".toList =
          banningNothing.violations ⟨"A.java"⟩ "\timport a.*;\n".toList := by
  have hconfigured : banningNothing.IsConfigured :=
    .inr ⟨{ patterns := { bannedCalls := [] } }, rfl⟩
  obtain ⟨hpairwise, -, -, -, -, hrule, hperm⟩ :=
    violations_by_line_and_rule hconfigured ⟨"A.java"⟩ "\timport a.*;\n".toList
  refine ⟨hconfigured, hpairwise, ?_, ?_, hperm _ (List.reverse_perm _)⟩
  · have hindent := hrule (.indent .tab) (by simp [banningNothing])
    exact (congrArg (List.map Violation.line) hindent).trans (by decide +kernel)
  · have himport := hrule .wildcardImport (by simp [banningNothing])
    exact (congrArg (List.map Violation.line) himport).trans (by decide +kernel)

end Analysis

end QualityGate
