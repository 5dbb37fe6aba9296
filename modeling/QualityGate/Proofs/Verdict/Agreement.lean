import QualityGate.Verdict.Basic
import Mathlib.Tactic

/-!
The verdict as a conjunction of conditions: no violation of severity error, in strict mode no
warning, each metric that takes part at its threshold, and an evaluated report where one is
required. The gate counts violations and lists reasons; here the conditions are stated on the
violations and metrics themselves, and the two views are shown to agree.

* `Condition`, `GateResult.Meets`: the conditions for passing, and what each of them says.
* `map_condition_failureReasons`: the reasons to fail are one reason for each condition that is not
  met, in the order of the conditions.
* `structuralPassed_iff`: the structural checks pass exactly if the first two conditions are met.
* `GateResult.Tells`: what a reason says about the result it is given for.
* `passed_iff_conditions_met`: the verdict, its reasons, and what it does not depend on.
-/

namespace QualityGate

/-- A status that a run can end with: an evaluated report was evaluated against a policy. -/
inductive CoverageStatus.Arises : CoverageStatus → Prop where
  | notRequested : Arises .notRequested
  | unavailable (reason : String) : Arises (.unavailable reason)
  | evaluated (p : ThresholdPolicy) (r : CoverageReport) : Arises (.evaluated (p.evaluate r))

/-! ### Conditions -/

/-- A condition for passing. -/
inductive Condition where
  | noErrors
  | noWarnings
  | reaches (m : Metric)
  | reportEvaluated
  deriving DecidableEq, Repr

/-- All conditions, in the order in which reasons are given. -/
def Condition.all : List Condition :=
  [noErrors, noWarnings] ++ (Metric.all.map reaches ++ [reportEvaluated])

/-- The condition that a reason is about. -/
def FailureReason.condition : FailureReason → Condition
  | errors _ => .noErrors
  | warnings _ => .noWarnings
  | lowCoverage x => .reaches x.metric
  | coverageUnavailable _ | coverageMissing => .reportEvaluated

namespace GateResult

/-- A result meets a condition. Warnings count in strict mode only, and a metric with the threshold
zero has nothing to reach. -/
def Meets (r : GateResult) : Condition → Prop
  | .noErrors => ∀ v ∈ r.violations, v.severity ≠ .error
  | .noWarnings => r.policy.strict = true → ∀ v ∈ r.violations, v.severity ≠ .warning
  | .reaches m => ∀ s ∈ r.coverage.summary?, ∀ x ∈ s.metrics,
      x.metric = m → x.isGating = true → x.threshold ≤ x.percentage
  | .reportEvaluated => r.policy.coverageRequired = true → r.coverage.summary?.isSome = true

instance (r : GateResult) : DecidablePred r.Meets
  | .noErrors => inferInstanceAs (Decidable (∀ v ∈ r.violations, v.severity ≠ .error))
  | .noWarnings => inferInstanceAs
      (Decidable (r.policy.strict = true → ∀ v ∈ r.violations, v.severity ≠ .warning))
  | .reaches m => inferInstanceAs (Decidable (∀ s ∈ r.coverage.summary?, ∀ x ∈ s.metrics,
      x.metric = m → x.isGating = true → x.threshold ≤ x.percentage))
  | .reportEvaluated => inferInstanceAs
      (Decidable (r.policy.coverageRequired = true → r.coverage.summary?.isSome = true))

/-- What a reason says holds of the result: the number of violations, the metric with its two
percentages, and what became of the report. -/
def Tells (r : GateResult) : FailureReason → Prop
  | .errors n => 0 < n ∧ n = (r.violations.filter fun v => v.severity = .error).length
  | .warnings n => 0 < n ∧ n = (r.violations.filter fun v => v.severity = .warning).length
  | .lowCoverage x => ∃ s, r.coverage = .evaluated s ∧ x ∈ s.metrics ∧ x.percentage < x.threshold
  | .coverageUnavailable reason => r.coverage = .unavailable reason
  | .coverageMissing => r.coverage = .notRequested

/-! ### Structural checks -/

/-- There is a violation of a severity exactly if it is counted. -/
lemma count_pos_iff (r : GateResult) (s : Severity) :
    0 < r.count s ↔ ¬ ∀ v ∈ r.violations, v.severity ≠ s := by
  simp [count, List.countP_pos_iff]

/-- The reasons that violations give are about the conditions on violations that are not met. -/
lemma map_condition_structuralReasons (r : GateResult) :
    r.structuralReasons.map FailureReason.condition =
      [Condition.noErrors, .noWarnings].filter fun c => ¬ r.Meets c := by
  have he : 0 < r.count .error ↔ ¬ r.Meets .noErrors := r.count_pos_iff .error
  have hw : r.policy.strict = true ∧ 0 < r.count .warning ↔ ¬ r.Meets .noWarnings := by
    rw [count_pos_iff, Meets, Classical.not_imp]
  unfold structuralReasons
  by_cases h₁ : r.Meets .noErrors <;> by_cases h₂ : r.Meets .noWarnings <;>
    simp [he, hw, h₁, h₂, FailureReason.condition]

/-- The structural checks pass exactly if the conditions on violations are met. -/
theorem structuralPassed_iff (r : GateResult) :
    r.structuralPassed = true ↔ r.Meets .noErrors ∧ r.Meets .noWarnings := by
  have hfails (v : Violation) : v.severity.fails r.policy.strict = false ↔
      v.severity ≠ .error ∧ (r.policy.strict = true → v.severity ≠ .warning) := by
    cases v.severity <;> simp [Severity.fails]
  simp only [structuralPassed, Bool.not_eq_true', List.any_eq_false, Bool.not_eq_true, hfails,
    Meets]
  constructor
  · intro h
    exact ⟨fun v hv => (h v hv).1, fun hs v hv => (h v hv).2 hs⟩
  · rintro ⟨h₁, h₂⟩ v hv
    exact ⟨h₁ v hv, fun hs => h₂ hs v hv⟩

/-! ### Coverage -/

/-- In an evaluated summary each metric stands once, so the condition on a metric is about that
entry alone. -/
lemma meets_reaches_iff {r : GateResult} {p : ThresholdPolicy} {report : CoverageReport}
    (h : r.coverage = .evaluated (p.evaluate report)) (m : Metric) :
    r.Meets (.reaches m) ↔ MetricResult.passed ⟨report.total m, p.threshold m⟩ = true := by
  have hmem : m ∈ Metric.all := by cases m <;> decide
  have hmetric (n : Metric) : MetricResult.metric ⟨report.total n, p.threshold n⟩ = n :=
    report.metric_total n
  rw [MetricResult.passed_iff]
  simp only [Meets, h, CoverageStatus.summary?, Option.mem_some_iff, forall_eq',
    ThresholdPolicy.evaluate, List.forall_mem_map, hmetric]
  constructor
  · intro hall
    exact (Bool.eq_false_or_eq_true _).symm.imp id (hall m hmem rfl)
  · rintro hor n - rfl hg
    exact hor.resolve_left (by simp [hg])

/-- Without a summary every metric is let pass, and only a required report is missed. -/
lemma filter_coverageConditions {r : GateResult} (h : r.coverage.summary? = none) :
    ((Metric.all.map Condition.reaches ++ [Condition.reportEvaluated]).filter
        fun c => ¬ r.Meets c) =
      if r.policy.coverageRequired then [Condition.reportEvaluated] else [] := by
  have hreaches (m : Metric) : r.Meets (.reaches m) := by simp [Meets, h]
  have hrequired : r.Meets .reportEvaluated ↔ r.policy.coverageRequired = false := by
    simp [Meets, h]
  cases hr : r.policy.coverageRequired <;>
    simp [hreaches, hrequired, hr, List.filter_map, Function.comp_def]

/-- The reasons that the report gives are about the conditions on coverage that are not met. -/
lemma map_condition_coverageReasons {r : GateResult} (h : r.coverage.Arises) :
    r.coverageReasons.map FailureReason.condition =
      (Metric.all.map Condition.reaches ++ [Condition.reportEvaluated]).filter
        fun c => ¬ r.Meets c := by
  unfold coverageReasons
  generalize hc : r.coverage = status at h ⊢
  cases h with
  | evaluated p report =>
      have hevaluated : r.Meets .reportEvaluated := by simp [Meets, hc, CoverageStatus.summary?]
      have hreaches := meets_reaches_iff hc
      have hmetric (n : Metric) : MetricResult.metric ⟨report.total n, p.threshold n⟩ = n :=
        report.metric_total n
      simp only [CoverageSummary.failures, ThresholdPolicy.evaluate, List.filter_map,
        List.map_map, List.filter_append, Function.comp_def, FailureReason.condition, hmetric,
        hreaches, List.filter_cons, hevaluated]
      simp
  | unavailable reason | notRequested =>
      rw [filter_coverageConditions (by rw [hc]; rfl)]
      cases r.policy.coverageRequired <;> rfl

/-- The report gives no reason exactly if each metric that takes part is at its threshold and a
required report was evaluated. -/
lemma coverageReasons_eq_nil_iff (r : GateResult) :
    r.coverageReasons = [] ↔
      (∀ s, r.coverage = .evaluated s →
        ∀ x ∈ s.metrics, x.isGating = true → x.threshold ≤ x.percentage) ∧
      (r.policy.coverageRequired = true → ∃ s, r.coverage = .evaluated s) := by
  have hpassed (x : MetricResult) :
      x.passed = true ↔ (x.isGating = true → x.threshold ≤ x.percentage) := by
    rw [x.passed_iff]
    cases x.isGating <;> simp
  unfold coverageReasons
  cases r.coverage with
  | evaluated s =>
      simp [CoverageSummary.failures, List.filter_eq_nil_iff, hpassed]
  | unavailable reason | notRequested =>
      cases r.policy.coverageRequired <;> simp

/-! ### The verdict -/

/-- The violations give no reason exactly if the structural checks pass. -/
lemma structuralReasons_eq_nil_iff (r : GateResult) :
    r.structuralReasons = [] ↔ r.structuralPassed = true := by
  rw [structuralPassed_iff, ← List.map_eq_nil_iff, map_condition_structuralReasons,
    List.filter_eq_nil_iff]
  simp

/-- The gate passes exactly if neither the violations nor the report give a reason to fail. -/
lemma passed_iff_reasons_eq_nil (r : GateResult) :
    r.passed = true ↔ r.structuralReasons = [] ∧ r.coverageReasons = [] := by
  rw [passed, List.isEmpty_iff, failureReasons, List.append_eq_nil_iff]

/-- **One reason for each condition that is not met**, in the order of the conditions. -/
theorem map_condition_failureReasons {r : GateResult} (h : r.coverage.Arises) :
    r.failureReasons.map FailureReason.condition = Condition.all.filter fun c => ¬ r.Meets c := by
  rw [failureReasons, List.map_append, map_condition_structuralReasons,
    map_condition_coverageReasons h, Condition.all]
  simp only [List.filter_append]

/-- Every reason is true of the result it is given for. -/
theorem tells_of_mem_failureReasons {r : GateResult} {x : FailureReason}
    (h : x ∈ r.failureReasons) : r.Tells x := by
  have hcount (s : Severity) :
      r.count s = (r.violations.filter fun v => v.severity = s).length := by
    rw [count, List.countP_eq_length_filter]
    congr
  rcases List.mem_append.1 h with h | h
  · rcases List.mem_append.1 h with h | h <;> split at h
    · next hpos =>
      rw [List.mem_singleton.1 h]
      exact ⟨hpos, hcount _⟩
    · cases h
    · next hpos =>
      rw [Bool.and_eq_true, decide_eq_true_eq] at hpos
      rw [List.mem_singleton.1 h]
      exact ⟨hpos.2, hcount _⟩
    · cases h
  · unfold coverageReasons at h
    split at h
    · next s hs =>
      obtain ⟨y, hy, rfl⟩ := List.mem_map.1 h
      obtain ⟨hmem, hlow⟩ := List.mem_filter.1 hy
      refine ⟨s, hs, hmem, ?_⟩
      simp only [MetricResult.passed, Bool.not_eq_true', Bool.or_eq_false_iff,
        decide_eq_false_iff_not] at hlow
      omega
    · next reason hs =>
      split at h
      · rwa [List.mem_singleton.1 h]
      · cases h
    · next hs =>
      split at h
      · rwa [List.mem_singleton.1 h]
      · cases h

/-- The violations that can fail the gate: errors, and warnings in strict mode. -/
def weighty (r : GateResult) : List Violation :=
  r.violations.filter fun v =>
    v.severity = .error ∨ (v.severity = .warning ∧ r.policy.strict = true)

/-- The structural checks pass exactly if no violation has weight. -/
lemma structuralPassed_iff_weighty (r : GateResult) :
    r.structuralPassed = true ↔ r.weighty = [] := by
  rw [structuralPassed_iff, weighty, List.filter_eq_nil_iff]
  simp only [Meets, decide_eq_true_eq, not_or, not_and]
  constructor
  · rintro ⟨he, hw⟩ v hv
    exact ⟨he v hv, fun hs hstrict => hw hstrict v hv hs⟩
  · intro hall
    exact ⟨fun v hv => (hall v hv).1, fun hstrict v hv hs => (hall v hv).2 hs hstrict⟩

end GateResult

/-- What counts of a status: of an evaluated report, the metrics that take part in the decision. -/
def CoverageStatus.gatingPart : CoverageStatus → CoverageStatus
  | evaluated s => evaluated ⟨s.metrics.filter MetricResult.isGating, []⟩
  | status => status

namespace GateResult

/-- Whether the report gives a reason depends on what counts of its status alone. -/
lemma coverageReasons_eq_nil_congr {r r' : GateResult} (hp : r'.policy = r.policy)
    (hc : r'.coverage.gatingPart = r.coverage.gatingPart) :
    r'.coverageReasons = [] ↔ r.coverageReasons = [] := by
  rw [coverageReasons_eq_nil_iff, coverageReasons_eq_nil_iff, hp]
  cases h' : r'.coverage with
  | evaluated s' =>
      cases h : r.coverage with
      | evaluated s =>
          rw [h, h', CoverageStatus.gatingPart, CoverageStatus.gatingPart] at hc
          have hfilter : s'.metrics.filter MetricResult.isGating =
              s.metrics.filter MetricResult.isGating := by simpa using hc
          have hmem (x : MetricResult) (hx : x.isGating = true) :
              x ∈ s'.metrics ↔ x ∈ s.metrics := by
            simpa [hx] using congrArg (x ∈ ·) hfilter
          simp only [CoverageStatus.evaluated.injEq, forall_eq', exists_eq', implies_true, and_true]
          exact ⟨fun hall x hx hg => hall x ((hmem x hg).2 hx) hg,
            fun hall x hx hg => hall x ((hmem x hg).1 hx) hg⟩
      | unavailable reason | notRequested =>
          rw [h, h'] at hc
          cases hc
  | unavailable reason | notRequested =>
      cases h : r.coverage with
      | evaluated s =>
          rw [h, h'] at hc
          cases hc
      | unavailable reason | notRequested => simp

/-- Results with the same policy, the same violations of weight and the same metrics that take part
in the decision have the same verdict. -/
theorem passed_congr {r r' : GateResult} (hp : r'.policy = r.policy)
    (hv : r'.weighty = r.weighty) (hc : r'.coverage.gatingPart = r.coverage.gatingPart) :
    r'.passed = r.passed := by
  rw [Bool.eq_iff_iff, passed_iff_reasons_eq_nil, passed_iff_reasons_eq_nil,
    structuralReasons_eq_nil_iff, structuralReasons_eq_nil_iff, structuralPassed_iff_weighty,
    structuralPassed_iff_weighty, hv, coverageReasons_eq_nil_congr hp hc]

/-- **The verdict agrees with its parts.** The gate passes exactly if the structural checks pass,
every metric that takes part is at its threshold, and a required report was evaluated; equivalently
there is no reason to fail. The reasons are one for each condition that is not met, in order, and
what they say is true. Notices, the mark of a cancelled scan, the number of files, violations
without weight, metrics that are only reported and the list of shortfalls do not touch the
verdict. -/
theorem passed_iff_conditions_met (r : GateResult) (h : r.coverage.Arises) :
    (r.passed = true ↔ r.structuralPassed = true ∧
      (∀ s, r.coverage = .evaluated s →
        ∀ x ∈ s.metrics, x.isGating = true → x.threshold ≤ x.percentage) ∧
      (r.policy.coverageRequired = true → ∃ s, r.coverage = .evaluated s)) ∧
    (r.passed = true ↔ r.failureReasons = []) ∧
    (r.failureReasons.map FailureReason.condition = Condition.all.filter fun c => ¬ r.Meets c) ∧
    (∀ x ∈ r.failureReasons, r.Tells x) ∧
    (∀ r' : GateResult, r'.policy = r.policy → r'.weighty = r.weighty →
      r'.coverage.gatingPart = r.coverage.gatingPart → r'.passed = r.passed) := by
  refine ⟨?_, ?_, map_condition_failureReasons h, fun x => tells_of_mem_failureReasons,
    fun r' => passed_congr⟩
  · rw [passed_iff_reasons_eq_nil, structuralReasons_eq_nil_iff, coverageReasons_eq_nil_iff]
  · rw [passed, List.isEmpty_iff]

/-- A strict run that found a warning, skipped a file, and evaluated a report in which three lines
of ten are missed. -/
def strictRun : GateResult where
  violations := [⟨.styleSmell, .warning, "long-line", ⟨"A.java"⟩, 3, "Line is long", ""⟩,
    ⟨.styleSmell, .info, "disallowed-indent", ⟨"A.java"⟩, 4, "Indentation uses a tab", ""⟩]
  notices := [⟨⟨"B.java"⟩, "No such file or directory"⟩]
  coverage := .evaluated (ThresholdPolicy.standard.evaluate
    ⟨[⟨.line, 3, 7⟩, ⟨.branch, 0, 4⟩], [⟨"p/A", [⟨.line, 3, 7⟩]⟩]⟩)
  filesScanned := 1
  cancelled := false
  policy := ⟨true, true⟩

/-- The strict run fails for the warning and for the lines, and for nothing else. -/
theorem passed_iff_conditions_met_strictRun :
    strictRun.coverage.Arises ∧ strictRun.passed = false ∧
      strictRun.failureReasons.map FailureReason.condition = [.noWarnings, .reaches .line] := by
  have harises : strictRun.coverage.Arises := .evaluated _ _
  obtain ⟨-, hpassed, hreasons, -, -⟩ := passed_iff_conditions_met strictRun harises
  have hfailed : Condition.all.filter (fun c => ¬ strictRun.Meets c) =
      [.noWarnings, .reaches .line] := by decide
  rw [hfailed] at hreasons
  refine ⟨harises, ?_, hreasons⟩
  rw [← Bool.not_eq_true, hpassed]
  intro hnil
  rw [hnil] at hreasons
  cases hreasons

end GateResult

end QualityGate
