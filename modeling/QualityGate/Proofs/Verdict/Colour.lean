import QualityGate.Proofs.Text.Colour
import QualityGate.Verdict.Text
import Mathlib.Tactic

/-!
Results in colour. The report of a result is put together from the texts of the result and from
fixed ones, and colour only adds control sequences around some of these. Where the result has no
escape character in its texts, the report without its control sequences is the report without
colour.

* `GateResult.IsEscapeFree`: the texts of a result have no escape character.
* `GateResult.IsEscapeFree.styled`: then neither has any run of its report.
* `GateResult.withoutControls_text`: **colour carries no information**.
-/

namespace QualityGate

open Text (Run Styled IsEscapeFree withoutControls)

/-! ### Fixed texts -/

@[simp]
lemma Severity.isEscapeFree_name (s : Severity) : IsEscapeFree s.name := by
  cases s <;> decide

@[simp]
lemma ViolationKind.isEscapeFree_title (k : ViolationKind) : IsEscapeFree k.title := by
  cases k <;> decide

@[simp]
lemma Metric.isEscapeFree_tag (m : Metric) : IsEscapeFree m.tag := by
  cases m <;> decide

@[simp]
lemma Metric.isEscapeFree_name (m : Metric) : IsEscapeFree m.name := by
  cases m <;> decide

@[simp]
lemma isEscapeFree_pluralEnding (n : ℕ) : IsEscapeFree (pluralEnding n) := by
  rw [pluralEnding]
  split_ifs <;> decide

@[simp]
lemma MetricResult.isEscapeFree_status (r : MetricResult) : IsEscapeFree r.status.text := by
  rw [status]
  split_ifs <;> decide

@[simp]
lemma MetricResult.isEscapeFree_thresholdText (r : MetricResult) :
    IsEscapeFree r.thresholdText := by
  rw [thresholdText]
  split_ifs
  · simp +decide
  · decide

/-! ### The parts of a report -/

@[simp]
lemma isEscapeFree_plainLine {s : String} :
    Styled.IsEscapeFree (plainLine s) ↔ IsEscapeFree s := by
  simp +decide [plainLine]

/-- The texts of a violation that are shown have no escape character. -/
structure Violation.IsEscapeFree (v : Violation) : Prop where
  path : Text.IsEscapeFree v.path.text
  message : Text.IsEscapeFree v.message
  remediation : Text.IsEscapeFree v.remediation

lemma Violation.IsEscapeFree.styled {v : Violation} (h : v.IsEscapeFree) :
    Styled.IsEscapeFree v.styled := by
  simp +decide [Violation.styled, Violation.location, h.path, h.message, h.remediation]

/-- The texts of a skipped file have no escape character. -/
structure Notice.IsEscapeFree (n : Notice) : Prop where
  path : Text.IsEscapeFree n.path.text
  message : Text.IsEscapeFree n.message

lemma MetricResult.isEscapeFree_styled (r : MetricResult) : Styled.IsEscapeFree r.styled := by
  simp +decide [MetricResult.styled, coverageRow]

lemma Shortfall.isEscapeFree_styled {s : Shortfall} (h : IsEscapeFree s.name) :
    Styled.IsEscapeFree s.styled := by
  simp +decide [Shortfall.styled, h]

lemma CoverageSummary.isEscapeFree_styled {s : CoverageSummary}
    (h : ∀ u ∈ s.shortfalls, IsEscapeFree u.name) : Styled.IsEscapeFree s.styled := by
  have hmetrics : ∀ r ∈ s.metrics, Styled.IsEscapeFree r.styled :=
    fun r _ => r.isEscapeFree_styled
  have hshortfalls : s.shortfalls ≠ [] → ∀ u ∈ s.shortfalls, Styled.IsEscapeFree u.styled :=
    fun _ u hu => Shortfall.isEscapeFree_styled (h u hu)
  simpa +decide [CoverageSummary.styled, coverageRow] using And.intro hmetrics hshortfalls

/-- What became of the coverage report has no escape character in its texts: neither the reason why
it could not be read, nor the names of the units below the threshold. -/
def CoverageStatus.IsEscapeFree : CoverageStatus → Prop
  | notRequested => True
  | unavailable reason => Text.IsEscapeFree reason
  | evaluated summary => ∀ u ∈ summary.shortfalls, Text.IsEscapeFree u.name

lemma CoverageStatus.IsEscapeFree.styled {s : CoverageStatus} (h : s.IsEscapeFree) :
    Styled.IsEscapeFree s.styled := by
  cases s with
  | notRequested => exact Styled.isEscapeFree_nil
  | unavailable reason =>
      have hreason : Text.IsEscapeFree reason := h
      simp +decide [CoverageStatus.styled, hreason]
  | evaluated summary =>
      have hsummary : Styled.IsEscapeFree summary.styled := CoverageSummary.isEscapeFree_styled h
      simp +decide [CoverageStatus.styled, hsummary]

namespace GateResult

variable {r : GateResult}

/-- No text of the result has an escape character. -/
structure IsEscapeFree (r : GateResult) : Prop where
  violations : ∀ v ∈ r.violations, v.IsEscapeFree
  notices : ∀ n ∈ r.notices, n.IsEscapeFree
  coverage : r.coverage.IsEscapeFree

lemma IsEscapeFree.styledNotices (h : r.IsEscapeFree) : Styled.IsEscapeFree r.styledNotices := by
  have hnotices : r.notices ≠ [] → ∀ n ∈ r.notices,
      Text.IsEscapeFree n.path.text ∧ Text.IsEscapeFree n.message := fun _ n hn =>
    ⟨(h.notices n hn).path, (h.notices n hn).message⟩
  simpa +decide [GateResult.styledNotices] using hnotices

/-- The reason why there is no coverage is a reason to fail only if it is one. -/
lemma coverage_of_mem_failureReasons {why : String}
    (h : .coverageUnavailable why ∈ r.failureReasons) : r.coverage = .unavailable why := by
  rcases List.mem_append.1 h with h | h
  · rw [structuralReasons, List.mem_append] at h
    split_ifs at h <;> simp at h
  · unfold coverageReasons at h
    split at h
    · simp at h
    · next reason hreason =>
      split_ifs at h
      · cases List.mem_singleton.1 h
        exact hreason
      · cases h
    · split_ifs at h <;> simp at h

/-- Reasons to fail are put together from numbers, words and the reason why there is no coverage. -/
lemma IsEscapeFree.message (h : r.IsEscapeFree) {reason : FailureReason}
    (hr : reason ∈ r.failureReasons) : Text.IsEscapeFree reason.message := by
  cases reason with
  | errors n =>
      show Text.IsEscapeFree s!"{n} error-severity violation{pluralEnding n}"
      simp +decide
  | warnings n =>
      show Text.IsEscapeFree s!"{n} warning{pluralEnding n} (strict mode)"
      simp +decide
  | lowCoverage m =>
      show Text.IsEscapeFree
        s!"{m.metric.name} coverage {m.percentage}% is below the required {m.threshold}%"
      simp +decide
  | coverageMissing => decide
  | coverageUnavailable why =>
      have hwhy : Text.IsEscapeFree why := by
        have hcoverage := h.coverage
        rwa [coverage_of_mem_failureReasons hr] at hcoverage
      show Text.IsEscapeFree s!"coverage is required but unavailable: {why}"
      simp +decide [hwhy]

lemma isEscapeFree_styledNumbers (r : GateResult) : Styled.IsEscapeFree r.styledNumbers := by
  simp +decide [styledNumbers]

lemma IsEscapeFree.styledVerdict (h : r.IsEscapeFree) : Styled.IsEscapeFree r.styledVerdict := by
  have hreasons : r.passed = false → ∀ reason ∈ r.failureReasons,
      Text.IsEscapeFree reason.message := fun _ reason hr => h.message hr
  simpa +decide [GateResult.styledVerdict] using hreasons

/-- No run of the report has an escape character in its text. -/
lemma IsEscapeFree.styled (h : r.IsEscapeFree) : Styled.IsEscapeFree r.styled := by
  have hviolations : ∀ v ∈ r.violations, Styled.IsEscapeFree v.styled :=
    fun v hv => (h.violations v hv).styled
  simpa +decide [GateResult.styled, h.styledNotices, h.coverage.styled,
    r.isEscapeFree_styledNumbers, h.styledVerdict] using hviolations

/-- **Colour carries no information.** If no text of a result has an escape character, the report in
colour without its control sequences is the report without colour, character by character, and this
has no escape character. The report in colour has some. -/
theorem withoutControls_text (h : r.IsEscapeFree) :
    withoutControls (r.text true).toList = (r.text false).toList ∧
      '\x1b' ∉ (r.text false).toList ∧ '\x1b' ∈ (r.text true).toList := by
  simp only [GateResult.text, String.toList_ofList]
  refine ⟨Styled.withoutControls_render h.styled, Styled.not_mem_render_false h.styled, ?_⟩
  have hnumbers : Run.painted .red (toString (r.count .error)) ∈ r.styled :=
    List.mem_append_left _ (List.mem_append_right _ (.tail _ (.head _)))
  exact List.mem_flatMap.2
    ⟨_, hnumbers, by simp [Run.render, Text.Style.codes, Text.controlSequence]⟩

/-- A result with something in every part of its report. A message looks like a control sequence
and lacks only the escape character. -/
def bracketResult : GateResult where
  violations := [⟨.bannedCall, .error, "banned-call", ⟨"A.java"⟩, 3, "Banned call '[31mlog'",
    "Log through an SLF4J Logger instead"⟩]
  notices := [⟨⟨"B.java"⟩, "stream did not contain valid UTF-8"⟩]
  coverage := .evaluated ⟨[⟨⟨.line, 30, 70⟩, 80⟩, ⟨⟨.method, 0, 0⟩, 0⟩], [⟨"A", ⟨.line, 1, 1⟩⟩]⟩
  filesScanned := 1
  cancelled := true
  policy := ⟨true, true⟩

/-- Its report in colour without its control sequences is the one without colour. -/
theorem withoutControls_text_bracketResult :
    bracketResult.IsEscapeFree ∧
      withoutControls (bracketResult.text true).toList = (bracketResult.text false).toList ∧
      '\x1b' ∉ (bracketResult.text false).toList ∧ '\x1b' ∈ (bracketResult.text true).toList := by
  have hfree : bracketResult.IsEscapeFree := by
    refine ⟨fun v hv => ?_, fun n hn => ?_, fun u hu => ?_⟩
    · obtain rfl := List.mem_singleton.1 hv
      exact ⟨by decide, by decide, by decide⟩
    · obtain rfl := List.mem_singleton.1 hn
      exact ⟨by decide, by decide⟩
    · obtain rfl := List.mem_singleton.1 hu
      decide
  exact ⟨hfree, withoutControls_text hfree⟩

end GateResult

end QualityGate
