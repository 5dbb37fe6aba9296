import QualityGate.Proofs.Analysis.Relaxed
import QualityGate.Proofs.Gate.Independence
import QualityGate.Proofs.Verdict.Agreement

/-!
Gates that ask for less. A configuration relaxes another one when each of its limits, budgets and
thresholds is at least as easy to meet; the gate for it then passes whatever the other gate passes.

* `Config.Relaxes`, `Gate.Relaxes`: to ask for no more than another configuration or gate.
* `Gate.relaxes_ofConfig`: the gate of a relaxed configuration is a relaxed gate.
* `structuralPassed_of_coveredBy`: the structural checks pass whatever is covered by what they pass.
* `Gate.passed_resultOf_of_relaxes`: a relaxed gate passes what the gate passes, once the violations
  are covered.
* `Gate.passed_of_relaxes`: **what passes a gate passes a relaxed one**, whatever the schedules.
-/

namespace QualityGate

/-! ### Configurations and gates -/

/-- A configuration asks for no more than another one. What is said in remarks, and where to log
instead of a banned call, is left open. -/
structure Config.Relaxes (c' c : Config) : Prop where
  methodLimit : c.structural.methodLimit ≤ c'.structural.methodLimit
  lineLimit : c.structural.lineLimit ≤ c'.structural.lineLimit
  strict : c'.structural.strict = true → c.structural.strict = true
  window : c.docs.window ≤ c'.docs.window
  cap : c.docs.cap ≤ c'.docs.cap
  visibilities : c'.docs.visibilities ⊆ c.docs.visibilities
  bannedCalls : c'.patterns.bannedCalls ⊆ c.patterns.bannedCalls
  thresholds : ∀ m, c'.coverage.thresholds.get m ≤ c.coverage.thresholds.get m
  required : c'.coverage.required = true → c.coverage.required = true
  unitScope : c'.coverage.unitScope = c.coverage.unitScope

/-- The analysis of a relaxed configuration is a relaxed analysis. -/
lemma Analysis.relaxes_ofConfig {c c' : Config} (h : c'.Relaxes c) {a a' : Analysis}
    (ha : Analysis.ofConfig c = .ok a) (ha' : Analysis.ofConfig c' = .ok a') : a'.Relaxes a := by
  unfold ofConfig at ha ha'
  split at ha
  · cases ha
  · next expressions hexpressions =>
    split at ha'
    · cases ha'
    · next expressions' hexpressions' =>
      cases ha
      cases ha'
      have hsub : expressions' ⊆ expressions := by
        intro r hr
        obtain ⟨t, ht, hrt⟩ := (Text.mem_readEach hexpressions').1 hr
        exact (Text.mem_readEach hexpressions).2 ⟨t, h.bannedCalls ht, hrt⟩
      refine ⟨h.methodLimit, h.window, h.cap, h.visibilities, ?_⟩
      exact .cons (.bannedCall hsub _ _) (.cons .hardcodedLiteral (.cons (.longLine h.lineLimit)
        (.cons (.blankRun _ _) (.cons .wildcardImport (.cons (.indent _ _) .nil)))))

namespace Gate

/-- A gate asks for no more than another one. -/
structure Relaxes (g' g : Gate) : Prop where
  analysis : g'.analysis.Relaxes g.analysis
  unitScope : g'.unitScope = g.unitScope
  thresholds : ∀ m, g'.thresholds.threshold m ≤ g.thresholds.threshold m
  strict : g'.verdict.strict = true → g.verdict.strict = true
  coverageRequired : g'.verdict.coverageRequired = true → g.verdict.coverageRequired = true

/-- The gate of a relaxed configuration is a relaxed gate. -/
theorem relaxes_ofConfig {c c' : Config} (h : c'.Relaxes c) {g g' : Gate}
    (hg : ofConfig c = .ok g) (hg' : ofConfig c' = .ok g') : g'.Relaxes g := by
  obtain ⟨ha, hscope, hthresholds, hverdict⟩ := settings_of_ofConfig hg
  obtain ⟨ha', hscope', hthresholds', hverdict'⟩ := settings_of_ofConfig hg'
  refine ⟨Analysis.relaxes_ofConfig h ha ha', ?_, fun m => ?_, ?_, ?_⟩
  · rw [hscope, hscope']
    exact h.unitScope
  · have hm := h.thresholds m
    rw [hthresholds, hthresholds']
    show min (c'.coverage.thresholds.get m).toNat 100 ≤
      min (c.coverage.thresholds.get m).toNat 100
    omega
  · rw [hverdict, hverdict']
    exact h.strict
  · rw [hverdict, hverdict']
    exact h.required

/-! ### Verdicts -/

end Gate

namespace GateResult

variable {r r' : GateResult}

/-- The structural checks pass a result whose violations are covered by those of one they pass. -/
lemma structuralPassed_of_coveredBy (hv : CoveredBy r'.violations r.violations)
    (hstrict : r'.policy.strict = true → r.policy.strict = true)
    (h : r.structuralPassed = true) : r'.structuralPassed = true := by
  obtain ⟨herrors, hwarnings⟩ := r.structuralPassed_iff.1 h
  refine r'.structuralPassed_iff.2 ⟨fun w hw hsev => ?_, fun hs w hw hsev => ?_⟩
  · obtain ⟨v, hmem, hvw⟩ := hv w hw (by rw [hsev]; decide)
    exact herrors v hmem (hvw.severity.trans hsev)
  · obtain ⟨v, hmem, hvw⟩ := hv w hw (by rw [hsev]; decide)
    exact hwarnings (hstrict hs) v hmem (hvw.severity.trans hsev)

end GateResult

namespace Gate

variable {g g' : Gate}

/-- Gates with the same scope read the same report; what they make of it is up to their
thresholds. -/
lemma coverage_of_unitScope_eq (h : g'.unitScope = g.unitScope) (t : FileTree)
    (report? : Option Path) :
    (g'.coverage t report? = g.coverage t report? ∧ (g.coverage t report?).summary? = none) ∨
      ∃ report, g.coverage t report? = .evaluated (g.thresholds.evaluate report) ∧
        g'.coverage t report? = .evaluated (g'.thresholds.evaluate report) := by
  cases report? with
  | none => exact .inl ⟨rfl, rfl⟩
  | some p =>
      simp only [coverage, h]
      cases readReport t g.unitScope p with
      | error e => exact .inl ⟨rfl, rfl⟩
      | ok report => exact .inr ⟨report, rfl, rfl⟩

/-- A metric that reaches its threshold reaches a smaller one. -/
lemma reaches_of_relaxes (h : g'.Relaxes g) {report : CoverageReport}
    (hreaches : ∀ x ∈ (g.thresholds.evaluate report).metrics, x.isGating = true →
      x.threshold ≤ x.percentage) :
    ∀ x ∈ (g'.thresholds.evaluate report).metrics, x.isGating = true →
      x.threshold ≤ x.percentage := by
  intro x hx hgating
  obtain ⟨m, hm, rfl⟩ := List.mem_map.1 hx
  have hle := h.thresholds m
  have hpos : 0 < g'.thresholds.threshold m := of_decide_eq_true hgating
  exact hle.trans (hreaches _ (List.mem_map_of_mem hm) (decide_eq_true (hpos.trans_le hle)))

/-- Where the report gives a gate no reason to fail, it gives a relaxed one none. -/
lemma coverageReasons_of_relaxes (h : g'.Relaxes g) {t : FileTree} {report? : Option Path}
    {r r' : GateResult} (hr : r.coverage = g.coverage t report?)
    (hr' : r'.coverage = g'.coverage t report?) (hp : r.policy = g.verdict)
    (hp' : r'.policy = g'.verdict) (hnil : r.coverageReasons = []) : r'.coverageReasons = [] := by
  rw [GateResult.coverageReasons_eq_nil_iff] at hnil ⊢
  rw [hr, hp] at hnil
  rw [hr', hp']
  obtain ⟨hreaches, hrequired⟩ := hnil
  rcases coverage_of_unitScope_eq h.unitScope t report? with
    ⟨hsame, hnone⟩ | ⟨report, heval, heval'⟩
  · rw [hsame]
    refine ⟨fun s hs => ?_, fun hreq => hrequired (h.coverageRequired hreq)⟩
    rw [hs] at hnone
    cases hnone
  · rw [heval']
    refine ⟨fun s hs => ?_, fun _ => ⟨_, rfl⟩⟩
    cases hs
    exact reaches_of_relaxes h (hreaches _ heval)

/-- A relaxed gate passes what the gate passes, if the violations it collected are covered. -/
lemma passed_resultOf_of_relaxes (h : g'.Relaxes g) {collected collected' : Collector}
    (hv : CoveredBy collected'.violations collected.violations) (t : FileTree)
    (report? : Option Path) (cancelled : Bool)
    (hpassed : (g.resultOf t collected report? cancelled).passed = true) :
    (g'.resultOf t collected' report? cancelled).passed = true := by
  rw [GateResult.passed_iff_reasons_eq_nil, GateResult.structuralReasons_eq_nil_iff] at hpassed ⊢
  obtain ⟨hstructural, hreasons⟩ := hpassed
  refine ⟨?_, coverageReasons_of_relaxes h rfl rfl rfl rfl hreasons⟩
  apply GateResult.structuralPassed_of_coveredBy _ h.strict hstructural
  exact hv

/-! ### Scans -/

/-- A finished scan that was not cancelled has collected the reports of all files. -/
lemma exists_collected_of_finished {t : FileTree} {files : List Path} {s : ScanState}
    (hsteps : ScanSteps g t (.start files) s) (hfin : s.Finished) (hc : s.cancelled = false) :
    ∃ os, os.Perm (files.map (g.scanFile t)) ∧ s.collector = Collector.ofOutcomes os := by
  have hcons := consistent_of_steps hsteps
  obtain ⟨os, hperm, hcollector⟩ := hcons.collected
  rw [handedOver_eq_of_finished hcons hfin hc] at hperm
  exact ⟨os, hperm, hcollector⟩

/-- A relaxed gate covers what the gate finds in files. -/
lemma violationsIn_coveredBy (h : g'.Relaxes g) (t : FileTree) (p : Path) :
    CoveredBy (g'.violationsIn t p) (g.violationsIn t p) := by
  unfold violationsIn
  cases t.read p with
  | error e => intro w hw; cases hw
  | ok content => exact Analysis.violations_coveredBy h.analysis p _

/-- A relaxed gate passes what the gate passes, when each has collected the reports of all files in
some order. -/
lemma passed_resultOf_finish_of_relaxes (h : g'.Relaxes g) {t : FileTree} {files : List Path}
    {os os' : List FileOutcome} (hos : os.Perm (files.map (g.scanFile t)))
    (hos' : os'.Perm (files.map (g'.scanFile t))) (report? : Option Path)
    (hpassed : (g.resultOf t (Collector.ofOutcomes os).finish report? false).passed = true) :
    (g'.resultOf t (Collector.ofOutcomes os').finish report? false).passed = true := by
  refine passed_resultOf_of_relaxes h ?_ t report? false hpassed
  have hfiles := CoveredBy.flatMap fun p (_ : p ∈ files) => violationsIn_coveredBy h t p
  exact hfiles.perm ((Collector.finish_violations_perm _).trans (contents_of_perm hos').1)
    ((Collector.finish_violations_perm _).trans (contents_of_perm hos).1)

/-- **What passes a gate passes a relaxed one.** For two configurations of which the second asks for
no more than the first, the files and the report that pass the gate of the first pass that of the
second: in a run, and in scans of any two schedules. -/
theorem passed_of_relaxes {c c' : Config} (h : c'.Relaxes c) {g g' : Gate}
    (hg : ofConfig c = .ok g) (hg' : ofConfig c' = .ok g') (t : FileTree) (files : List Path)
    (report? : Option Path) :
    (∀ cancelled, (g.run t files report? cancelled).passed = true →
      (g'.run t files report? cancelled).passed = true) ∧
    ∀ s s', ScanSteps g t (.start files) s → s.Finished → s.cancelled = false →
      ScanSteps g' t (.start files) s' → s'.Finished → s'.cancelled = false →
      (g.resultOf t s.collector.finish report? s.cancelled).passed = true →
      (g'.resultOf t s'.collector.finish report? s'.cancelled).passed = true := by
  have hrelaxes := relaxes_ofConfig h hg hg'
  refine ⟨fun cancelled => ?_, fun s s' hsteps hfin hc hsteps' hfin' hc' => ?_⟩
  · cases cancelled with
    | false =>
        rw [run_eq_resultOf, run_eq_resultOf]
        exact passed_resultOf_finish_of_relaxes hrelaxes (.refl _) (.refl _) report?
    | true =>
        -- no file is looked at, so neither gate has violations
        have hnone : (g'.scan t files true).violations = [] := List.mergeSort_nil
        refine passed_resultOf_of_relaxes hrelaxes ?_ t report? true
        rw [hnone]
        intro w hw
        cases hw
  · obtain ⟨os, hos, hcollector⟩ := exists_collected_of_finished hsteps hfin hc
    obtain ⟨os', hos', hcollector'⟩ := exists_collected_of_finished hsteps' hfin' hc'
    rw [hcollector, hcollector', hc, hc']
    exact passed_resultOf_finish_of_relaxes hrelaxes hos hos' report?

/-- A strict configuration that bans no call and requires half of the lines to be covered. -/
def strictConfig : Config where
  structural := { methodLimit := 3, strict := true }
  docs := { window := 1, cap := 4 }
  patterns := { bannedCalls := [] }
  coverage := { required := true, thresholds := ⟨50, 0, 0, 0⟩ }

/-- A configuration that asks for less, and minds spaces instead of tabs. -/
def mildConfig : Config where
  structural := { methodLimit := 9 }
  docs := { window := 2, cap := 9, visibilities := [] }
  patterns := { bannedCalls := [], disallowedIndent := .space, blankLimit := 7 }
  coverage := { thresholds := ⟨40, 0, 0, 0⟩ }

/-- A working directory with a documented class, one blank line above it, and a report. -/
def reportedTree : FileTree where
  workingDirectory := ⟨"/w"⟩
  nodes := [(["w".toList], .directory),
    (["w".toList, "A.java".toList],
      .file (Text.Utf8.encode "/** A. */\n\npublic class A \x7b\n\x7d\n".toList)),
    (["w".toList, "r.xml".toList],
      .file (Text.Utf8.encode
        "<report><counter type='LINE' missed='1' covered='1'/></report>".toList))]

/-- The mild configuration relaxes the strict one. -/
lemma mildConfig_relaxes : mildConfig.Relaxes strictConfig where
  methodLimit := by decide
  lineLimit := by decide
  strict := by decide
  window := by decide
  cap := by decide
  visibilities := by decide
  bannedCalls := by decide
  thresholds m := by cases m <;> decide
  required := by decide
  unitScope := by decide

/-- The class with its report passes the strict gate, and so the mild one. -/
theorem passed_of_relaxes_mildConfig :
    mildConfig.Relaxes strictConfig ∧ ∃ g g', ofConfig strictConfig = .ok g ∧
      ofConfig mildConfig = .ok g' ∧
      (g.run reportedTree [⟨"A.java"⟩] (some ⟨"r.xml"⟩) false).passed = true ∧
      (g'.run reportedTree [⟨"A.java"⟩] (some ⟨"r.xml"⟩) false).passed = true := by
  have hrun : ((ofConfig strictConfig).toOption.map fun g =>
      (g.run reportedTree [⟨"A.java"⟩] (some ⟨"r.xml"⟩) false).passed) = some true := by
    decide +kernel
  have hok (c : Config) (hc : c.patterns.bannedCalls = []) : ∃ g, ofConfig c = .ok g := by
    rw [ofConfig, Analysis.ofConfig, hc]
    exact ⟨_, rfl⟩
  obtain ⟨g, hg⟩ := hok strictConfig rfl
  obtain ⟨g', hg'⟩ := hok mildConfig rfl
  rw [hg] at hrun
  have hpassed : (g.run reportedTree [⟨"A.java"⟩] (some ⟨"r.xml"⟩) false).passed = true :=
    Option.some.inj hrun
  exact ⟨mildConfig_relaxes, g, g', hg, hg', hpassed,
    (passed_of_relaxes mildConfig_relaxes hg hg' reportedTree _ _).1 false hpassed⟩

end Gate

end QualityGate
