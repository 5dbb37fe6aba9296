import QualityGate.Config.Validation
import QualityGate.Gate
import Mathlib.Data.List.TakeWhile
import Mathlib.Tactic

/-!
What the validation of a configuration is good for. Validation reports the first of the faults of a
configuration, and a configuration without faults is one that the gate and the file filter can be
made from, with every threshold taken as it is. This is so in every notation for globs and
expressions.

* `Config.faults`: everything that is wrong with a configuration, in the order of the checks.
* `Config.validate_eq`: validation reports the first fault.
* `Config.IsSound`, `Config.faults_eq_nil_iff`: to have no fault, setting by setting.
* `FileFilter.exists_ofSettings_iff`, `Gate.exists_ofConfig_iff`: what a filter and a gate need.
* `Config.validate_accepts_iff_isSound`: **validation accepts exactly what can be run**.
-/

namespace QualityGate

variable {n : PatternNotation}

namespace Config

/-! ### Faults -/

/-- Everything that is wrong with a configuration, in the order of the checks: thresholds, limits,
extensions, globs and expressions. -/
def faults (c : Config) (n : PatternNotation := .standard) : List GateError :=
  (Metric.all.filterMap fun m => thresholdError? m (c.coverage.thresholds.get m)).map .config ++
    ((c.limits.filter fun l => l.2 == 0).map fun l => .config (.zeroLimit l.1)) ++
    (if c.scanner.extensions.isEmpty then [.config .noExtensions]
      else (c.scanner.extensions.filterMap extensionError?).map .config) ++
    (c.scanner.exclude.filter fun x => (n.glob? x.toList).isNone).map .invalidPattern ++
    (c.patterns.bannedCalls.filter fun x => (n.expression? x.toList).isNone).map .invalidRegex

/-- The numbers and extensions are checked first. -/
lemma valueError?_eq (c : Config) :
    c.valueError? =
      (((Metric.all.filterMap fun m => thresholdError? m (c.coverage.thresholds.get m)).head?).or
        (((c.limits.filter fun l => l.2 == 0).head?).map fun l => .zeroLimit l.1)).or
        (if c.scanner.extensions.isEmpty then some .noExtensions
          else (c.scanner.extensions.filterMap extensionError?).head?) := by
  rw [valueError?, thresholdsError?, limitsError?, extensionsError?, List.head?_filterMap,
    List.head?_filter, List.head?_filterMap]

/-- **Validation reports the first fault**, if there is one. -/
theorem validate_eq (c : Config) (n : PatternNotation) :
    c.validate n = match (c.faults n).head? with
      | none => .ok ()
      | some e => .error e := by
  have hglobs : compileGlobs c.scanner.exclude n = _ := Text.readEach_eq _ _
  have hcalls : compileAll c.patterns.bannedCalls n = _ := Text.readEach_eq _ _
  rw [validate, valueError?_eq, hglobs, hcalls, ← List.head?_filter, ← List.head?_filter, faults]
  simp only [List.head?_append, List.head?_map]
  cases (Metric.all.filterMap fun m => thresholdError? m (c.coverage.thresholds.get m)).head? with
  | some e => rfl
  | none =>
  cases (c.limits.filter fun l => l.2 == 0).head? with
  | some l => rfl
  | none =>
  simp only [Option.map_none, Option.none_or]
  split_ifs
  · rfl
  rw [List.head?_map]
  cases (c.scanner.extensions.filterMap extensionError?).head? with
  | some e => rfl
  | none =>
  simp only [Option.map_none, Option.none_or]
  cases (c.scanner.exclude.filter fun x => (n.glob? x.toList).isNone).head? with
  | some x => rfl
  | none =>
  simp only [Option.map_none, Option.none_or]
  cases (c.patterns.bannedCalls.filter fun x => (n.expression? x.toList).isNone).head? <;> rfl

/-! ### Sound settings -/

/-- A configuration that can be run: percentages and limits in range, extensions that name
something, and globs and expressions that can be read. -/
structure IsSound (c : Config) (n : PatternNotation := .standard) : Prop where
  percentage (m : Metric) : 0 ≤ c.coverage.thresholds.get m ∧ c.coverage.thresholds.get m ≤ 100
  methodLimit_pos : 0 < c.structural.methodLimit
  lineLimit_pos : 0 < c.structural.lineLimit
  cap_pos : 0 < c.docs.cap
  extensions_ne_nil : c.scanner.extensions ≠ []
  exists_ne_dot : ∀ e ∈ c.scanner.extensions, ∃ a ∈ e.toList, a ≠ '.'
  isSome_glob : ∀ x ∈ c.scanner.exclude, (n.glob? x.toList).isSome = true
  isSome_expression : ∀ x ∈ c.patterns.bannedCalls, (n.expression? x.toList).isSome = true

/-- A threshold has no fault exactly if it is a percentage. -/
lemma thresholdError?_eq_none_iff {m : Metric} {value : Int} :
    thresholdError? m value = none ↔ 0 ≤ value ∧ value ≤ 100 := by
  unfold thresholdError?
  split_ifs with hneg hbig
  · simp only [false_iff]
    omega
  · simp only [false_iff]
    omega
  · simp only [true_iff]
    omega

/-- A text consists of dots exactly if nothing is left without those at its front. -/
lemma withoutDots_eq_nil_iff {s : List Char} : withoutDots s = [] ↔ ∀ a ∈ s, a = '.' := by
  rw [withoutDots, List.dropWhile_eq_nil_iff]
  simp only [beq_iff_eq]

/-- An extension has no fault exactly if it is more than dots. -/
lemma extensionError?_eq_none_iff {e : String} :
    extensionError? e = none ↔ ∃ a ∈ e.toList, a ≠ '.' := by
  unfold extensionError?
  split_ifs with h
  · rw [List.isEmpty_iff, withoutDots_eq_nil_iff] at h
    simp only [false_iff, not_exists, not_and, not_not]
    exact h
  · rw [List.isEmpty_iff, withoutDots_eq_nil_iff] at h
    push Not at h
    simp only [true_iff]
    exact h

/-- No limit is zero exactly if each of them is positive. -/
lemma limits_filter_eq_nil_iff (c : Config) :
    c.limits.filter (fun l => l.2 == 0) = [] ↔
      0 < c.structural.methodLimit ∧ 0 < c.structural.lineLimit ∧ 0 < c.docs.cap := by
  simp [limits, Nat.pos_iff_ne_zero]

/-- The texts that stand for nothing are none exactly if each text stands for something. -/
lemma filter_isNone_eq_nil_iff {α : Type} {read? : List Char → Option α} {ts : List String} :
    ts.filter (fun t => (read? t.toList).isNone) = [] ↔
      ∀ t ∈ ts, (read? t.toList).isSome = true := by
  simp only [List.filter_eq_nil_iff, Bool.not_eq_true, Option.isNone_eq_false_iff]

/-- A configuration has no fault exactly if it is sound, setting by setting. -/
theorem faults_eq_nil_iff (c : Config) (n : PatternNotation) : c.faults n = [] ↔ c.IsSound n := by
  have hthresholds :
      (Metric.all.filterMap fun m => thresholdError? m (c.coverage.thresholds.get m)) = [] ↔
        ∀ m, 0 ≤ c.coverage.thresholds.get m ∧ c.coverage.thresholds.get m ≤ 100 := by
    simp only [List.filterMap_eq_nil_iff, thresholdError?_eq_none_iff]
    exact ⟨fun h m => h m (by cases m <;> decide), fun h m _ => h m⟩
  have hextensions : (if c.scanner.extensions.isEmpty then [GateError.config .noExtensions]
      else (c.scanner.extensions.filterMap extensionError?).map .config) = [] ↔
        c.scanner.extensions ≠ [] ∧ ∀ e ∈ c.scanner.extensions, ∃ a ∈ e.toList, a ≠ '.' := by
    split_ifs with h
    · simp [List.isEmpty_iff.1 h]
    · rw [List.isEmpty_iff] at h
      simp only [List.map_eq_nil_iff, List.filterMap_eq_nil_iff, extensionError?_eq_none_iff, h,
        ne_eq, not_false_eq_true, true_and]
  simp only [faults, List.append_eq_nil_iff, List.map_eq_nil_iff, hthresholds, hextensions,
    limits_filter_eq_nil_iff, filter_isNone_eq_nil_iff]
  constructor
  · rintro ⟨⟨⟨⟨hm, hmethod, hline, hcap⟩, hne, hdots⟩, hglobs⟩, hcalls⟩
    exact ⟨hm, hmethod, hline, hcap, hne, hdots, hglobs, hcalls⟩
  · intro h
    exact ⟨⟨⟨⟨h.percentage, h.methodLimit_pos, h.lineLimit_pos, h.cap_pos⟩, h.extensions_ne_nil,
      h.exists_ne_dot⟩, h.isSome_glob⟩, h.isSome_expression⟩

/-- A configuration passes validation exactly if it has no fault. -/
lemma validate_eq_ok_iff (c : Config) (n : PatternNotation) :
    c.validate n = .ok () ↔ c.faults n = [] := by
  rw [validate_eq]
  cases c.faults n with
  | nil => simp
  | cons e es => simp

/-- What validation reports is the first fault. -/
lemma validate_eq_error_iff (c : Config) (n : PatternNotation) (e : GateError) :
    c.validate n = .error e ↔ (c.faults n).head? = some e := by
  rw [validate_eq]
  cases (c.faults n).head? <;> simp

end Config

/-! ### What a sound configuration gives -/

namespace FileFilter

/-- A filter is made exactly if all exclude globs can be read, where those that can be read can be
put together. -/
theorem exists_ofSettings_iff (hn : n.IsCumulative) {s : ScannerSettings} :
    (∃ f, ofSettings s n = .ok f) ↔ ∀ x ∈ s.exclude, (n.glob? x.toList).isSome = true := by
  have hread : (∃ gs, compileGlobs s.exclude n = .ok gs) ↔ _ := Text.exists_readEach_iff
  rw [← hread, ofSettings, ofTexts]
  cases hglobs : compileGlobs s.exclude n with
  | error x => simp
  | ok globs =>
      have hjoins : n.joins globs = true := hn globs fun g hg => by
        obtain ⟨x, -, hx⟩ := (Text.mem_readEach hglobs).1 hg
        exact ⟨x.toList, hx⟩
      simp [hjoins]

/-- The extensions of a filter are those of its settings, without dots and in lower case. -/
lemma extensions_of_ofSettings {s : ScannerSettings} {f : FileFilter}
    (h : ofSettings s n = .ok f) :
    f.extensions = s.extensions.map fun e => lowered (withoutDots e.toList) := by
  unfold ofSettings ofTexts at h
  cases hglobs : compileGlobs s.exclude n with
  | error x => rw [hglobs] at h; cases h
  | ok globs =>
      simp only [hglobs] at h
      split_ifs at h
      cases h
      rfl

end FileFilter

/-- A gate is made exactly if all expressions for banned calls can be read. -/
theorem Gate.exists_ofConfig_iff {c : Config} :
    (∃ g, ofConfig c n = .ok g) ↔
      ∀ x ∈ c.patterns.bannedCalls, (n.expression? x.toList).isSome = true := by
  have hread : (∃ rs, compileAll c.patterns.bannedCalls n = .ok rs) ↔ _ := Text.exists_readEach_iff
  rw [← hread, ofConfig, Analysis.ofConfig]
  cases compileAll c.patterns.bannedCalls n <;> simp [Except.map]

namespace Config

variable {c : Config}

/-- A filter made from a sound configuration takes no file without an extension, or with an empty
one. -/
lemma IsSound.not_accepts (h : c.IsSound n) {f : FileFilter}
    (hf : FileFilter.ofSettings c.scanner n = .ok f) {p : Path}
    (hp : p.extension? = none ∨ p.extension? = some []) : f.accepts p = false := by
  have hextensions := FileFilter.extensions_of_ofSettings hf
  have hne : f.extensions ≠ [] := by
    rw [hextensions, ne_eq, List.map_eq_nil_iff]
    exact h.extensions_ne_nil
  rcases hp with hp | hp
  · exact FileFilter.not_accepts_of_no_extension hne hp
  · -- no extension of the filter is empty, as none is made of dots
    have hnotMem : [] ∉ f.extensions := by
      rw [hextensions, List.mem_map]
      rintro ⟨x, hx, hnil⟩
      obtain ⟨a, ha, hdot⟩ := h.exists_ne_dot x hx
      rw [lowered, List.map_eq_nil_iff, withoutDots_eq_nil_iff] at hnil
      exact hdot (hnil a ha)
    simp [FileFilter.accepts, FileFilter.hasExtension, hp, lowered, hnotMem, hne]

/-- **Validation accepts exactly what can be run.** Whatever texts are globs and expressions, it
accepts the sound configurations and reports the first fault of any other one. From a configuration
that it accepts, the filter for files and the gate can be made, if globs that can be read one by one
can be put together; every threshold is asked for as it is set, and the filter takes no file without
an extension. -/
theorem validate_accepts_iff_isSound (n : PatternNotation) (c : Config) :
    (c.validate n = .ok () ↔ c.IsSound n) ∧
      (∀ e, c.validate n = .error e ↔ (c.faults n).head? = some e) ∧
      (n.IsCumulative → c.validate n = .ok () → ∃ f g,
        FileFilter.ofSettings c.scanner n = .ok f ∧ Gate.ofConfig c n = .ok g ∧
        g.thresholds = c.coverage.thresholds.toPolicy ∧
        (∀ m, (c.coverage.thresholds.toPolicy.threshold m : Int) = c.coverage.thresholds.get m) ∧
        ∀ p : Path, p.extension? = none ∨ p.extension? = some [] → f.accepts p = false) := by
  have hsound : c.validate n = .ok () ↔ c.IsSound n := by
    rw [validate_eq_ok_iff, faults_eq_nil_iff]
  refine ⟨hsound, validate_eq_error_iff c n, fun hn hok => ?_⟩
  have h := hsound.1 hok
  obtain ⟨f, hf⟩ := (FileFilter.exists_ofSettings_iff hn).2 h.isSome_glob
  obtain ⟨g, hg⟩ := Gate.exists_ofConfig_iff.2 h.isSome_expression
  obtain ⟨-, -, hthresholds, -⟩ := Gate.settings_of_ofConfig hg
  exact ⟨f, g, hf, hg, hthresholds,
    fun m => Thresholds.toPolicy_threshold (h.percentage m), fun p hp => h.not_accepts hf hp⟩

/-- A configuration in which nothing that validation looks at is empty. -/
def plainConfig : Config where
  scanner := { extensions := ["java", ".kt"], exclude := ["**/gen/**"] }
  patterns := { bannedCalls := ["print\\w*\\("] }
  coverage := { thresholds := { line := 100, branch := 0 } }

/-- A build file without an extension is not looked at by the filter of a sound configuration. -/
theorem validate_accepts_iff_isSound_plainConfig :
    plainConfig.validate = .ok () ∧ plainConfig.IsSound ∧
      ∃ f g, FileFilter.ofSettings plainConfig.scanner = .ok f ∧
        Gate.ofConfig plainConfig = .ok g ∧ (g.thresholds.threshold .line : Int) = 100 ∧
        f.accepts ⟨"src/Makefile"⟩ = false := by
  have hok : plainConfig.validate = .ok () := by decide +kernel
  obtain ⟨hsound, -, hruns⟩ := validate_accepts_iff_isSound .standard plainConfig
  obtain ⟨f, g, hf, hg, hpolicy, hexact, hrejects⟩ :=
    hruns PatternNotation.isCumulative_standard hok
  refine ⟨hok, hsound.1 hok, f, g, hf, hg, ?_, hrejects _ (.inl (by decide +kernel))⟩
  rw [hpolicy]
  exact hexact .line

end Config

end QualityGate
