import QualityGate.Command.Check
import Mathlib.Tactic

/-!
The configuration that a check goes by, setting by setting. There are three layers: what was chosen
for the check, what the one file says that the configuration is taken from, and the defaults. The
file is found before it is read, and once it is found nothing but what it says counts: a file that
cannot be used ends the check.

* `Surroundings.chosenConfig?`: the one file, if there is any.
* `Setting`: a setting, by its place in a file and in a configuration.
* `holds_of_ofToml?`: a configuration has the values that are given in the file, and the defaults
  for all others.
* `GoesBy`, `EndsWith`: a check goes by a configuration of the three layers, or ends with an error.
* `check_layers`: **the effective configuration of a check**.
-/

namespace QualityGate

/-! ### The chosen file -/

namespace Surroundings

/-- The configuration file in the working directory, if it is there. -/
def localConfig? (s : Surroundings) : Option Path :=
  (some (s.files.workingDirectory.join ⟨localConfigName⟩)).filter s.files.isThere

/-- The configuration file of the user, if it is there. -/
def userConfig? (s : Surroundings) : Option Path :=
  (s.userDirectory?.map fun d => d.join ⟨userConfigName⟩).filter s.files.isThere

/-- The file that a configuration is taken from: none if none is wanted, or else the named one, or
else the one in the working directory, or else the one of the user. -/
def chosenConfig? (s : Surroundings) (noConfig : Bool) (named? : Option Path) : Option Path :=
  if noConfig then none else named?.or (s.localConfig?.or s.userConfig?)

/-- Of the places where a configuration is looked for, the first at which there is a file. -/
lemma find?_candidates (s : Surroundings) :
    s.configSources.candidates.find? s.configSources.isThere =
      s.localConfig?.or s.userConfig? := by
  have hlocal := Bool.eq_false_or_eq_true
    (s.files.isThere (s.files.workingDirectory.join ⟨localConfigName⟩))
  cases huser : s.userDirectory? with
  | none =>
      rcases hlocal with h | h <;>
        simp [ConfigSources.candidates, configSources, localConfig?, userConfig?, huser, h,
          Option.filter]
  | some d =>
      rcases hlocal with h | h <;>
        simp [ConfigSources.candidates, configSources, localConfig?, userConfig?, huser, h,
          Option.filter, List.find?_singleton]

/-- The configuration is that of the chosen file, or the defaults if there is none. -/
lemma loadConfig_eq (s : Surroundings) (noConfig : Bool) (named? : Option Path) :
    s.loadConfig noConfig named? =
      match s.chosenConfig? noConfig named? with
      | some p => s.configSources.loadFrom p
      | none => .ok ⟨{}, none⟩ := by
  rw [loadConfig.eq_def, chosenConfig?]
  split_ifs
  · rfl
  · cases named? with
    | some p => rfl
    | none =>
        rw [Option.none_or, ← find?_candidates]
        rfl

end Surroundings

/-! ### Settings in a file -/

namespace TomlValue

variable {α β : Type}

/-- The value that a path through sections leads to. Each step of a path is the place of a setting
in its section and its key. -/
def at? : List (Nat × String) → TomlValue → Option TomlValue
  | [], v => some v
  | (place, key) :: path, v =>
    (v.section?.bind fun s => s.value? place key).bind (at? path)

/-- The setting that a path leads to has a value: what is given there, or the default if nothing
is. -/
def Settles (v : TomlValue) (path : List (Nat × String)) (read : TomlValue → Option α)
    (default value : α) : Prop :=
  (v.at? path = none ∧ value = default) ∨ ∃ w, v.at? path = some w ∧ read w = some value

/-- A setting of a section has the value with which the section is read. -/
lemma settles_of_setting? {v : TomlValue} {s : Section} (hs : v.section? = some s) {place : ℕ}
    {key : String} {read : TomlValue → Option α} {default value : α}
    (h : s.setting? place key read default = some value) :
    v.Settles [(place, key)] read default value := by
  have hat : v.at? [(place, key)] = s.value? place key := by
    simp only [at?, hs, Option.bind_some]
    cases s.value? place key <;> rfl
  cases hv : s.value? place key with
  | none =>
      rw [setting?_of_missing hv, Option.some.injEq] at h
      exact .inl ⟨hat.trans hv, h.symm⟩
  | some w =>
      simp only [Section.setting?, hv] at h
      exact .inr ⟨w, hat.trans hv, h⟩

/-- What holds of a setting in its section holds of it in the value that the section is in. -/
lemma Settles.within {v : TomlValue} {step : ℕ × String} {path : List (ℕ × String)}
    {readSection : TomlValue → Option β} {read : TomlValue → Option α} {defaults section' : β}
    (h : v.Settles [step] readSection defaults section') (f : β → α)
    (hin : ∀ w, readSection w = some section' → w.Settles path read (f defaults) (f section')) :
    v.Settles (step :: path) read (f defaults) (f section') := by
  have hat : v.at? (step :: path) = (v.at? [step]).bind (at? path) := by
    obtain ⟨place, key⟩ := step
    simp only [at?]
    cases v.section?.bind fun s => s.value? place key <;> rfl
  rcases h with ⟨hnone, rfl⟩ | ⟨w, hw, hread⟩
  · exact .inl ⟨by rw [hat, hnone]; rfl, rfl⟩
  · have hw' : v.at? (step :: path) = w.at? path := by rw [hat, hw, Option.bind_some]
    rcases hin w hread with ⟨hnone, hvalue⟩ | ⟨u, hu, hvalue⟩
    · exact .inl ⟨hw'.trans hnone, hvalue⟩
    · exact .inr ⟨u, hw'.trans hu, hvalue⟩

end TomlValue

open TomlValue

/-- A setting: the path that leads to it in a file, how its value is read, and what it is in a
configuration. -/
structure Setting (α : Type) where
  path : List (Nat × String)
  read : TomlValue → Option α
  ofConfig : Config → α

namespace Setting

variable {α : Type}

/-- The value in a file, or else the default. -/
def fromFile (x : Setting α) (file? : Option TomlValue) : α :=
  (file?.bind fun v => (v.at? x.path).bind x.read).getD (x.ofConfig {})

/-- A configuration has the value of the setting that is given in a file, or the default. -/
def Holds (x : Setting α) (v : TomlValue) (c : Config) : Prop :=
  v.Settles x.path x.read (x.ofConfig {}) (x.ofConfig c)

lemma Holds.ofConfig_eq {x : Setting α} {v : TomlValue} {c : Config} (h : x.Holds v c) :
    x.ofConfig c = x.fromFile (some v) := by
  rcases h with ⟨hnone, hvalue⟩ | ⟨w, hw, hvalue⟩
  · rw [fromFile, Option.bind_some, hnone, hvalue]
    rfl
  · rw [fromFile, Option.bind_some, hw, Option.bind_some, hvalue]
    rfl

/-! The settings of a configuration. -/

def version : Setting (Option String) :=
  ⟨[(0, "version")], fun v => v.string?.map some, (·.version)⟩

def extensions : Setting (List String) :=
  ⟨[(1, "scanner"), (0, "extensions")], list? string?, (·.scanner.extensions)⟩

def exclude : Setting (List String) :=
  ⟨[(1, "scanner"), (1, "exclude")], list? string?, (·.scanner.exclude)⟩

def useIgnoreFiles : Setting Bool :=
  ⟨[(1, "scanner"), (2, "gitignore")], boolean?, (·.scanner.useIgnoreFiles)⟩

def methodLimit : Setting Nat :=
  ⟨[(2, "structure"), (0, "max_method_lines")], count?, (·.structural.methodLimit)⟩

def lineLimit : Setting Nat :=
  ⟨[(2, "structure"), (1, "max_line_length")], count?, (·.structural.lineLimit)⟩

def strict : Setting Bool := ⟨[(2, "structure"), (2, "strict")], boolean?, (·.structural.strict)⟩

def docWindow : Setting Nat := ⟨[(3, "docs"), (0, "window")], count?, (·.docs.window)⟩

def docCap : Setting Nat := ⟨[(3, "docs"), (1, "scan_cap")], count?, (·.docs.cap)⟩

def visibilities : Setting (List Visibility) :=
  ⟨[(3, "docs"), (2, "visibilities")], list? (choice? Visibility.ofName?), (·.docs.visibilities)⟩

def bannedCalls : Setting (List String) :=
  ⟨[(4, "patterns"), (0, "banned_calls")], list? string?, (·.patterns.bannedCalls)⟩

def loggingFacility : Setting String :=
  ⟨[(4, "patterns"), (1, "logging_facility")], string?, (·.patterns.loggingFacility)⟩

def disallowedIndent : Setting IndentChar :=
  ⟨[(4, "patterns"), (2, "disallowed_indent")], choice? IndentChar.ofName?,
    (·.patterns.disallowedIndent)⟩

def blankLimit : Setting Nat :=
  ⟨[(4, "patterns"), (3, "max_consecutive_blank_lines")], count?, (·.patterns.blankLimit)⟩

def report : Setting (Option Path) :=
  ⟨[(5, "coverage"), (0, "report")], fun v => v.string?.map fun p => some ⟨p⟩, (·.coverage.report)⟩

def unitScope : Setting UnitScope :=
  ⟨[(5, "coverage"), (1, "unit_scope")], choice? UnitScope.ofElement?, (·.coverage.unitScope)⟩

def requireCoverage : Setting Bool :=
  ⟨[(5, "coverage"), (2, "required")], boolean?, (·.coverage.required)⟩

/-- Where the threshold of a metric stands among the thresholds. -/
def thresholdStep : Metric → Nat × String
  | .line => (0, "line")
  | .branch => (1, "branch")
  | .method => (2, "method")
  | .type => (3, "class")

def threshold (m : Metric) : Setting Int :=
  ⟨[(5, "coverage"), (3, "thresholds"), thresholdStep m], integer?, (·.coverage.thresholds.get m)⟩

end Setting

/-! ### Reading a configuration -/

/-- Every setting has the value that a file gives it, or its default. -/
structure Config.IsFrom (v : TomlValue) (c : Config) : Prop where
  version : Setting.version.Holds v c
  extensions : Setting.extensions.Holds v c
  exclude : Setting.exclude.Holds v c
  useIgnoreFiles : Setting.useIgnoreFiles.Holds v c
  methodLimit : Setting.methodLimit.Holds v c
  lineLimit : Setting.lineLimit.Holds v c
  strict : Setting.strict.Holds v c
  docWindow : Setting.docWindow.Holds v c
  docCap : Setting.docCap.Holds v c
  visibilities : Setting.visibilities.Holds v c
  bannedCalls : Setting.bannedCalls.Holds v c
  loggingFacility : Setting.loggingFacility.Holds v c
  disallowedIndent : Setting.disallowedIndent.Holds v c
  blankLimit : Setting.blankLimit.Holds v c
  report : Setting.report.Holds v c
  unitScope : Setting.unitScope.Holds v c
  requireCoverage : Setting.requireCoverage.Holds v c
  threshold (m : Metric) : (Setting.threshold m).Holds v c

section Reading

variable {v : TomlValue}

lemma ScannerSettings.settles_of_ofToml? {x : ScannerSettings} (h : ofToml? v = some x) :
    v.Settles [(0, "extensions")] (list? string?) ({} : ScannerSettings).extensions x.extensions ∧
      v.Settles [(1, "exclude")] (list? string?) ({} : ScannerSettings).exclude x.exclude ∧
      v.Settles [(2, "gitignore")] boolean? ({} : ScannerSettings).useIgnoreFiles
        x.useIgnoreFiles := by
  simp only [ofToml?, Option.bind_eq_bind, Option.pure_def, Option.bind_eq_some_iff,
    Option.some.injEq] at h
  obtain ⟨s, hs, extensions, hextensions, exclude, hexclude, ignore, hignore, rfl⟩ := h
  exact ⟨settles_of_setting? hs hextensions, settles_of_setting? hs hexclude,
    settles_of_setting? hs hignore⟩

lemma StructureSettings.settles_of_ofToml? {x : StructureSettings} (h : ofToml? v = some x) :
    v.Settles [(0, "max_method_lines")] count? ({} : StructureSettings).methodLimit
        x.methodLimit ∧
      v.Settles [(1, "max_line_length")] count? ({} : StructureSettings).lineLimit x.lineLimit ∧
      v.Settles [(2, "strict")] boolean? ({} : StructureSettings).strict x.strict := by
  simp only [ofToml?, Option.bind_eq_bind, Option.pure_def, Option.bind_eq_some_iff,
    Option.some.injEq] at h
  obtain ⟨s, hs, method, hmethod, line, hline, strict, hstrict, rfl⟩ := h
  exact ⟨settles_of_setting? hs hmethod, settles_of_setting? hs hline,
    settles_of_setting? hs hstrict⟩

lemma DocumentationSettings.settles_of_ofToml? {x : DocumentationSettings}
    (h : ofToml? v = some x) :
    v.Settles [(0, "window")] count? ({} : DocumentationSettings).window x.window ∧
      v.Settles [(1, "scan_cap")] count? ({} : DocumentationSettings).cap x.cap ∧
      v.Settles [(2, "visibilities")] (list? (choice? Visibility.ofName?))
        ({} : DocumentationSettings).visibilities x.visibilities := by
  simp only [ofToml?, Option.bind_eq_bind, Option.pure_def, Option.bind_eq_some_iff,
    Option.some.injEq] at h
  obtain ⟨s, hs, window, hwindow, cap, hcap, visibilities, hvisibilities, rfl⟩ := h
  exact ⟨settles_of_setting? hs hwindow, settles_of_setting? hs hcap,
    settles_of_setting? hs hvisibilities⟩

lemma PatternSettings.settles_of_ofToml? {x : PatternSettings} (h : ofToml? v = some x) :
    v.Settles [(0, "banned_calls")] (list? string?) ({} : PatternSettings).bannedCalls
        x.bannedCalls ∧
      v.Settles [(1, "logging_facility")] string? ({} : PatternSettings).loggingFacility
        x.loggingFacility ∧
      v.Settles [(2, "disallowed_indent")] (choice? IndentChar.ofName?)
        ({} : PatternSettings).disallowedIndent x.disallowedIndent ∧
      v.Settles [(3, "max_consecutive_blank_lines")] count? ({} : PatternSettings).blankLimit
        x.blankLimit := by
  simp only [ofToml?, Option.bind_eq_bind, Option.pure_def, Option.bind_eq_some_iff,
    Option.some.injEq] at h
  obtain ⟨s, hs, banned, hbanned, facility, hfacility, indent, hindent, blank, hblank, rfl⟩ := h
  exact ⟨settles_of_setting? hs hbanned, settles_of_setting? hs hfacility,
    settles_of_setting? hs hindent, settles_of_setting? hs hblank⟩

lemma Thresholds.settles_of_ofToml? {x : Thresholds} (h : ofToml? v = some x) (m : Metric) :
    v.Settles [Setting.thresholdStep m] integer? (({} : Thresholds).get m) (x.get m) := by
  simp only [ofToml?, Option.bind_eq_bind, Option.pure_def, Option.bind_eq_some_iff,
    Option.some.injEq] at h
  obtain ⟨s, hs, line, hline, branch, hbranch, method, hmethod, type, htype, rfl⟩ := h
  cases m with
  | line => exact settles_of_setting? hs hline
  | branch => exact settles_of_setting? hs hbranch
  | method => exact settles_of_setting? hs hmethod
  | type => exact settles_of_setting? hs htype

lemma CoverageSettings.settles_of_ofToml? {x : CoverageSettings} (h : ofToml? v = some x) :
    v.Settles [(0, "report")] (fun v => v.string?.map fun p => some ⟨p⟩)
        ({} : CoverageSettings).report x.report ∧
      v.Settles [(1, "unit_scope")] (choice? UnitScope.ofElement?)
        ({} : CoverageSettings).unitScope x.unitScope ∧
      v.Settles [(2, "required")] boolean? ({} : CoverageSettings).required x.required ∧
      ∀ m, v.Settles [(3, "thresholds"), Setting.thresholdStep m] integer?
        (({} : CoverageSettings).thresholds.get m) (x.thresholds.get m) := by
  simp only [ofToml?, Option.bind_eq_bind, Option.pure_def, Option.bind_eq_some_iff,
    Option.some.injEq] at h
  obtain ⟨s, hs, report, hreport, scope, hscope, required, hrequired, thresholds, hthresholds,
    rfl⟩ := h
  exact ⟨settles_of_setting? hs hreport, settles_of_setting? hs hscope,
    settles_of_setting? hs hrequired, fun m =>
      (settles_of_setting? hs hthresholds).within (·.get m) fun w hw =>
        Thresholds.settles_of_ofToml? hw m⟩

/-- **A configuration that is read** has the values that are given, and the defaults for all
settings that are not, also for those of sections that are not given at all. -/
theorem holds_of_ofToml? {c : Config} (h : Config.ofToml? v = some c) : Config.IsFrom v c := by
  simp only [Config.ofToml?, Option.bind_eq_bind, Option.pure_def, Option.bind_eq_some_iff,
    Option.some.injEq] at h
  obtain ⟨s, hs, version, hversion, scanner, hscanner, structural, hstructural, docs, hdocs,
    patterns, hpatterns, coverage, hcoverage, rfl⟩ := h
  have hscanner := settles_of_setting? hs hscanner
  have hstructural := settles_of_setting? hs hstructural
  have hdocs := settles_of_setting? hs hdocs
  have hpatterns := settles_of_setting? hs hpatterns
  have hcoverage := settles_of_setting? hs hcoverage
  exact
    { version := settles_of_setting? hs hversion
      extensions := hscanner.within (·.extensions) fun _ hw =>
        (ScannerSettings.settles_of_ofToml? hw).1
      exclude := hscanner.within (·.exclude) fun _ hw =>
        (ScannerSettings.settles_of_ofToml? hw).2.1
      useIgnoreFiles := hscanner.within (·.useIgnoreFiles) fun _ hw =>
        (ScannerSettings.settles_of_ofToml? hw).2.2
      methodLimit := hstructural.within (·.methodLimit) fun _ hw =>
        (StructureSettings.settles_of_ofToml? hw).1
      lineLimit := hstructural.within (·.lineLimit) fun _ hw =>
        (StructureSettings.settles_of_ofToml? hw).2.1
      strict := hstructural.within (·.strict) fun _ hw =>
        (StructureSettings.settles_of_ofToml? hw).2.2
      docWindow := hdocs.within (·.window) fun _ hw =>
        (DocumentationSettings.settles_of_ofToml? hw).1
      docCap := hdocs.within (·.cap) fun _ hw =>
        (DocumentationSettings.settles_of_ofToml? hw).2.1
      visibilities := hdocs.within (·.visibilities) fun _ hw =>
        (DocumentationSettings.settles_of_ofToml? hw).2.2
      bannedCalls := hpatterns.within (·.bannedCalls) fun _ hw =>
        (PatternSettings.settles_of_ofToml? hw).1
      loggingFacility := hpatterns.within (·.loggingFacility) fun _ hw =>
        (PatternSettings.settles_of_ofToml? hw).2.1
      disallowedIndent := hpatterns.within (·.disallowedIndent) fun _ hw =>
        (PatternSettings.settles_of_ofToml? hw).2.2.1
      blankLimit := hpatterns.within (·.blankLimit) fun _ hw =>
        (PatternSettings.settles_of_ofToml? hw).2.2.2
      report := hcoverage.within (·.report) fun _ hw =>
        (CoverageSettings.settles_of_ofToml? hw).1
      unitScope := hcoverage.within (·.unitScope) fun _ hw =>
        (CoverageSettings.settles_of_ofToml? hw).2.1
      requireCoverage := hcoverage.within (·.required) fun _ hw =>
        (CoverageSettings.settles_of_ofToml? hw).2.2.1
      threshold := fun m => hcoverage.within (·.thresholds.get m) fun _ hw =>
        (CoverageSettings.settles_of_ofToml? hw).2.2.2 m }

end Reading

/-! ### The configuration of a check -/

/-- The configuration of a check, by what was chosen and by the file, if there is one. A value that
was chosen comes first, globs are added to those of the file, and a flag can only be turned one
way. -/
structure Config.Layered (file? : Option TomlValue) (a : CheckChoices) (c : Config) : Prop where
  version : c.version = Setting.version.fromFile file?
  extensions : c.scanner.extensions = a.extensions?.getD (Setting.extensions.fromFile file?)
  exclude : c.scanner.exclude = Setting.exclude.fromFile file? ++ a.exclude
  useIgnoreFiles :
    c.scanner.useIgnoreFiles = (Setting.useIgnoreFiles.fromFile file? && !a.noIgnoreFiles)
  methodLimit : c.structural.methodLimit = a.methodLimit?.getD (Setting.methodLimit.fromFile file?)
  lineLimit : c.structural.lineLimit = a.lineLimit?.getD (Setting.lineLimit.fromFile file?)
  strict : c.structural.strict = (Setting.strict.fromFile file? || a.strict)
  docWindow : c.docs.window = a.docWindow?.getD (Setting.docWindow.fromFile file?)
  docCap : c.docs.cap = Setting.docCap.fromFile file?
  visibilities : c.docs.visibilities = Setting.visibilities.fromFile file?
  bannedCalls : c.patterns.bannedCalls = Setting.bannedCalls.fromFile file?
  loggingFacility : c.patterns.loggingFacility = Setting.loggingFacility.fromFile file?
  disallowedIndent : c.patterns.disallowedIndent = Setting.disallowedIndent.fromFile file?
  blankLimit : c.patterns.blankLimit = Setting.blankLimit.fromFile file?
  report : c.coverage.report = a.report?.or (Setting.report.fromFile file?)
  unitScope : c.coverage.unitScope = Setting.unitScope.fromFile file?
  requireCoverage :
    c.coverage.required = (Setting.requireCoverage.fromFile file? || a.requireCoverage)
  threshold (m : Metric) :
    c.coverage.thresholds.get m = (a.threshold? m).getD ((Setting.threshold m).fromFile file?)

/-- Without a file, the choices are made over the defaults. -/
lemma layered_none (a : CheckChoices) : Config.Layered none a (Config.override {} a) := by
  constructor <;> intros <;> first | rfl | exact Thresholds.get_override _ _ _

/-- With a file, the choices are made over what the file says. -/
lemma Config.IsFrom.layered {v : TomlValue} {c : Config} (h : c.IsFrom v) (a : CheckChoices) :
    (c.override a).Layered (some v) a where
  version := h.version.ofConfig_eq
  extensions := congrArg a.extensions?.getD h.extensions.ofConfig_eq
  exclude := congrArg (· ++ a.exclude) h.exclude.ofConfig_eq
  useIgnoreFiles := congrArg (· && !a.noIgnoreFiles) h.useIgnoreFiles.ofConfig_eq
  methodLimit := congrArg a.methodLimit?.getD h.methodLimit.ofConfig_eq
  lineLimit := congrArg a.lineLimit?.getD h.lineLimit.ofConfig_eq
  strict := congrArg (· || a.strict) h.strict.ofConfig_eq
  docWindow := congrArg a.docWindow?.getD h.docWindow.ofConfig_eq
  docCap := h.docCap.ofConfig_eq
  visibilities := h.visibilities.ofConfig_eq
  bannedCalls := h.bannedCalls.ofConfig_eq
  loggingFacility := h.loggingFacility.ofConfig_eq
  disallowedIndent := h.disallowedIndent.ofConfig_eq
  blankLimit := h.blankLimit.ofConfig_eq
  report := congrArg a.report?.or h.report.ofConfig_eq
  unitScope := h.unitScope.ofConfig_eq
  requireCoverage := congrArg (· || a.requireCoverage) h.requireCoverage.ofConfig_eq
  threshold := fun m => by
    have hm : c.coverage.thresholds.get m = (Setting.threshold m).fromFile (some v) :=
      (h.threshold m).ofConfig_eq
    rw [← hm]
    exact Thresholds.get_override _ _ _

section Check

variable (s : Surroundings) (common : CommonChoices) (a : CheckChoices)

/-- The check goes by the configuration that the layers give. It is the one that is validated, and
the check ends with an error if it is not valid. -/
def GoesBy (file? : Option TomlValue) : Prop :=
  ∃ c : Config, c.Layered file? a ∧ checkConfig s common.noConfig a = .ok c ∧
    checkResult s common.noConfig a = gateResult s.files c a.paths ∧
    ∀ e, c.validate = .error e → runCheck s common a = .failed s.files e

/-- The check does nothing but report an error, with status two. -/
def EndsWith (e : GateError) : Prop :=
  checkConfig s common.noConfig a = .error e ∧ runCheck s common a = .failed s.files e ∧
    (runCheck s common a).exitCode = 2

variable {s common a}

lemma goesBy_of_load {file? : Option TomlValue} {loaded : LoadedConfig}
    (hload : s.loadConfig common.noConfig a.config? = .ok loaded)
    (hlayers : (loaded.config.override a).Layered file? a) : GoesBy s common a file? := by
  have hconfig : checkConfig s common.noConfig a = .ok (loaded.config.override a) := by
    rw [checkConfig, hload]
    rfl
  have hresult : checkResult s common.noConfig a =
      gateResult s.files (loaded.config.override a) a.paths := by
    rw [checkResult, hconfig]
  refine ⟨_, hlayers, hconfig, hresult, fun e he => ?_⟩
  have herror : checkResult s common.noConfig a = .error e := by
    rw [hresult, gateResult, he]
  rw [runCheck, herror]

lemma endsWith_of_load {e : GateError} (hload : s.loadConfig common.noConfig a.config? = .error e) :
    EndsWith s common a e := by
  have hconfig : checkConfig s common.noConfig a = .error e := by
    rw [checkConfig, hload]
    rfl
  have hrun : runCheck s common a = .failed s.files e := by
    rw [runCheck, checkResult, hconfig]
  exact ⟨hconfig, hrun, by rw [hrun]; rfl⟩

end Check

/-- A text is a TOML document in which the settings that are given can be read. -/
def IsConfigText (text : List Char) (v : TomlValue) : Prop :=
  TomlValue.ofText? text = some v ∧ (Config.ofToml? v).isSome

/-- A text that is no configuration is refused. -/
lemma ofText_of_not_isConfigText {text : List Char} (h : ¬∃ v, IsConfigText text v) :
    Config.ofText text = .error .toml := by
  have hnone : (TomlValue.ofText? text).bind Config.ofToml? = none := by
    cases htoml : TomlValue.ofText? text with
    | none => rfl
    | some v =>
        cases hconfig : Config.ofToml? v with
        | none => exact hconfig
        | some c => exact absurd ⟨v, htoml, by rw [hconfig]; rfl⟩ h
  simp only [Config.ofText, hnone]

/-- Of a configuration in a text, the version is checked. -/
lemma exists_ofText_of_isConfigText {text : List Char} {v : TomlValue} (h : IsConfigText text v) :
    ∃ c : Config, c.IsFrom v ∧ Config.ofText text = c.checkVersion := by
  obtain ⟨htoml, hsome⟩ := h
  obtain ⟨c, hc⟩ := Option.isSome_iff_exists.1 hsome
  refine ⟨c, holds_of_ofToml? hc, ?_⟩
  simp only [Config.ofText, htoml, Option.bind_some, hc]

/-- A file that can be read has the configuration that its text is. -/
lemma ConfigSources.loadFrom_of_read {s : ConfigSources} {p : Path} {text : List Char}
    (h : s.read p = .ok text) :
    s.loadFrom p = (Config.ofText text).map fun c => ⟨c, some p⟩ := by
  simp only [loadFrom, h]
  cases Config.ofText text <;> rfl

/-- **The effective configuration of a check.** Without a file, the choices are made over the
defaults. With a file, the check ends with an error, and with status two, if the file cannot be
read, is no configuration or is of an unsupported version; otherwise the choices are made over what
this file says, and over the defaults for what it does not say. -/
theorem check_layers (s : Surroundings) (common : CommonChoices) (a : CheckChoices) :
    (s.chosenConfig? common.noConfig a.config? = none → GoesBy s common a none) ∧
    ∀ p, s.chosenConfig? common.noConfig a.config? = some p →
      (∀ cause, s.files.readText p = .error cause → EndsWith s common a (.fileRead p cause)) ∧
      ∀ text, s.files.readText p = .ok text →
        ((¬∃ v, IsConfigText text v) → EndsWith s common a .toml) ∧
        ∀ v, IsConfigText text v →
          (∀ version, Setting.version.fromFile (some v) = some version → version ≠ configVersion →
            EndsWith s common a (.config (.unsupportedVersion version))) ∧
          ((∀ version, Setting.version.fromFile (some v) = some version →
              version = configVersion) →
            GoesBy s common a (some v)) := by
  have hload := s.loadConfig_eq common.noConfig a.config?
  refine ⟨fun hnone => ?_, fun p hp => ?_⟩
  · rw [hnone] at hload
    exact goesBy_of_load hload (layered_none a)
  rw [hp] at hload
  refine ⟨fun cause hread => ?_, fun text hread => ?_⟩
  · have hfile : s.configSources.loadFrom p = .error (.fileRead p cause) := by
      have hread' : s.configSources.read p = .error cause := hread
      simp only [ConfigSources.loadFrom, hread']
    exact endsWith_of_load (hload.trans hfile)
  have hfile := ConfigSources.loadFrom_of_read (s := s.configSources) hread
  refine ⟨fun hnot => ?_, fun v hv => ?_⟩
  · rw [ofText_of_not_isConfigText hnot] at hfile
    exact endsWith_of_load (hload.trans hfile)
  obtain ⟨c, hfrom, htext⟩ := exists_ofText_of_isConfigText hv
  have hversion : c.version = Setting.version.fromFile (some v) := hfrom.version.ofConfig_eq
  rw [htext, Config.checkVersion, hversion] at hfile
  refine ⟨fun version hgiven hne => ?_, fun hsupported => ?_⟩
  · rw [hgiven] at hfile
    simp only [if_neg hne] at hfile
    exact endsWith_of_load (hload.trans hfile)
  · have hloaded : s.configSources.loadFrom p = .ok ⟨c, some p⟩ := by
      cases hgiven : Setting.version.fromFile (some v) with
      | none =>
          rw [hgiven] at hfile
          exact hfile
      | some version =>
          rw [hgiven] at hfile
          simp only [if_pos (hsupported version hgiven)] at hfile
          exact hfile
    exact goesBy_of_load (hload.trans hloaded) (hfrom.layered a)

/-- A configuration that leaves most settings open. -/
def briefConfig : List Char :=
  "version = '1'\n[scanner]\nexclude = ['gen/**']\n[structure]\nstrict = true\n".toList

/-- A configuration of a version that is not supported. -/
def oldConfig : List Char := "version = '0'".toList

/-- A working directory with both, and a configuration of the user. -/
def twoConfigSurroundings : Surroundings where
  files :=
    { workingDirectory := ⟨"/w"⟩
      nodes := [(["w".toList], .directory), (["u".toList], .directory),
        (["w".toList, ".code-gate.toml".toList], .file (Text.Utf8.encode briefConfig)),
        (["w".toList, "old.toml".toList], .file (Text.Utf8.encode oldConfig)),
        (["u".toList, "config.toml".toList], .file (Text.Utf8.encode
          "[structure]\nmax_method_lines = 12\n".toList))] }
  userDirectory? := some ⟨"/u"⟩

/-- Choices for some of the settings. -/
def someChoices : CheckChoices := { exclude := ["tmp/**"], docWindow? := some 2 }

/-- The configuration in the working directory counts, and that of the user does not, not even for
what the first one leaves open. One that is named counts before both, and ends the check if its
version is not supported. -/
theorem check_layers_twoConfigSurroundings :
    (∃ c, checkConfig twoConfigSurroundings false someChoices = .ok c ∧
      c.scanner.exclude = ["gen/**", "tmp/**"] ∧ c.structural.methodLimit = 30 ∧
      c.structural.strict = true ∧ c.docs.window = 2) ∧
    EndsWith twoConfigSurroundings {} { someChoices with config? := some ⟨"old.toml"⟩ }
      (.config (.unsupportedVersion "0")) := by
  constructor
  · obtain ⟨v, hv⟩ : ∃ v, TomlValue.ofText? briefConfig = some v :=
      Option.isSome_iff_exists.1 (by decide +kernel)
    have hread : ((TomlValue.ofText? briefConfig).bind Config.ofToml?).isSome := by decide +kernel
    have hversion : Setting.version.fromFile (TomlValue.ofText? briefConfig) = some "1" := by
      decide +kernel
    have hexclude : Setting.exclude.fromFile (TomlValue.ofText? briefConfig) = ["gen/**"] := by
      decide +kernel
    have hmethod : Setting.methodLimit.fromFile (TomlValue.ofText? briefConfig) = 30 := by
      decide +kernel
    have hstrict : Setting.strict.fromFile (TomlValue.ofText? briefConfig) = true := by
      decide +kernel
    rw [hv] at hread hversion hexclude hmethod hstrict
    obtain ⟨c, hlayers, hconfig, -, -⟩ :=
      (((check_layers twoConfigSurroundings {} someChoices).2 ⟨"/w/.code-gate.toml"⟩
        (by decide +kernel)).2 briefConfig (by decide +kernel)).2 v ⟨hv, hread⟩ |>.2
        fun version h => by rw [hversion] at h; cases h; rfl
    refine ⟨c, hconfig, ?_, hlayers.methodLimit.trans hmethod, ?_, hlayers.docWindow⟩
    · rw [hlayers.exclude, hexclude]
      rfl
    · rw [hlayers.strict, hstrict]
      rfl
  · obtain ⟨v, hv⟩ : ∃ v, TomlValue.ofText? oldConfig = some v :=
      Option.isSome_iff_exists.1 (by decide +kernel)
    have hread : ((TomlValue.ofText? oldConfig).bind Config.ofToml?).isSome := by decide +kernel
    have hversion : Setting.version.fromFile (TomlValue.ofText? oldConfig) = some "0" := by
      decide +kernel
    rw [hv] at hread hversion
    exact ((((check_layers twoConfigSurroundings {} _).2 ⟨"old.toml"⟩ rfl).2 oldConfig
      (by decide +kernel)).2 v ⟨hv, hread⟩).1 "0" hversion (by decide)

end QualityGate
