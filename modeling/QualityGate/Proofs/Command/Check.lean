import QualityGate.Command.Check
import QualityGate.Proofs.Config.Soundness
import QualityGate.Proofs.File.Writing
import Mathlib.Tactic

/-!
What a check changes and how it ends. A check goes through stages: a configuration is loaded and
validated, the files are discovered, the gate is run, and the report is put in its format and printed
or written. Each of the first three can end the check, and so can the last: the report cannot be put
in its format, or it cannot be written. The gate cannot. Printing is no stage: where standard output
does not take the report, the program is aborted.

* `StageFails`, `GateRuns`: a stage before the gate fails, or the gate is run with a result.
* `stageFails_or_gateRuns`: one of the two is always the case.
* `FormatFails`, `WriteFails`, `ReportFails`: the report cannot be put in its format or written.
* `runCheck_of_stageFails`, `runCheck_of_formatFails`, `runCheck_of_writeFails`,
  `runCheck_of_output_none`, `runCheck_of_written`: what a check leaves behind in each case.
* `exitCode_of_gateRuns`, `exitCode_eq_two_iff`: the status of a check.
* `runCheck_frame`: **the effects of a check and its status**.
-/

namespace QualityGate

variable {s : Surroundings} {noConfig : Bool} {a : CheckChoices}

/-! ### The stages before the gate -/

/-- One of the stages before the gate fails: no configuration can be loaded, or it is not valid with
the choices of the user, or the files that the paths stand for cannot be discovered. -/
inductive StageFails (s : Surroundings) (noConfig : Bool) (a : CheckChoices) : GateError → Prop
  | loading {e : GateError} (hload : s.loadConfig noConfig a.config? = .error e) :
      StageFails s noConfig a e
  | validation {loaded : LoadedConfig} {e : GateError}
      (hload : s.loadConfig noConfig a.config? = .ok loaded)
      (hvalid : (loaded.config.override a).validate = .error e) : StageFails s noConfig a e
  | discovery {loaded : LoadedConfig} {f : FileFilter} {e : GateError}
      (hload : s.loadConfig noConfig a.config? = .ok loaded)
      (hvalid : (loaded.config.override a).validate = .ok ())
      (hfilter : FileFilter.ofSettings (loaded.config.override a).scanner = .ok f)
      (hdiscover : discover s.files f (loaded.config.override a).scanner.useIgnoreFiles a.paths =
        .error e) : StageFails s noConfig a e

/-- No stage before the gate fails, and the gate is run with a result. -/
inductive GateRuns (s : Surroundings) (noConfig : Bool) (a : CheckChoices) : GateResult → Prop
  | intro {loaded : LoadedConfig} {f : FileFilter} {files : List Path} {g : Gate}
      (hload : s.loadConfig noConfig a.config? = .ok loaded)
      (hvalid : (loaded.config.override a).validate = .ok ())
      (hfilter : FileFilter.ofSettings (loaded.config.override a).scanner = .ok f)
      (hdiscover : discover s.files f (loaded.config.override a).scanner.useIgnoreFiles a.paths =
        .ok files)
      (hgate : Gate.ofConfig (loaded.config.override a) = .ok g) :
      GateRuns s noConfig a
        (g.run s.files files (loaded.config.override a).coverage.report false)

/-- A check goes by the configuration that is loaded, with the choices of the user. -/
lemma checkResult_of_load {loaded : LoadedConfig}
    (hload : s.loadConfig noConfig a.config? = .ok loaded) :
    checkResult s noConfig a = gateResult s.files (loaded.config.override a) a.paths := by
  rw [checkResult, checkConfig, hload]
  rfl

/-- A stage that fails ends the check with its error. -/
lemma StageFails.checkResult_eq {e : GateError} (h : StageFails s noConfig a e) :
    checkResult s noConfig a = .error e := by
  cases h with
  | loading hload =>
      rw [checkResult, checkConfig, hload]
      rfl
  | validation hload hvalid =>
      rw [checkResult_of_load hload]
      simp only [gateResult, hvalid]
  | discovery hload hvalid hfilter hdiscover =>
      rw [checkResult_of_load hload]
      simp only [gateResult, hvalid, checkedFiles, hfilter, hdiscover]

/-- When the gate is run, its result is the result of the check. -/
lemma GateRuns.checkResult_eq {r : GateResult} (h : GateRuns s noConfig a r) :
    checkResult s noConfig a = .ok r := by
  cases h with
  | intro hload hvalid hfilter hdiscover hgate =>
      rw [checkResult_of_load hload]
      simp only [gateResult, hvalid, checkedFiles, hfilter, hdiscover, hgate, Except.map]

/-- **A stage fails or the gate is run.** A valid configuration gives a filter and a gate, so that
nothing else can end a check before it has a result. -/
theorem stageFails_or_gateRuns (s : Surroundings) (noConfig : Bool) (a : CheckChoices) :
    (∃ e, StageFails s noConfig a e) ∨ ∃ r, GateRuns s noConfig a r := by
  cases hload : s.loadConfig noConfig a.config? with
  | error e => exact .inl ⟨e, .loading hload⟩
  | ok loaded =>
  cases hvalid : (loaded.config.override a).validate with
  | error e => exact .inl ⟨e, .validation hload hvalid⟩
  | ok _ =>
  have hsound := (Config.validate_eq_ok_iff _ _).1 hvalid
  rw [Config.faults_eq_nil_iff] at hsound
  obtain ⟨f, hfilter⟩ :=
    (FileFilter.exists_ofSettings_iff PatternNotation.isCumulative_standard).2 hsound.isSome_glob
  obtain ⟨g, hgate⟩ := Gate.exists_ofConfig_iff.2 hsound.isSome_expression
  cases hdiscover :
      discover s.files f (loaded.config.override a).scanner.useIgnoreFiles a.paths with
  | error e => exact .inl ⟨e, .discovery hload hvalid hfilter hdiscover⟩
  | ok files => exact .inr ⟨_, .intro hload hvalid hfilter hdiscover hgate⟩

/-- When the gate is run, no stage fails. -/
lemma GateRuns.not_stageFails {r : GateResult} (h : GateRuns s noConfig a r) :
    ¬∃ e, StageFails s noConfig a e := by
  rintro ⟨e, hfails⟩
  have hresult := hfails.checkResult_eq
  rw [h.checkResult_eq] at hresult
  cases hresult

/-- A check has a result exactly if the gate is run with it. -/
theorem checkResult_eq_ok_iff {r : GateResult} :
    checkResult s noConfig a = .ok r ↔ GateRuns s noConfig a r := by
  refine ⟨fun h => ?_, GateRuns.checkResult_eq⟩
  rcases stageFails_or_gateRuns s noConfig a with ⟨e, hfails⟩ | ⟨r', hruns⟩
  · rw [hfails.checkResult_eq] at h
    cases h
  · rw [hruns.checkResult_eq] at h
    cases h
    exact hruns

/-- What a check finds does not depend on how and where its result is reported. -/
lemma gateRuns_of_report_choices (format : OutputFormat) (output? : Option Path) (r : GateResult) :
    GateRuns s noConfig { a with format, output? } r ↔ GateRuns s noConfig a r := by
  rw [← checkResult_eq_ok_iff, ← checkResult_eq_ok_iff]
  rfl

/-! ### The report -/

/-- A result can be given in a format exactly if the format is text or all paths that the result
names are texts. -/
lemma GateResult.exists_format_iff {format : OutputFormat} {colour : Bool} {r : GateResult}
    {isText : Path → Bool} :
    (∃ report, r.format format colour isText = .ok report) ↔
      (format = .json → ∀ p ∈ r.paths, isText p = true) := by
  cases format with
  | text => simp [GateResult.format]
  | json =>
      refine ⟨fun ⟨report, hreport⟩ _ => ?_, fun h => ⟨_, r.format_json (h rfl) colour⟩⟩
      rw [GateResult.format] at hreport
      split_ifs at hreport with hall
      exact List.all_eq_true.1 hall

/-- The gate is run, and its result cannot be given in the format that was asked for. -/
def FormatFails (s : Surroundings) (common : CommonChoices) (a : CheckChoices) : Prop :=
  ∃ r e, GateRuns s common.noConfig a r ∧ checkReport s common a r = .error e

/-- The gate is run, and the report on its result cannot be written to the file that was named for
it. -/
def WriteFails (s : Surroundings) (common : CommonChoices) (a : CheckChoices) : Prop :=
  ∃ r report p e, GateRuns s common.noConfig a r ∧ checkReport s common a r = .ok report ∧
    a.output? = some p ∧ (s.files.deliver p report).2 = some e

/-- Writing the output fails: the report on the result cannot be put in its format, or not be
written to its file. -/
def ReportFails (s : Surroundings) (common : CommonChoices) (a : CheckChoices) : Prop :=
  FormatFails s common a ∨ WriteFails s common a

variable {common : CommonChoices}

/-- When a stage fails, its error is all that a check leaves behind. -/
lemma runCheck_of_stageFails {e : GateError} (h : StageFails s common.noConfig a e) :
    runCheck s common a = .failed s.files e := by
  rw [runCheck, h.checkResult_eq]

/-- When the report cannot be put in its format, the error is all that a check leaves behind. -/
lemma runCheck_of_format_error {r : GateResult} (h : GateRuns s common.noConfig a r) {e : GateError}
    (hformat : checkReport s common a r = .error e) : runCheck s common a = .failed s.files e := by
  rw [runCheck, h.checkResult_eq]
  simp only [hformat]

section Report

variable {r : GateResult} (h : GateRuns s common.noConfig a r) {report : String}
  (hreport : checkReport s common a r = .ok report)

include h hreport

/-- Without a file for the report, the report is printed and the files stay. -/
lemma runCheck_of_output_none (hnone : a.output? = none) :
    runCheck s common a = ⟨r.status, if common.quiet then "" else report, "", s.files⟩ := by
  rw [runCheck, h.checkResult_eq]
  simp only [hreport, hnone]

/-- With a file for the report, nothing is printed. What becomes of the files is what becomes of
them when the report is delivered. -/
lemma runCheck_of_output_some {p : Path} (hsome : a.output? = some p) :
    runCheck s common a = match s.files.deliver p report with
      | (t, some e) => .failed t (.io e)
      | (t, none) => ⟨r.status, "", "", t⟩ := by
  rw [runCheck, h.checkResult_eq]
  cases hdelivered : s.files.deliver p report with
  | mk t e => cases e <;> simp only [hreport, hsome, hdelivered]

end Report

/-! ### Effects and status -/

/-- The status of a result is zero or one. -/
lemma GateResult.code_status (r : GateResult) : r.status.code = if r.passed then 0 else 1 := by
  rw [status]
  split_ifs <;> rfl

/-- A command that an error ended ends with two, as there is nothing that it prints. -/
lemma Outcome.exitCode_failed (t : FileTree) (e : GateError) (taken : Bool) :
    (Outcome.failed t e).exitCode taken = 2 := by
  cases taken <;> rfl

/-- A report that cannot be put in its format changes nothing. -/
lemma runCheck_of_formatFails (h : FormatFails s common a) :
    ∃ e, runCheck s common a = .failed s.files e := by
  obtain ⟨r, e, hruns, hformat⟩ := h
  exact ⟨e, runCheck_of_format_error hruns hformat⟩

/-- A report that cannot be written leaves all files as they were. -/
lemma runCheck_of_writeFails (h : WriteFails s common a) :
    ∃ t e, runCheck s common a = .failed t e ∧ s.files.SameFiles t := by
  obtain ⟨r, report, p, e, hruns, hreport, hsome, hfails⟩ := h
  rw [runCheck_of_output_some hruns hreport hsome]
  rcases hdeliver : s.files.deliver p report with ⟨t, stopped⟩
  rw [hdeliver] at hfails
  obtain rfl : stopped = some e := hfails
  exact ⟨t, .io e, rfl, FileTree.sameFiles_of_deliver hdeliver⟩

/-- A report that is written changes the one file that was named for it. -/
lemma runCheck_of_written {r : GateResult} (h : GateRuns s common.noConfig a r) {report : String}
    (hreport : checkReport s common a r = .ok report) {p : Path} (hsome : a.output? = some p)
    (hwrites : ¬WriteFails s common a) :
    ∃ t, runCheck s common a = ⟨r.status, "", "", t⟩ ∧
      s.files.DiffersAt t p (Text.Utf8.encode report.toList) := by
  rw [runCheck_of_output_some h hreport hsome]
  rcases hdeliver : s.files.deliver p report with ⟨t, _ | e⟩
  · exact ⟨t, rfl, FileTree.differsAt_of_deliver hdeliver⟩
  · exact absurd ⟨r, report, p, e, h, hreport, hsome, by rw [hdeliver]⟩ hwrites

/-- A check whose report does not fail has the status of its result. -/
lemma status_of_gateRuns {r : GateResult} (h : GateRuns s common.noConfig a r)
    (hreports : ¬ReportFails s common a) : (runCheck s common a).status = r.status := by
  obtain ⟨hformats, hwrites⟩ := not_or.1 hreports
  cases hreport : checkReport s common a r with
  | error e => exact absurd ⟨r, e, h, hreport⟩ hformats
  | ok report =>
      cases houtput : a.output? with
      | none => rw [runCheck_of_output_none h hreport houtput]
      | some p =>
          obtain ⟨t, hrun, -⟩ := runCheck_of_written h hreport houtput hwrites
          rw [hrun]

/-- A check ends with the status of its result, unless the report fails or is printed and not
taken. -/
lemma exitCode_of_gateRuns {r : GateResult} (h : GateRuns s common.noConfig a r)
    (hreports : ¬ReportFails s common a) (taken : Bool) :
    (runCheck s common a).exitCode taken =
      if taken = true ∨ (runCheck s common a).output = "" then (if r.passed then 0 else 1)
      else 101 := by
  rw [← r.code_status, ← status_of_gateRuns h hreports, Outcome.exitCode, Outcome.ended]
  simp only [Bool.or_eq_true, String.isEmpty_iff]
  split_ifs <;> rfl

/-- A check ends with two exactly if a stage before the gate or the report fails. -/
lemma exitCode_eq_two_iff (s : Surroundings) (common : CommonChoices) (a : CheckChoices)
    (taken : Bool) :
    (runCheck s common a).exitCode taken = 2 ↔
      (∃ e, StageFails s common.noConfig a e) ∨ ReportFails s common a := by
  constructor
  · intro htwo
    rcases stageFails_or_gateRuns s common.noConfig a with hfails | ⟨r, hruns⟩
    · exact .inl hfails
    · by_contra hnot
      rw [exitCode_of_gateRuns hruns fun hfails => hnot (.inr hfails)] at htwo
      split_ifs at htwo <;> omega
  · rintro (⟨e, hfails⟩ | hformat | hwrite)
    · rw [runCheck_of_stageFails hfails, Outcome.exitCode_failed]
    · obtain ⟨e, hrun⟩ := runCheck_of_formatFails hformat
      rw [hrun, Outcome.exitCode_failed]
    · obtain ⟨t, e, hrun, -⟩ := runCheck_of_writeFails hwrite
      rw [hrun, Outcome.exitCode_failed]

/-- How and where the result is reported does not change how a check ends, as long as no report
fails. -/
lemma exitCode_of_report_choices {common' : CommonChoices}
    (hconfig : common'.noConfig = common.noConfig) {format : OutputFormat} {output? : Option Path}
    (hreports : ¬ReportFails s common a)
    (hreports' : ¬ReportFails s common' { a with format, output? }) :
    (runCheck s common' { a with format, output? }).exitCode = (runCheck s common a).exitCode := by
  rcases stageFails_or_gateRuns s common'.noConfig { a with format, output? } with
    hfails' | ⟨r, hruns'⟩
  · rcases stageFails_or_gateRuns s common.noConfig a with hfails | ⟨r, hruns⟩
    · rw [(exitCode_eq_two_iff s common a true).2 (.inl hfails)]
      exact (exitCode_eq_two_iff s common' _ true).2 (.inl hfails')
    · rw [← hconfig] at hruns
      have hruns' := (gateRuns_of_report_choices format output? r).2 hruns
      exact absurd hfails' hruns'.not_stageFails
  · have hruns := (gateRuns_of_report_choices format output? r).1 hruns'
    rw [hconfig] at hruns
    rw [exitCode_of_gateRuns hruns' hreports', exitCode_of_gateRuns hruns hreports]
    simp

/-- **The effects of a check and its status.** When a stage before the gate fails, a check prints no
report, changes nothing and ends with two. When none fails, the gate has a result. The report on it
can be put in its format, unless that is JSON and the result names a path that is no text; then a
check again prints nothing, changes nothing and ends with two. Without a file for it, the report is
printed unless the check is quiet, and nothing changes. With a file for it, nothing is printed; the
file that its path leads to has the report and all others stay as they were, or else the report could
not be written and all files stay. The check ends with two exactly if a stage or the report fails,
and otherwise with zero or one by the verdict, but for a program that is aborted as standard output
does not take the report. How and where a result is reported changes neither the result nor, if no
report fails, the end. -/
theorem runCheck_frame (s : Surroundings) (common : CommonChoices) (a : CheckChoices) :
    ((∃ e, StageFails s common.noConfig a e) →
      (runCheck s common a).output = "" ∧ (runCheck s common a).files = s.files ∧
        ∀ taken, (runCheck s common a).exitCode taken = 2) ∧
    ((¬∃ e, StageFails s common.noConfig a e) → ∃ r, GateRuns s common.noConfig a r ∧
      ((∃ report, checkReport s common a r = .ok report) ↔
        (a.format = .json → ∀ p ∈ r.paths, s.isText p = true)) ∧
      (∀ e, checkReport s common a r = .error e → (runCheck s common a).output = "" ∧
        (runCheck s common a).files = s.files) ∧
      (∀ report, checkReport s common a r = .ok report →
        (a.output? = none → (runCheck s common a).files = s.files ∧
          (runCheck s common a).output = if common.quiet then "" else report) ∧
        ∀ p, a.output? = some p → (runCheck s common a).output = "" ∧
          (WriteFails s common a → s.files.SameFiles (runCheck s common a).files) ∧
          (¬WriteFails s common a → s.files.DiffersAt (runCheck s common a).files p
            (Text.Utf8.encode report.toList))) ∧
      (¬ReportFails s common a → ∀ taken, (runCheck s common a).exitCode taken =
        if taken = true ∨ (runCheck s common a).output = "" then (if r.passed then 0 else 1)
        else 101)) ∧
    (∀ taken, (runCheck s common a).exitCode taken = 2 ↔
      (∃ e, StageFails s common.noConfig a e) ∨ ReportFails s common a) ∧
    ∀ (common' : CommonChoices) (format : OutputFormat) (output? : Option Path),
      common'.noConfig = common.noConfig →
        (∀ r, GateRuns s common'.noConfig { a with format, output? } r ↔
          GateRuns s common.noConfig a r) ∧
        (¬ReportFails s common a → ¬ReportFails s common' { a with format, output? } →
          (runCheck s common' { a with format, output? }).exitCode =
            (runCheck s common a).exitCode) := by
  refine ⟨?_, ?_, exitCode_eq_two_iff s common a, ?_⟩
  · rintro ⟨e, hfails⟩
    rw [runCheck_of_stageFails hfails]
    exact ⟨rfl, rfl, Outcome.exitCode_failed s.files e⟩
  · intro hnone
    obtain ⟨r, hruns⟩ := (stageFails_or_gateRuns s common.noConfig a).resolve_left hnone
    refine ⟨r, hruns, GateResult.exists_format_iff, fun e hformat => ?_, fun report hreport =>
      ⟨fun houtput => ?_, fun p houtput => ⟨?_, fun hw => ?_, fun hwrites => ?_⟩⟩,
      exitCode_of_gateRuns hruns⟩
    · rw [runCheck_of_format_error hruns hformat]
      exact ⟨rfl, rfl⟩
    · rw [runCheck_of_output_none hruns hreport houtput]
      exact ⟨rfl, rfl⟩
    · by_cases hw : WriteFails s common a
      · obtain ⟨t, e, hrun, -⟩ := runCheck_of_writeFails hw
        rw [hrun]
        rfl
      · obtain ⟨t, hrun, -⟩ := runCheck_of_written hruns hreport houtput hw
        rw [hrun]
    · obtain ⟨t, e, hrun, hsame⟩ := runCheck_of_writeFails hw
      rw [hrun]
      exact hsame
    · obtain ⟨t, hrun, hdiffers⟩ := runCheck_of_written hruns hreport houtput hwrites
      rw [hrun]
      exact hdiffers
  · intro common' format output? hconfig
    refine ⟨fun r => ?_, exitCode_of_report_choices hconfig⟩
    rw [hconfig]
    exact gateRuns_of_report_choices format output? r

/-- A working directory with a source file and nothing else. -/
def oneFileTree : FileTree where
  workingDirectory := ⟨"/w"⟩
  nodes := [(["w".toList], .directory),
    (["w".toList, "A.java".toList], .file (Text.Utf8.encode "public class A \x7b\n\x7d\n".toList))]

/-- A check finds this directory, with all paths texts or none of them. -/
def oneFileSurroundings (isText : Bool) : Surroundings :=
  { files := oneFileTree, isText := fun _ => isText }

/-- No configuration is looked for, and nothing is to be printed. -/
def quietChoices : CommonChoices := { quiet := true, noConfig := true }

/-- A report in JSON is asked for in a directory that is not there. -/
def reportChoices : CheckChoices := { format := .json, output? := some ⟨"out/report.json"⟩ }

/-- The report is written, into a new directory, and the check does not pass, as there is a class
without documentation. Where the path of its file is no text, there is no report, and the files
stay; so they do when a path leads to nothing. -/
theorem runCheck_frame_oneFileTree :
    (∃ r report, GateRuns (oneFileSurroundings true) true reportChoices r ∧ r.passed = false ∧
      checkReport (oneFileSurroundings true) quietChoices reportChoices r = .ok report ∧
      oneFileTree.DiffersAt
        (runCheck (oneFileSurroundings true) quietChoices reportChoices).files ⟨"out/report.json"⟩
        (Text.Utf8.encode report.toList)) ∧
    (∃ r, GateRuns (oneFileSurroundings false) true reportChoices r ∧
      (runCheck (oneFileSurroundings false) quietChoices reportChoices).files = oneFileTree) ∧
    (runCheck (oneFileSurroundings true) quietChoices { paths := [⟨"B.java"⟩] }).files =
      oneFileTree := by
  have hstages (isText : Bool) :
      ¬∃ e, StageFails (oneFileSurroundings isText) true reportChoices e := by
    have hfound : (checkResult (oneFileSurroundings isText) true reportChoices).toBool = true := by
      decide +revert +kernel
    rintro ⟨e, hfails⟩
    rw [hfails.checkResult_eq] at hfound
    cases hfound
  refine ⟨?_, ?_, ?_⟩
  · obtain ⟨-, hpasses, hcode, -⟩ :=
      runCheck_frame (oneFileSurroundings true) quietChoices reportChoices
    have hone : (runCheck (oneFileSurroundings true) quietChoices reportChoices).exitCode = 1 := by
      decide +kernel
    have hreports : ¬ReportFails (oneFileSurroundings true) quietChoices reportChoices := by
      intro hfails
      rw [(hcode true).2 (.inr hfails)] at hone
      cases hone
    obtain ⟨r, hruns, hformats, -, hwritten, hverdict⟩ := hpasses (hstages true)
    obtain ⟨report, hreport⟩ := hformats.2 fun _ _ _ => rfl
    refine ⟨r, report, hruns, ?_, hreport, ?_⟩
    · have hend := hverdict hreports true
      rw [hone, if_pos (.inl rfl)] at hend
      cases hpassed : r.passed with
      | false => rfl
      | true =>
          rw [hpassed] at hend
          cases hend
    · exact ((hwritten report hreport).2 _ rfl).2.2 fun hfails => hreports (.inr hfails)
  · obtain ⟨-, hpasses, -⟩ := runCheck_frame (oneFileSurroundings false) quietChoices reportChoices
    obtain ⟨r, hruns, hformats, hfails, -⟩ := hpasses (hstages false)
    refine ⟨r, hruns, ?_⟩
    cases hreport : checkReport (oneFileSurroundings false) quietChoices reportChoices r with
    | error e => exact (hfails e hreport).2
    | ok report =>
        have hnamed : (checkResult (oneFileSurroundings false) true reportChoices).toOption.map
            GateResult.paths = some [⟨"./A.java"⟩] := by decide +kernel
        have hresult : checkResult (oneFileSurroundings false) true reportChoices = .ok r :=
          hruns.checkResult_eq
        rw [hresult] at hnamed
        have hmem : (⟨"./A.java"⟩ : Path) ∈ r.paths := by
          rw [Option.some.inj hnamed]
          exact List.mem_singleton_self _
        cases hformats.1 ⟨report, hreport⟩ rfl _ hmem
  · obtain ⟨hfails, -, hcode, -⟩ :=
      runCheck_frame (oneFileSurroundings true) quietChoices { paths := [⟨"B.java"⟩] }
    have htwo : (runCheck (oneFileSurroundings true) quietChoices
        { paths := [⟨"B.java"⟩] }).exitCode = 2 := by
      decide +kernel
    rcases (hcode true).1 htwo with hstage | ⟨r, e, -, hformat⟩ | ⟨r, report, p, e, -, -, hsome, -⟩
    · exact (hfails hstage).2.1
    · cases hformat
    · cases hsome

end QualityGate
