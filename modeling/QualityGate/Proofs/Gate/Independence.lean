import QualityGate.Proofs.Analysis.Distinct
import QualityGate.Proofs.Gate.Schedule
import Mathlib.Tactic

/-!
A run does not depend on how its work is scheduled. The collector appends reports as they come in,
and the order is made at the end, by a sort. For files whose paths differ in their components no two
findings of the scan tie in that sort, so the sorted result depends only on which reports came in.

* `Gate.violationsIn`, `Gate.noticeFor?`: what one file contributes to a run.
* `finish_ofOutcomes_perm`: reports without ties give the same collected result in any order.
* `Gate.run_contents`, `Gate.filter_path_run`: what the result of a run consists of.
* `Gate.run_schedule_independent`: every finished schedule gives the result of the run, whatever the
  order of the files, and what that result consists of.
-/

namespace QualityGate

namespace Gate

/-- The violations in a file; none if it cannot be read. -/
def violationsIn (g : Gate) (t : FileTree) (p : Path) : List Violation :=
  match t.read p with
  | .ok content => g.analysis.violations p (Text.Utf8.decodeLossy content)
  | .error _ => []

/-- The notice for a file that cannot be read. -/
def noticeFor? (t : FileTree) (p : Path) : Option Notice :=
  match t.read p with
  | .ok _ => none
  | .error cause => some ⟨p, (GateError.fileRead p cause).describe⟩

/-- The result of a run, given what its scan collected. -/
def resultOf (g : Gate) (t : FileTree) (collected : Collector) (report? : Option Path)
    (cancelled : Bool) : GateResult where
  violations := collected.violations
  notices := collected.notices
  coverage := g.coverage t report?
  filesScanned := collected.filesScanned
  cancelled := cancelled
  policy := g.verdict

/-- A run that is not cancelled collects the reports of its files one after the other. -/
lemma run_eq_resultOf (g : Gate) (t : FileTree) (files : List Path) (report? : Option Path) :
    g.run t files report? false =
      g.resultOf t (Collector.ofOutcomes (files.map (g.scanFile t))).finish report? false := rfl

/-! ### One file -/

lemma violations_scanFile (g : Gate) (t : FileTree) (p : Path) :
    (g.scanFile t p).violations = g.violationsIn t p := by
  unfold scanFile violationsIn
  cases t.read p <;> rfl

lemma notice?_scanFile (g : Gate) (t : FileTree) (p : Path) :
    (g.scanFile t p).notice? = noticeFor? t p := by
  unfold scanFile noticeFor?
  cases t.read p <;> rfl

lemma isScanned_scanFile (g : Gate) (t : FileTree) (p : Path) :
    (g.scanFile t p).isScanned = (t.read p).isOk := by
  unfold scanFile
  cases t.read p <;> rfl

/-- The violations in a file name the file. -/
lemma path_of_mem_violationsIn {g : Gate} {t : FileTree} {p : Path} {v : Violation}
    (h : v ∈ g.violationsIn t p) : v.path = p := by
  unfold violationsIn at h
  split at h
  · exact Analysis.path_of_mem_found ((g.analysis.violations_perm _ _).mem_iff.1 h)
  · cases h

/-- The notice for a file names the file. -/
lemma path_of_mem_noticeFor? {t : FileTree} {p : Path} {n : Notice} (h : n ∈ noticeFor? t p) :
    n.path = p := by
  unfold noticeFor? at h
  split at h <;> cases h
  rfl

/-- The violations in a file are strictly in the order of reports. -/
lemma pairwise_violationsIn {g : Gate} (hrules : (g.analysis.rules.map LineRule.name).Nodup)
    (t : FileTree) (p : Path) : (g.violationsIn t p).Pairwise fun v w => v.order w = .lt := by
  unfold violationsIn
  split
  · exact Analysis.pairwise_violations hrules _ _
  · exact List.Pairwise.nil

/-! ### All files -/

variable {g : Gate} {t : FileTree} {files : List Path}

/-- The paths of the files differ in their components. -/
def DistinctFiles (files : List Path) : Prop :=
  files.Pairwise fun p q => p.components ≠ q.components

/-- No two violations in distinct files tie. -/
lemma pairwise_violations_ne (hrules : (g.analysis.rules.map LineRule.name).Nodup) (t : FileTree)
    (hfiles : DistinctFiles files) :
    (files.flatMap (g.violationsIn t)).Pairwise fun v w => v.order w ≠ .eq := by
  refine List.pairwise_flatMap.2 ⟨fun p _ => ?_, hfiles.imp fun {p q} hne v hv w hw htie => ?_⟩
  · refine (pairwise_violationsIn hrules t p).imp fun {v w} h heq => ?_
    rw [h] at heq
    cases heq
  · have hpath := (Violation.order_eq_iff.1 htie).1
    rw [path_of_mem_violationsIn hv, path_of_mem_violationsIn hw] at hpath
    exact hne hpath

/-- No two notices for distinct files tie. -/
lemma pairwise_notices_ne (t : FileTree) (hfiles : DistinctFiles files) :
    (files.filterMap (noticeFor? t)).Pairwise fun m n => Collector.noticeOrder m n ≠ .eq := by
  refine List.Pairwise.filterMap _ (fun p q hne m hm n hn htie => ?_) hfiles
  have hpath := Path.order_eq_iff.1 htie
  rw [path_of_mem_noticeFor? hm, path_of_mem_noticeFor? hn] at hpath
  exact hne hpath

end Gate

/-! ### The collected result -/

/-- Reports without ties give the same collected result in any order. -/
theorem finish_ofOutcomes_perm {os os' : List FileOutcome} (h : os.Perm os')
    (hviolations : (os.flatMap FileOutcome.violations).Pairwise fun v w => v.order w ≠ .eq)
    (hnotices : (os.filterMap FileOutcome.notice?).Pairwise
      fun m n => Collector.noticeOrder m n ≠ .eq) :
    (Collector.ofOutcomes os).finish = (Collector.ofOutcomes os').finish := by
  simp only [Collector.finish, Collector.violations_ofOutcomes, Collector.notices_ofOutcomes,
    Collector.filesScanned_ofOutcomes, Collector.mk.injEq]
  exact ⟨Violation.sort_eq_of_perm (h.flatMap_right _) hviolations,
    Collector.sortNotices_eq_of_perm (h.filterMap _) hnotices, h.countP_eq _⟩

/-- In a finished scan that was not cancelled every file has handed its report over. -/
lemma handedOver_eq_of_finished {g : Gate} {t : FileTree} {files : List Path} {s : ScanState}
    (h : Consistent g t files s) (hfin : s.Finished) (hc : s.cancelled = false) :
    s.handedOver = files.map (g.scanFile t) := by
  have hall : ∀ f ∈ s.files, f.2.handedOver? = some (g.scanFile t f.1) := by
    rintro ⟨p, w⟩ hf
    have hdone := hfin _ hf
    have hadmitted := h.admitted hc _ hf
    have houtcome := h.outcomes _ hf
    cases w with
    | handedOver o => rw [← houtcome o (.inr rfl)]; rfl
    | dropped => exact absurd rfl hadmitted
    | waiting | admitted | checked o => cases hdone
  rw [← h.paths, List.map_map, ScanState.handedOver]
  rw [List.filterMap_congr hall, List.filterMap_eq_map']
  rfl

namespace Gate

/-! ### What a run consists of -/

/-- The reports of files have the violations in them. -/
lemma flatMap_violations_map (g : Gate) (t : FileTree) (ps : List Path) :
    (ps.map (g.scanFile t)).flatMap FileOutcome.violations = ps.flatMap (g.violationsIn t) := by
  rw [List.flatMap_map]
  exact List.flatMap_congr fun p _ => violations_scanFile g t p

/-- The reports of files have the notices for them. -/
lemma filterMap_notice?_map (g : Gate) (t : FileTree) (ps : List Path) :
    (ps.map (g.scanFile t)).filterMap FileOutcome.notice? = ps.filterMap (noticeFor? t) := by
  rw [List.filterMap_map]
  exact List.filterMap_congr fun p _ => notice?_scanFile g t p

/-- What a collector has that got the reports of some files in any order. -/
lemma contents_of_perm {g : Gate} {t : FileTree} {ps : List Path} {os : List FileOutcome}
    (h : os.Perm (ps.map (g.scanFile t))) :
    (Collector.ofOutcomes os).violations.Perm (ps.flatMap (g.violationsIn t)) ∧
      (Collector.ofOutcomes os).notices.Perm (ps.filterMap (noticeFor? t)) ∧
      (Collector.ofOutcomes os).filesScanned = ps.countP fun p => (t.read p).isOk := by
  rw [Collector.violations_ofOutcomes, Collector.notices_ofOutcomes,
    Collector.filesScanned_ofOutcomes, ← flatMap_violations_map g, ← filterMap_notice?_map g]
  refine ⟨h.flatMap_right _, h.filterMap _, ?_⟩
  rw [h.countP_eq, List.countP_map]
  exact List.countP_congr fun p _ => by simp [isScanned_scanFile]

/-- The result of a run on distinct files: the violations of the readable files, strictly in the
order of reports, and the notices for the others, strictly in the order of paths. -/
theorem run_contents {g : Gate} (hrules : (g.analysis.rules.map LineRule.name).Nodup)
    (t : FileTree) {files : List Path} (hfiles : DistinctFiles files) (report? : Option Path) :
    let r := g.run t files report? false
    r.violations.Perm (files.flatMap (g.violationsIn t)) ∧
      r.violations.Pairwise (fun v w => v.order w = .lt) ∧
      r.notices.Perm (files.filterMap (noticeFor? t)) ∧
      r.notices.Pairwise (fun m n => m.path.order n.path = .lt) ∧
      r.filesScanned = files.countP fun p => (t.read p).isOk := by
  obtain ⟨hviolations, hnotices, hscanned⟩ := contents_of_perm (.refl (files.map (g.scanFile t)))
  refine ⟨(Collector.finish_violations_perm _).trans hviolations, Violation.pairwise_sort ?_,
    (Collector.finish_notices_perm _).trans hnotices, Collector.pairwise_sortNotices ?_, hscanned⟩
  · exact pairwise_ne_of_perm hviolations.symm (pairwise_violations_ne hrules t hfiles)
  · exact pairwise_ne_of_perm hnotices.symm (pairwise_notices_ne t hfiles)

/-- Of the violations of distinct files, those that name one of the files are the violations in
it. -/
lemma filter_path_flatMap {g : Gate} {t : FileTree} {files : List Path} {p : Path}
    (hfiles : DistinctFiles files) (hp : p ∈ files) :
    (files.flatMap (g.violationsIn t)).filter (fun v => v.path = p) = g.violationsIn t p := by
  have hown : (g.violationsIn t p).filter (fun v => v.path = p) = g.violationsIn t p :=
    List.filter_eq_self.2 fun v hv => by simp [path_of_mem_violationsIn hv]
  have hother (q : Path) (hne : q.components ≠ p.components) :
      (g.violationsIn t q).filter (fun v => v.path = p) = [] := by
    refine List.filter_eq_nil_iff.2 fun v hv h => hne ?_
    rw [← path_of_mem_violationsIn hv, of_decide_eq_true h]
  obtain ⟨before, after, rfl⟩ := List.append_of_mem hp
  obtain ⟨-, hafter, hbefore⟩ := List.pairwise_append.1 hfiles
  rw [List.flatMap_append, List.flatMap_cons, List.filter_append, List.filter_append, hown,
    List.filter_flatMap, List.filter_flatMap,
    List.flatMap_eq_nil_iff.2 fun q hq => hother q (hbefore q hq p List.mem_cons_self),
    List.flatMap_eq_nil_iff.2 fun q hq => hother q ((List.pairwise_cons.1 hafter).1 q hq).symm,
    List.nil_append, List.append_nil]

/-- In the result of a run, the violations that name a file are the violations in it, in order. -/
theorem filter_path_run {g : Gate} (hrules : (g.analysis.rules.map LineRule.name).Nodup)
    (t : FileTree) {files : List Path} (hfiles : DistinctFiles files) (report? : Option Path)
    {p : Path} (hp : p ∈ files) :
    (g.run t files report? false).violations.filter (fun v => v.path = p) = g.violationsIn t p := by
  obtain ⟨hperm, hsorted, -⟩ := run_contents hrules t hfiles report?
  refine eq_of_perm_of_pairwise_lt ?_ (hsorted.filter _) (pairwise_violationsIn hrules t p)
  rw [← filter_path_flatMap hfiles hp]
  exact hperm.filter _

/-- The reports of distinct files give the same collected result in any order. -/
lemma finish_scanFile_perm {g : Gate} (hrules : (g.analysis.rules.map LineRule.name).Nodup)
    (t : FileTree) {files : List Path} (hfiles : DistinctFiles files) {os : List FileOutcome}
    (h : os.Perm (files.map (g.scanFile t))) :
    (Collector.ofOutcomes os).finish =
      (Collector.ofOutcomes (files.map (g.scanFile t))).finish := by
  refine (finish_ofOutcomes_perm h.symm ?_ ?_).symm
  · rw [flatMap_violations_map]
    exact pairwise_violations_ne hrules t hfiles
  · rw [filterMap_notice?_map]
    exact pairwise_notices_ne t hfiles

/-- A run of the files in another order has the same result. -/
theorem run_perm {g : Gate} (hrules : (g.analysis.rules.map LineRule.name).Nodup) (t : FileTree)
    {files order : List Path} (hfiles : DistinctFiles files) (horder : order.Perm files)
    (report? : Option Path) : g.run t order report? false = g.run t files report? false := by
  rw [run_eq_resultOf, run_eq_resultOf,
    finish_scanFile_perm hrules t hfiles (horder.map (g.scanFile t))]

/-- A finished scan of the files in any order, not cancelled, gives the result of the run. -/
theorem resultOf_finish {g : Gate} (hrules : (g.analysis.rules.map LineRule.name).Nodup)
    {t : FileTree} {files order : List Path} (hfiles : DistinctFiles files)
    (horder : order.Perm files) (report? : Option Path) {s : ScanState}
    (hsteps : ScanSteps g t (.start order) s) (hfin : s.Finished) (hc : s.cancelled = false) :
    g.resultOf t s.collector.finish report? s.cancelled = g.run t files report? false := by
  have hcons := consistent_of_steps hsteps
  obtain ⟨os, hperm, hcollector⟩ := hcons.collected
  rw [handedOver_eq_of_finished hcons hfin hc] at hperm
  have hall : os.Perm (files.map (g.scanFile t)) := hperm.trans (horder.map _)
  rw [run_eq_resultOf, hcollector, hc, finish_scanFile_perm hrules t hfiles hall]

/-- **A run does not depend on its schedule.** For a gate that a configuration asks for and files
with distinct paths, given in any order: the run has the same result; whatever was done so far
without cancelling, the scan can be finished; every finished scan gives that result too; and the
result has the violations of all readable files strictly in the order of reports, those of each file
being exactly the ones found in it, one notice for each other file in the order of paths, and the
number of readable files. -/
theorem run_schedule_independent {c : Config} {g : Gate} (hg : ofConfig c = .ok g) (t : FileTree)
    {files : List Path} (hfiles : DistinctFiles files) (report? : Option Path) :
    let r := g.run t files report? false
    (∀ order : List Path, order.Perm files →
      g.run t order report? false = r ∧
      ∀ s, ScanSteps g t (.start order) s → s.cancelled = false →
        (∃ s', ScanSteps g t s s' ∧ s'.Finished ∧ s'.cancelled = false) ∧
        (s.Finished → g.resultOf t s.collector.finish report? s.cancelled = r)) ∧
    (r.violations.Perm (files.flatMap (g.violationsIn t)) ∧
      r.violations.Pairwise (fun v w => v.order w = .lt) ∧
      r.notices.Perm (files.filterMap (noticeFor? t)) ∧
      r.notices.Pairwise (fun m n => m.path.order n.path = .lt) ∧
      r.filesScanned = files.countP fun p => (t.read p).isOk) ∧
    ∀ p ∈ files, r.violations.filter (fun v => v.path = p) = g.violationsIn t p := by
  have hrules : (g.analysis.rules.map LineRule.name).Nodup := by
    unfold ofConfig at hg
    cases ha : Analysis.ofConfig c with
    | error e => rw [ha] at hg; cases hg
    | ok a => rw [ha] at hg; cases hg; exact Analysis.nodup_rules_of_ofConfig ha
  refine ⟨fun order horder => ⟨run_perm hrules t hfiles horder report?,
      fun s hsteps hc => ⟨?_, fun hfin => ?_⟩⟩,
    run_contents hrules t hfiles report?, fun p hp => filter_path_run hrules t hfiles report? hp⟩
  · obtain ⟨s', hsteps', hfin', hc'⟩ := exists_finished g t s
    exact ⟨s', hsteps', hfin', hc'.trans hc⟩
  · exact resultOf_finish hrules hfiles horder report? hsteps hfin hc

/-- The standard configuration, with no call banned. -/
def quietConfig : Config := { patterns := { bannedCalls := [] } }

/-- The gate that `quietConfig` asks for. -/
def quietGate : Gate where
  analysis := ⟨30, {}, [.bannedCall [] defaultLoggingFacility, .hardcodedLiteral, .longLine 120,
    .blankRun 1, .wildcardImport, .indent .tab]⟩
  unitScope := .type
  thresholds := ({} : Thresholds).toPolicy
  verdict := ⟨false, false⟩

/-- A working directory with one file: braces with two blank lines in between. -/
def blankRunTree : FileTree where
  workingDirectory := ⟨"/w"⟩
  nodes := [(["w".toList], .directory),
    (["w".toList, "B.java".toList], .file [123, 10, 10, 10, 125])]

/-- Of two files one cannot be read. In whichever order they are given, the scan can be finished,
the result is the same, and it has the one violation of the file that is there. -/
theorem run_schedule_independent_blankRunTree :
    ofConfig quietConfig = .ok quietGate ∧ DistinctFiles [⟨"B.java"⟩, ⟨"A.java"⟩] ∧
      (∃ s, ScanSteps quietGate blankRunTree (.start [⟨"A.java"⟩, ⟨"B.java"⟩]) s ∧
        quietGate.resultOf blankRunTree s.collector.finish none s.cancelled =
          quietGate.run blankRunTree [⟨"B.java"⟩, ⟨"A.java"⟩] none false) ∧
      (quietGate.run blankRunTree [⟨"B.java"⟩, ⟨"A.java"⟩] none false).filesScanned = 1 ∧
      ((quietGate.run blankRunTree [⟨"B.java"⟩, ⟨"A.java"⟩] none false).violations.filter
        fun v => v.path = ⟨"B.java"⟩).map (fun v => (v.rule, v.line)) =
          [("consecutive-blank-lines", 3)] := by
  have hconfig : ofConfig quietConfig = .ok quietGate := rfl
  have hfiles : DistinctFiles [⟨"B.java"⟩, ⟨"A.java"⟩] := by
    unfold DistinctFiles
    decide +kernel
  obtain ⟨hschedules, ⟨-, -, -, -, hscanned⟩, hown⟩ :=
    run_schedule_independent hconfig blankRunTree hfiles none
  refine ⟨hconfig, hfiles, ?_, hscanned.trans (by decide +kernel), ?_⟩
  · have hperm : [(⟨"A.java"⟩ : Path), ⟨"B.java"⟩].Perm [⟨"B.java"⟩, ⟨"A.java"⟩] := .swap _ _ _
    obtain ⟨-, hscans⟩ := hschedules _ hperm
    obtain ⟨⟨s, hsteps, hfin, hc⟩, -⟩ := hscans _ .refl rfl
    exact ⟨s, hsteps, (hscans s hsteps hc).2 hfin⟩
  · rw [hown _ List.mem_cons_self]
    decide +kernel

end Gate

end QualityGate
