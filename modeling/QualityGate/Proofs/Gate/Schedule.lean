import QualityGate.Gate
import Mathlib.Tactic

/-!
The scan of a run as concurrent work. Every file has its own piece of work: it is admitted, unless
the scan was cancelled by then, it is read and checked, and what it reports is handed over to the
collector of the scan in one step. The steps of different files follow each other in any order, so a
run of the relation `ScanStep` is a schedule for any number of workers; the scan may be cancelled
between any two steps, and stays cancelled.

* `ScanStep`: what one step can do.
* `Consistent`, `consistent_of_steps`: what every state of a scan has in common. The collector holds
  the reports that were handed over, each of them once and in some order, and each report is the one
  of its file.
* `exists_finished`: work that was begun can be finished, whatever was done so far.
-/

namespace QualityGate

/-- How far the work on a file has come. -/
inductive FileWork where
  | waiting
  /-- The scan was not cancelled when the work on the file began. -/
  | admitted
  | checked (outcome : FileOutcome)
  /-- The collector has the report of the file. -/
  | handedOver (outcome : FileOutcome)
  /-- The scan was cancelled before the work on the file began. -/
  | dropped
  deriving DecidableEq, Repr

namespace FileWork

/-- Nothing is left to do for the file. -/
def isDone : FileWork → Bool
  | handedOver _ | dropped => true
  | waiting | admitted | checked _ => false

/-- The report that the collector has. -/
def handedOver? : FileWork → Option FileOutcome
  | handedOver outcome => some outcome
  | _ => none

/-- The number of steps that are left. -/
def stepsLeft : FileWork → ℕ
  | waiting => 3
  | admitted => 2
  | checked _ => 1
  | handedOver _ | dropped => 0

end FileWork

/-- The state of a scan: its files with the work on each of them, what the collector has, and
whether the scan was cancelled. -/
structure ScanState where
  files : List (Path × FileWork)
  collector : Collector
  cancelled : Bool
  deriving DecidableEq, Repr

namespace ScanState

/-- Before the first step. -/
def start (files : List Path) : ScanState := ⟨files.map fun p => (p, .waiting), .empty, false⟩

/-- Nothing is left to do. -/
def Finished (s : ScanState) : Prop := ∀ f ∈ s.files, f.2.isDone = true

/-- The reports that were handed over, in the order of the files. -/
def handedOver (s : ScanState) : List FileOutcome := s.files.filterMap fun f => f.2.handedOver?

end ScanState

/-- One step of a scan: the work on one file goes on, or the scan is cancelled. -/
inductive ScanStep (g : Gate) (t : FileTree) : ScanState → ScanState → Prop where
  | enter (before after : List (Path × FileWork)) (p : Path) (c : Collector) :
      ScanStep g t ⟨before ++ (p, .waiting) :: after, c, false⟩
        ⟨before ++ (p, .admitted) :: after, c, false⟩
  | drop (before after : List (Path × FileWork)) (p : Path) (c : Collector) :
      ScanStep g t ⟨before ++ (p, .waiting) :: after, c, true⟩
        ⟨before ++ (p, .dropped) :: after, c, true⟩
  | check (before after : List (Path × FileWork)) (p : Path) (c : Collector) (cancelled : Bool) :
      ScanStep g t ⟨before ++ (p, .admitted) :: after, c, cancelled⟩
        ⟨before ++ (p, .checked (g.scanFile t p)) :: after, c, cancelled⟩
  | handOver (before after : List (Path × FileWork)) (p : Path) (o : FileOutcome) (c : Collector)
      (cancelled : Bool) :
      ScanStep g t ⟨before ++ (p, .checked o) :: after, c, cancelled⟩
        ⟨before ++ (p, .handedOver o) :: after, c.add o, cancelled⟩
  | cancel (files : List (Path × FileWork)) (c : Collector) (cancelled : Bool) :
      ScanStep g t ⟨files, c, cancelled⟩ ⟨files, c, true⟩

/-- Steps one after the other. -/
abbrev ScanSteps (g : Gate) (t : FileTree) : ScanState → ScanState → Prop :=
  Relation.ReflTransGen (ScanStep g t)

/-! ### What the collector has -/

namespace FileOutcome

/-- The violations that a file reports. -/
def violations : FileOutcome → List Violation
  | scanned vs => vs
  | skipped _ => []

/-- The notice that a file reports. -/
def notice? : FileOutcome → Option Notice
  | scanned _ => none
  | skipped n => some n

/-- The file could be read. -/
def isScanned : FileOutcome → Bool
  | scanned _ => true
  | skipped _ => false

end FileOutcome

namespace Collector

/-- One report more, the others first. -/
lemma ofOutcomes_concat (os : List FileOutcome) (o : FileOutcome) :
    ofOutcomes (os ++ [o]) = (ofOutcomes os).add o := by
  rw [ofOutcomes, List.foldl_append]
  rfl

/-- The collector keeps the violations of all reports, those of one report together. -/
lemma violations_ofOutcomes (os : List FileOutcome) :
    (ofOutcomes os).violations = os.flatMap FileOutcome.violations := by
  induction os using List.reverseRecOn with
  | nil => rfl
  | append_singleton os o ih =>
      rw [ofOutcomes_concat, List.flatMap_append, ← ih]
      cases o <;> simp [add, FileOutcome.violations]

/-- The collector keeps the notices of all reports. -/
lemma notices_ofOutcomes (os : List FileOutcome) :
    (ofOutcomes os).notices = os.filterMap FileOutcome.notice? := by
  induction os using List.reverseRecOn with
  | nil => rfl
  | append_singleton os o ih =>
      rw [ofOutcomes_concat, List.filterMap_append, ← ih]
      cases o <;> simp [add, FileOutcome.notice?]

/-- The collector counts the files that could be read. -/
lemma filesScanned_ofOutcomes (os : List FileOutcome) :
    (ofOutcomes os).filesScanned = os.countP FileOutcome.isScanned := by
  induction os using List.reverseRecOn with
  | nil => rfl
  | append_singleton os o ih =>
      rw [ofOutcomes_concat, List.countP_append, ← ih]
      cases o <;> simp [add, FileOutcome.isScanned]

end Collector

/-! ### The invariant of a scan -/

/-- What every state of a scan of the given files has in common. -/
structure Consistent (g : Gate) (t : FileTree) (files : List Path) (s : ScanState) : Prop where
  /-- No file is lost, added or moved. -/
  paths : s.files.map Prod.fst = files
  /-- What was found in a file is what the file reports. -/
  outcomes : ∀ f ∈ s.files, ∀ o, f.2 = .checked o ∨ f.2 = .handedOver o → o = g.scanFile t f.1
  /-- The collector has each report that was handed over, once. -/
  collected : ∃ os, os.Perm s.handedOver ∧ s.collector = Collector.ofOutcomes os
  /-- Files are dropped only after the scan was cancelled. -/
  admitted : s.cancelled = false → ∀ f ∈ s.files, f.2 ≠ .dropped

namespace Consistent

variable {g : Gate} {t : FileTree} {files : List Path}

/-- A scan starts consistently. -/
lemma start (g : Gate) (t : FileTree) (files : List Path) :
    Consistent g t files (.start files) where
  paths := by simp [ScanState.start, Function.comp_def]
  outcomes := by simp [ScanState.start]
  collected := ⟨[], by simp [ScanState.start, ScanState.handedOver, FileWork.handedOver?], rfl⟩
  admitted := by simp [ScanState.start]

/-- Work on one file that hands nothing over keeps a state consistent, if it leaves a report alone
and drops the file only in a cancelled scan. -/
lemma replace {before after : List (Path × FileWork)} {p : Path} {w w' : FileWork} {c : Collector}
    {cancelled : Bool} (h : Consistent g t files ⟨before ++ (p, w) :: after, c, cancelled⟩)
    (hw : w.handedOver? = none) (hw' : w'.handedOver? = none)
    (hchecked : ∀ o, w' = .checked o → o = g.scanFile t p)
    (hdropped : cancelled = false → w' ≠ .dropped) :
    Consistent g t files ⟨before ++ (p, w') :: after, c, cancelled⟩ where
  paths := by simpa using h.paths
  outcomes := by
    have hout := h.outcomes
    simp only [List.forall_mem_append, List.forall_mem_cons] at hout ⊢
    refine ⟨hout.1, fun o ho => ?_, hout.2.2⟩
    rcases ho with rfl | rfl
    · exact hchecked o rfl
    · cases hw'
  collected := by
    obtain ⟨os, hperm, hc⟩ := h.collected
    refine ⟨os, ?_, hc⟩
    simpa [ScanState.handedOver, hw, hw'] using hperm
  admitted := by
    intro hc
    have hadm := h.admitted hc
    simp only [List.forall_mem_append, List.forall_mem_cons] at hadm ⊢
    exact ⟨hadm.1, hdropped hc, hadm.2.2⟩

/-- Handing a report over adds it to what the collector has. -/
lemma handOver {before after : List (Path × FileWork)} {p : Path} {o : FileOutcome}
    {c : Collector} {cancelled : Bool}
    (h : Consistent g t files ⟨before ++ (p, .checked o) :: after, c, cancelled⟩) :
    Consistent g t files ⟨before ++ (p, .handedOver o) :: after, c.add o, cancelled⟩ where
  paths := by simpa using h.paths
  outcomes := by
    have hout := h.outcomes
    simp only [List.forall_mem_append, List.forall_mem_cons] at hout ⊢
    refine ⟨hout.1, fun o' ho' => ?_, hout.2.2⟩
    rcases ho' with ho' | ho' <;> cases ho'
    exact hout.2.1 o (.inl rfl)
  collected := by
    obtain ⟨os, hperm, hc⟩ := h.collected
    refine ⟨os ++ [o], ?_, ?_⟩
    · simp only [ScanState.handedOver, List.filterMap_append, List.filterMap_cons,
        FileWork.handedOver?] at hperm ⊢
      exact (List.perm_append_singleton o os).trans
        ((hperm.cons o).trans List.perm_middle.symm)
    · rw [Collector.ofOutcomes_concat, ← hc]
  admitted := by
    intro hc
    have hadm := h.admitted hc
    simp only [List.forall_mem_append, List.forall_mem_cons] at hadm ⊢
    exact ⟨hadm.1, by simp, hadm.2.2⟩

/-- **One step** keeps a state consistent. -/
theorem step {s s' : ScanState} (h : Consistent g t files s) (hs : ScanStep g t s s') :
    Consistent g t files s' := by
  cases hs with
  | enter before after p c => exact h.replace rfl rfl (by simp) (by simp)
  | drop before after p c => exact h.replace rfl rfl (by simp) (by simp)
  | check before after p c cancelled => exact h.replace rfl rfl (by simp) (by simp)
  | handOver before after p o c cancelled => exact h.handOver
  | cancel fs c cancelled => exact ⟨h.paths, h.outcomes, h.collected, by simp⟩

end Consistent

/-- **Every state of a scan is consistent.** -/
theorem consistent_of_steps {g : Gate} {t : FileTree} {files : List Path} {s : ScanState}
    (h : ScanSteps g t (.start files) s) : Consistent g t files s := by
  induction h with
  | refl => exact Consistent.start g t files
  | tail _ hs ih => exact ih.step hs

/-! ### Progress -/

/-- The number of steps that are left for all files. -/
def ScanState.stepsLeft (s : ScanState) : ℕ := (s.files.map fun f => f.2.stepsLeft).sum

/-- While work is left some file can go on, and that is a step less. -/
lemma exists_step_of_not_finished (g : Gate) (t : FileTree) {s : ScanState} (h : ¬ s.Finished) :
    ∃ s', ScanStep g t s s' ∧ s'.cancelled = s.cancelled ∧ s'.stepsLeft < s.stepsLeft := by
  obtain ⟨files, c, cancelled⟩ := s
  simp only [ScanState.Finished, not_forall] at h
  obtain ⟨⟨p, w⟩, hmem, hw⟩ := h
  obtain ⟨before, after, rfl⟩ := List.append_of_mem hmem
  cases w with
  | waiting =>
      cases cancelled with
      | false => exact ⟨_, .enter before after p c, rfl, by
          simp [ScanState.stepsLeft, FileWork.stepsLeft]⟩
      | true => exact ⟨_, .drop before after p c, rfl, by
          simp [ScanState.stepsLeft, FileWork.stepsLeft]⟩
  | admitted => exact ⟨_, .check before after p c cancelled, rfl, by
      simp [ScanState.stepsLeft, FileWork.stepsLeft]⟩
  | checked o => exact ⟨_, .handOver before after p o c cancelled, rfl, by
      simp [ScanState.stepsLeft, FileWork.stepsLeft]⟩
  | handedOver o => exact absurd rfl hw
  | dropped => exact absurd rfl hw

/-- From every state the scan can be finished without being cancelled on the way. -/
theorem exists_finished (g : Gate) (t : FileTree) (s : ScanState) :
    ∃ s', ScanSteps g t s s' ∧ s'.Finished ∧ s'.cancelled = s.cancelled := by
  -- by induction on the number of steps that are left, which every step of a file makes smaller
  induction hn : s.stepsLeft using Nat.strong_induction_on generalizing s with
  | _ n ih =>
    by_cases hfin : s.Finished
    · exact ⟨s, .refl, hfin, rfl⟩
    · obtain ⟨s₁, hstep, hcancel, hless⟩ := exists_step_of_not_finished g t hfin
      obtain ⟨s₂, hsteps, hfin₂, hcancel₂⟩ := ih _ (hn ▸ hless) s₁ rfl
      exact ⟨s₂, .head hstep hsteps, hfin₂, hcancel₂.trans hcancel⟩

end QualityGate
