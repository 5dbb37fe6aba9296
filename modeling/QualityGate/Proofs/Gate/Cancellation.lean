import QualityGate.Proofs.Gate.Independence

/-!
Cancelling a scan. The scan may be cancelled before, between or after the steps of its workers, and
the mark is read once more when the scan is over. Whatever the schedule, a file is left out only by
a scan that was cancelled before the work on it began, and then the result says so.

* `ScanState.recorded`, `ScanState.noticed`, `ScanState.leftOut`: the files of a scan by what became
  of them.
* `WorkStep`, `workStep_of_step`: what one step of a scan can do to the work on one file.
* `work_of_steps`: work that is done stays as it is, and work that began goes on.
* `contents_of_steps`: at every moment the collector has whole files.
* `Gate.scan_accounts_for_files`: **a scan accounts for every file**, cancelled or not.
-/

namespace QualityGate

/-! ### One file -/

/-- The work on a file began while the scan was not cancelled. -/
def FileWork.isBegun : FileWork → Bool
  | admitted | checked _ | handedOver _ => true
  | waiting | dropped => false

/-- What one step of a scan can do to the work on one file, in a scan that is cancelled or not. -/
inductive WorkStep (g : Gate) (t : FileTree) (p : Path) : Bool → FileWork → FileWork → Prop where
  | stay (cancelled : Bool) (w : FileWork) : WorkStep g t p cancelled w w
  | enter : WorkStep g t p false .waiting .admitted
  | drop : WorkStep g t p true .waiting .dropped
  | check (cancelled : Bool) : WorkStep g t p cancelled .admitted (.checked (g.scanFile t p))
  | handOver (cancelled : Bool) (o : FileOutcome) :
      WorkStep g t p cancelled (.checked o) (.handedOver o)

namespace WorkStep

variable {g : Gate} {t : FileTree} {p : Path} {cancelled : Bool} {w w' : FileWork}

/-- Work that is done stays as it is. -/
lemma eq_of_isDone (h : WorkStep g t p cancelled w w') (hw : w.isDone = true) : w' = w := by
  cases h with
  | stay => rfl
  | enter | drop | check | handOver => cases hw

/-- Work that began goes on. -/
lemma isBegun (h : WorkStep g t p cancelled w w') (hw : w.isBegun = true) : w'.isBegun = true := by
  cases h with
  | stay => exact hw
  | check | handOver => rfl
  | enter | drop => cases hw

end WorkStep

variable {g : Gate} {t : FileTree} {files : List Path} {s s' : ScanState}

/-- Replacing a member of a list steps at its place and stays elsewhere. -/
lemma exists_workStep_replace {before after : List (Path × FileWork)} {p : Path} {w w' : FileWork}
    {cancelled : Bool} (h : WorkStep g t p cancelled w w') {i : ℕ} {q : Path} {v : FileWork}
    (hi : (before ++ (p, w) :: after)[i]? = some (q, v)) :
    ∃ v', (before ++ (p, w') :: after)[i]? = some (q, v') ∧ WorkStep g t q cancelled v v' := by
  rcases Nat.lt_or_ge i before.length with hlt | hge
  · rw [List.getElem?_append_left hlt] at hi ⊢
    exact ⟨v, hi, .stay cancelled v⟩
  · rw [List.getElem?_append_right hge] at hi ⊢
    cases hk : i - before.length with
    | zero =>
        rw [hk, List.getElem?_cons_zero] at hi
        cases hi
        exact ⟨w', List.getElem?_cons_zero, h⟩
    | succ k =>
        rw [hk, List.getElem?_cons_succ] at hi
        exact ⟨v, hi, .stay cancelled v⟩

/-- What one step of a scan does to the work on one file. -/
theorem workStep_of_step (h : ScanStep g t s s') {i : ℕ} {p : Path} {w : FileWork}
    (hi : s.files[i]? = some (p, w)) :
    ∃ w', s'.files[i]? = some (p, w') ∧ WorkStep g t p s.cancelled w w' := by
  cases h with
  | enter before after q c => exact exists_workStep_replace .enter hi
  | drop before after q c => exact exists_workStep_replace .drop hi
  | check before after q c cancelled => exact exists_workStep_replace (.check cancelled) hi
  | handOver before after q o c cancelled =>
      exact exists_workStep_replace (.handOver cancelled o) hi
  | cancel fs c cancelled => exact ⟨w, hi, .stay cancelled w⟩

/-- Work that is done stays as it is, and work that began goes on. -/
theorem work_of_steps (h : ScanSteps g t s s') {i : ℕ} {p : Path} {w : FileWork}
    (hi : s.files[i]? = some (p, w)) :
    ∃ w', s'.files[i]? = some (p, w') ∧ (w.isDone = true → w' = w) ∧
      (w.isBegun = true → w'.isBegun = true) := by
  induction h with
  | refl => exact ⟨w, hi, fun _ => rfl, id⟩
  | tail _ hstep ih =>
      obtain ⟨w₁, hi₁, hdone, hbegun⟩ := ih
      obtain ⟨w₂, hi₂, hwork⟩ := workStep_of_step hstep hi₁
      refine ⟨w₂, hi₂, fun hw => ?_, fun hw => hwork.isBegun (hbegun hw)⟩
      have heq := hdone hw
      exact (hwork.eq_of_isDone (heq ▸ hw)).trans heq

/-- A scan that was cancelled stays so. -/
lemma cancelled_of_steps (h : ScanSteps g t s s') (hc : s.cancelled = true) :
    s'.cancelled = true := by
  induction h with
  | refl => exact hc
  | tail _ hstep ih =>
      cases hstep with
      | enter => cases ih
      | drop | check | handOver => exact ih
      | cancel => rfl

/-! ### All files -/

namespace ScanState

/-- The files whose reports the collector has. -/
def handled (s : ScanState) : List Path :=
  (s.files.filter fun f => f.2.handedOver?.isSome).map Prod.fst

/-- The files whose violations the collector has. -/
def recorded (s : ScanState) (t : FileTree) : List Path :=
  s.handled.filter fun p => (t.read p).isOk

/-- The files for which the collector has a notice. -/
def noticed (s : ScanState) (t : FileTree) : List Path :=
  s.handled.filter fun p => !(t.read p).isOk

/-- The files that were left out. -/
def leftOut (s : ScanState) : List Path := (s.files.filter fun f => f.2 = .dropped).map Prod.fst

/-- Every file that was handled is recorded or noticed, and no file is both. -/
lemma length_recorded_add_noticed (s : ScanState) (t : FileTree) :
    (s.recorded t).length + (s.noticed t).length = s.handled.length :=
  (List.length_eq_length_filter_add _).symm

end ScanState

/-- What was handed over are the reports of the files that were handled. -/
lemma Consistent.handedOver_eq (h : Consistent g t files s) :
    s.handedOver = s.handled.map (g.scanFile t) := by
  have hout := h.outcomes
  unfold ScanState.handedOver ScanState.handled
  generalize s.files = fs at hout ⊢
  induction fs with
  | nil => rfl
  | cons f fs ih =>
      obtain ⟨p, w⟩ := f
      obtain ⟨hf, hfs⟩ := List.forall_mem_cons.1 hout
      cases w with
      | handedOver o =>
          have ho : o = g.scanFile t p := hf o (.inr rfl)
          exact congrArg₂ List.cons ho (ih hfs)
      | waiting | admitted | checked _ | dropped =>
          exact ih hfs

namespace Gate

/-- A file that cannot be read has no violations. -/
lemma violationsIn_of_not_isOk (g : Gate) {t : FileTree} {p : Path}
    (h : ¬(t.read p).isOk = true) : g.violationsIn t p = [] := by
  cases hp : t.read p with
  | ok content => exact absurd (by rw [hp]; rfl) h
  | error e => rw [violationsIn, hp]

/-- A file has a notice exactly if it cannot be read. -/
lemma isSome_noticeFor? (t : FileTree) (p : Path) :
    (noticeFor? t p).isSome = !(t.read p).isOk := by
  unfold noticeFor?
  cases t.read p <;> rfl

/-- Only files that can be read have violations. -/
lemma flatMap_violationsIn_filter (g : Gate) (t : FileTree) (ps : List Path) :
    (ps.filter fun p => (t.read p).isOk).flatMap (g.violationsIn t) =
      ps.flatMap (g.violationsIn t) := by
  induction ps with
  | nil => rfl
  | cons p ps ih =>
      rw [List.flatMap_cons, List.filter_cons, ← ih]
      split_ifs with hp
      · rw [List.flatMap_cons]
      · rw [g.violationsIn_of_not_isOk hp, List.nil_append]

/-- Only files that cannot be read have notices. -/
lemma filterMap_noticeFor?_filter (t : FileTree) (ps : List Path) :
    (ps.filter fun p => !(t.read p).isOk).filterMap (noticeFor? t) =
      ps.filterMap (noticeFor? t) := by
  rw [List.filterMap_filter]
  refine List.filterMap_congr fun p _ => ?_
  split_ifs with hp
  · rfl
  · rw [← isSome_noticeFor?, Bool.not_eq_true, Option.isSome_eq_false_iff,
      Option.isNone_iff_eq_none] at hp
    exact hp.symm

/-- Every file that cannot be read has a notice. -/
lemma length_filterMap_noticeFor? (t : FileTree) (ps : List Path) :
    ((ps.filter fun p => !(t.read p).isOk).filterMap (noticeFor? t)).length =
      (ps.filter fun p => !(t.read p).isOk).length := by
  rw [filterMap_noticeFor?_filter, List.length_filterMap_eq_countP, List.countP_eq_length_filter]
  simp only [isSome_noticeFor?]

end Gate

/-- **At every moment the collector has whole files**: the violations of each recorded file, with
one file counted for them, and one notice for each noticed file. -/
theorem contents_of_steps (h : ScanSteps g t (.start files) s) :
    s.collector.violations.Perm ((s.recorded t).flatMap (g.violationsIn t)) ∧
      s.collector.notices.Perm ((s.noticed t).filterMap (Gate.noticeFor? t)) ∧
      s.collector.filesScanned = (s.recorded t).length := by
  have hcons := consistent_of_steps h
  obtain ⟨os, hperm, hcollector⟩ := hcons.collected
  rw [hcons.handedOver_eq] at hperm
  rw [hcollector, ScanState.recorded, ScanState.noticed, Gate.flatMap_violationsIn_filter,
    Gate.filterMap_noticeFor?_filter, ← List.countP_eq_length_filter]
  exact Gate.contents_of_perm hperm

/-! ### Finished scans -/

/-- In a finished scan every file has handed its report over, or was left out. -/
lemma Consistent.work_of_finished (h : Consistent g t files s) (hfin : s.Finished) :
    ∀ f ∈ s.files, f.2 = .handedOver (g.scanFile t f.1) ∨ f.2 = .dropped := by
  rintro ⟨p, w⟩ hf
  have hdone := hfin _ hf
  cases w with
  | handedOver o => exact .inl (congrArg _ (h.outcomes _ hf o (.inr rfl)))
  | dropped => exact .inr rfl
  | waiting | admitted | checked o => cases hdone

/-- In a finished scan every file was handled or left out. -/
lemma Consistent.length_handled_add_leftOut (h : Consistent g t files s) (hfin : s.Finished) :
    s.handled.length + s.leftOut.length = files.length := by
  have hdropped : s.leftOut.length =
      (s.files.filter fun f => !f.2.handedOver?.isSome).length := by
    rw [ScanState.leftOut, List.length_map]
    refine congrArg _ (List.filter_congr fun f hf => ?_)
    rcases h.work_of_finished hfin f hf with hw | hw <;> simp [hw, FileWork.handedOver?]
  rw [hdropped, ScanState.handled, List.length_map, ← h.paths, List.length_map]
  exact (List.length_eq_length_filter_add _).symm

/-- Files are left out only of a scan that was cancelled. -/
lemma Consistent.cancelled_of_leftOut (h : Consistent g t files s) (hleft : s.leftOut ≠ []) :
    s.cancelled = true := by
  by_contra hc
  refine hleft (List.map_eq_nil_iff.2 (List.filter_eq_nil_iff.2 fun f hf => ?_))
  simpa using h.admitted (Bool.eq_false_iff.2 hc) f hf

/-- Work that began before a scan was finished is handed over in it. -/
lemma handedOver_of_isBegun (h : ScanSteps g t (.start files) s) (hsteps : ScanSteps g t s s')
    (hfin : s'.Finished) {i : ℕ} {f : Path × FileWork} (hi : s.files[i]? = some f)
    (hbegun : f.2.isBegun = true) :
    s'.files[i]? = some (f.1, .handedOver (g.scanFile t f.1)) := by
  obtain ⟨w, hi', -, hw⟩ := work_of_steps hsteps hi
  have hcons := consistent_of_steps (h.trans hsteps)
  rcases hcons.work_of_finished hfin _ (List.mem_of_getElem? hi') with hover | hdropped
  · rw [hi', show w = _ from hover]
  · have hlater := hw hbegun
    rw [show w = .dropped from hdropped] at hlater
    cases hlater

/-- Once a scan is cancelled no work begins. -/
lemma not_isBegun_of_steps (h : ScanSteps g t s s') (hc : s.cancelled = true)
    (hfiles : ∀ f ∈ s.files, f.2.isBegun = false) : ∀ f ∈ s'.files, f.2.isBegun = false := by
  induction h with
  | refl => exact hfiles
  | tail hsteps hstep ih =>
      have hc' := cancelled_of_steps hsteps hc
      cases hstep with
      | enter => cases hc'
      | drop before after p c =>
          simp only [List.forall_mem_append, List.forall_mem_cons] at ih ⊢
          exact ⟨ih.1, rfl, ih.2.2⟩
      | check before after p c | handOver before after p o c =>
          simp only [List.forall_mem_append, List.forall_mem_cons] at ih
          cases ih.2.1
      | cancel => exact ih

/-- The collector has nothing of a scan in which no work has begun. -/
lemma Consistent.collector_eq_empty (h : Consistent g t files s)
    (hfiles : ∀ f ∈ s.files, f.2.isBegun = false) : s.collector = .empty := by
  have hnone : s.handedOver = [] := by
    refine List.filterMap_eq_nil_iff.2 fun f hf => ?_
    have hf' := hfiles f hf
    cases hw : f.2 with
    | handedOver o => rw [hw] at hf'; cases hf'
    | waiting | admitted | checked o | dropped => rfl
  obtain ⟨os, hperm, hcollector⟩ := h.collected
  rw [hnone] at hperm
  rw [hcollector, hperm.eq_nil]
  rfl

namespace Gate

/-- What a finished scan reports: the violations of the recorded files in the order of reports, a
count of these files, and one notice for each noticed file. Where that is not all files, the scan
was cancelled. -/
lemma resultOf_contents (hsteps : ScanSteps g t (.start files) s) (hfin : s.Finished)
    (report? : Option Path) (cancelled : Bool) :
    let r := g.resultOf t s.collector.finish report? cancelled
    r.violations.Perm ((s.recorded t).flatMap (g.violationsIn t)) ∧
      r.violations.Pairwise (fun v w => v.order w ≠ .gt) ∧
      r.notices.Perm ((s.noticed t).filterMap (noticeFor? t)) ∧
      r.filesScanned = (s.recorded t).length ∧ r.notices.length = (s.noticed t).length ∧
      (r.filesScanned + r.notices.length < files.length → s.cancelled = true) := by
  obtain ⟨hviolations, hnotices, hscanned⟩ := contents_of_steps hsteps
  have hnotices' := (Collector.finish_notices_perm s.collector).trans hnotices
  have hlength : s.collector.finish.notices.length = (s.noticed t).length :=
    hnotices'.length_eq.trans (length_filterMap_noticeFor? t s.handled)
  refine ⟨(Collector.finish_violations_perm _).trans hviolations,
    pairwise_mergeSort_of_transCmp Violation.order _, hnotices', hscanned, hlength, fun hless => ?_⟩
  have hcons := consistent_of_steps hsteps
  refine hcons.cancelled_of_leftOut fun hnone => ?_
  have hall : s.handled.length + s.leftOut.length = files.length :=
    hcons.length_handled_add_leftOut hfin
  have hsplit := s.length_recorded_add_noticed t
  have hreported : s.collector.filesScanned + s.collector.finish.notices.length < files.length :=
    hless
  rw [hnone, List.length_nil] at hall
  omega

/-- **A scan accounts for every file**, whenever it is cancelled and in whatever order its steps
are taken.

At every moment the collector has, of each recorded file, all violations and one count, and of each
noticed file one notice; what became of a file does not change any more; and the scan can be
finished. A file whose work began is recorded or noticed in the end.

When all is done, every file was handled once or left out, and the result, for which it is read
once more whether the scan was cancelled, has exactly the violations of the recorded files, in
order. If it has fewer reports than there are files, it says that the scan was cancelled. A scan
that was cancelled before any work began has the result of the cancelled run. -/
theorem scan_accounts_for_files (hsteps : ScanSteps g t (.start files) s)
    (report? : Option Path) :
    (s.files.map Prod.fst = files ∧
      s.collector.violations.Perm ((s.recorded t).flatMap (g.violationsIn t)) ∧
      s.collector.notices.Perm ((s.noticed t).filterMap (noticeFor? t)) ∧
      s.collector.filesScanned = (s.recorded t).length) ∧
    (∃ s', ScanSteps g t s s' ∧ s'.Finished) ∧
    ∀ s', ScanSteps g t s s' →
      (s.cancelled = true → s'.cancelled = true) ∧
      (∀ (i : ℕ) (f : Path × FileWork), s.files[i]? = some f → f.2.isDone = true →
        s'.files[i]? = some f) ∧
      (s'.Finished → ∀ (i : ℕ) (f : Path × FileWork), s.files[i]? = some f → f.2.isBegun = true →
        s'.files[i]? = some (f.1, .handedOver (g.scanFile t f.1))) ∧
      (s.Finished →
        let r := g.resultOf t s.collector.finish report? s'.cancelled
        (∀ f ∈ s.files, f.2 = .handedOver (g.scanFile t f.1) ∨ f.2 = .dropped) ∧
        r.violations.Perm ((s.recorded t).flatMap (g.violationsIn t)) ∧
        r.violations.Pairwise (fun v w => v.order w ≠ .gt) ∧
        r.notices.Perm ((s.noticed t).filterMap (noticeFor? t)) ∧
        r.filesScanned = (s.recorded t).length ∧ r.notices.length = (s.noticed t).length ∧
        (r.filesScanned + r.notices.length < files.length → r.cancelled = true)) ∧
      (s.cancelled = true → (∀ f ∈ s.files, f.2.isBegun = false) →
        g.resultOf t s'.collector.finish report? s'.cancelled = g.run t files report? true) := by
  have hcons := consistent_of_steps hsteps
  refine ⟨⟨hcons.paths, contents_of_steps hsteps⟩, ?_, fun s' hsteps' =>
    ⟨cancelled_of_steps hsteps', fun i f hi hdone => ?_,
      fun hfin i f hi hbegun => handedOver_of_isBegun hsteps hsteps' hfin hi hbegun,
      fun hfin => ?_, fun hc hwaiting => ?_⟩⟩
  · obtain ⟨s', hsteps', hfin, -⟩ := exists_finished g t s
    exact ⟨s', hsteps', hfin⟩
  · obtain ⟨w, hi', hw, -⟩ := work_of_steps hsteps' hi
    rw [hi', hw hdone]
  · obtain ⟨hviolations, hsorted, hnotices, hscanned, hlength, hcancelled⟩ :=
      resultOf_contents hsteps hfin report? s'.cancelled
    exact ⟨hcons.work_of_finished hfin, hviolations, hsorted, hnotices, hscanned, hlength,
      fun hless => cancelled_of_steps hsteps' (hcancelled hless)⟩
  · have hwaiting' := not_isBegun_of_steps hsteps' hc hwaiting
    have hcons' := consistent_of_steps (hsteps.trans hsteps')
    rw [hcons'.collector_eq_empty hwaiting', cancelled_of_steps hsteps' hc]
    rfl

/-- Of two files one is begun, then the scan is cancelled: the file is recorded, the other one is
left out, and the result says that the scan was cancelled. -/
theorem scan_accounts_for_files_blankRunTree :
    ∃ s, ScanSteps quietGate blankRunTree (.start [⟨"B.java"⟩, ⟨"A.java"⟩]) s ∧ s.Finished ∧
      s.recorded blankRunTree = [⟨"B.java"⟩] ∧ s.noticed blankRunTree = [] ∧
      s.leftOut = [⟨"A.java"⟩] ∧
      (quietGate.resultOf blankRunTree s.collector.finish none s.cancelled).filesScanned = 1 ∧
      (quietGate.resultOf blankRunTree s.collector.finish none s.cancelled).cancelled = true := by
  have hsteps : ScanSteps quietGate blankRunTree (.start [⟨"B.java"⟩, ⟨"A.java"⟩])
      ⟨[(⟨"B.java"⟩, .handedOver (quietGate.scanFile blankRunTree ⟨"B.java"⟩)),
        (⟨"A.java"⟩, .dropped)],
        Collector.empty.add (quietGate.scanFile blankRunTree ⟨"B.java"⟩), true⟩ := by
    refine .head (.enter [] [(⟨"A.java"⟩, .waiting)] ⟨"B.java"⟩ .empty) ?_
    refine .head (.cancel _ _ _) ?_
    refine .head (.drop [(⟨"B.java"⟩, .admitted)] [] ⟨"A.java"⟩ .empty) ?_
    refine .head (.check [] [(⟨"A.java"⟩, .dropped)] ⟨"B.java"⟩ .empty true) ?_
    exact .single (.handOver [] [(⟨"A.java"⟩, .dropped)] ⟨"B.java"⟩ _ .empty true)
  have hfin : ScanState.Finished ⟨[(⟨"B.java"⟩,
      .handedOver (quietGate.scanFile blankRunTree ⟨"B.java"⟩)), (⟨"A.java"⟩, .dropped)],
      Collector.empty.add (quietGate.scanFile blankRunTree ⟨"B.java"⟩), true⟩ := by
    simp [ScanState.Finished, FileWork.isDone]
  obtain ⟨-, -, hlater⟩ := scan_accounts_for_files hsteps none
  obtain ⟨-, -, -, hresult, -⟩ := hlater _ .refl
  obtain ⟨-, -, -, -, hscanned, hnotices, hcancelled⟩ := hresult hfin
  have hrecorded : [(⟨"B.java"⟩ : Path)].filter (fun p => (blankRunTree.read p).isOk) =
      [⟨"B.java"⟩] := by decide +kernel
  have hnoticed : [(⟨"B.java"⟩ : Path)].filter (fun p => !(blankRunTree.read p).isOk) = [] := by
    decide +kernel
  have hone := hscanned.trans (congrArg List.length hrecorded)
  have hzero := hnotices.trans (congrArg List.length hnoticed)
  refine ⟨_, hsteps, hfin, hrecorded, hnoticed, rfl, hone, hcancelled ?_⟩
  rw [hone, hzero]
  decide

end Gate

end QualityGate
