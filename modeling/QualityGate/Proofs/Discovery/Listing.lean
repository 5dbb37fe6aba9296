import QualityGate.Proofs.File.Way
import QualityGate.Proofs.Gate.Independence
import Mathlib.Tactic

/-!
The files that are listed for some inputs. Every input that leads somewhere gives files; together
they are sorted, and of paths with the same components the first one stays. A path takes over from
its input how it begins and whether it goes up, and these two are all that can make two paths with
different components lead to the same file.

* `pairwise_sortPaths`, `exists_mem_sortPaths`: sorting leaves one path for each list of components.
* `mem_filesForAll_iff`: what some inputs stand for is what each of them stands for.
* `FileTree.IsWalked`, `mem_filesFor_iff`: what one input stands for.
* `IsListedFor`, `isListedFor_of_mem`: what is known about a path that an input stands for.
* `discover_lists_files_once`: **no file is listed twice**, unless inputs begin in different ways or
  go up.
-/

namespace QualityGate

open FileTree

/-! ### One path for each list of components -/

/-- The first path is not dropped. -/
lemma exists_dropRepeated_cons (p : Path) (ps : List Path) :
    ∃ more, dropRepeated (p :: ps) = p :: more := by
  cases ps with
  | nil => exact ⟨[], rfl⟩
  | cons q rest =>
      rw [dropRepeated]
      split
      · exact ⟨[], rfl⟩
      · split_ifs <;> exact ⟨_, rfl⟩

/-- What is left of two paths and more: what is left without the first one, which takes the place of
the second one if they are equal. -/
lemma dropRepeated_cons_cons (p q : Path) (rest : List Path) :
    ∃ more, dropRepeated (q :: rest) = q :: more ∧
      dropRepeated (p :: q :: rest) = if p.order q = .eq then p :: more else p :: q :: more := by
  obtain ⟨more, hmore⟩ := exists_dropRepeated_cons q rest
  exact ⟨more, hmore, by rw [dropRepeated, hmore]⟩

/-- Dropping adds nothing. -/
lemma mem_of_mem_dropRepeated {ps : List Path} {p : Path} (h : p ∈ dropRepeated ps) : p ∈ ps := by
  induction ps with
  | nil => cases h
  | cons q ps ih =>
      cases ps with
      | nil => exact h
      | cons r rest =>
          obtain ⟨more, hmore, hdrop⟩ := dropRepeated_cons_cons q r rest
          rw [hmore] at ih
          rw [hdrop] at h
          split_ifs at h
          · rcases List.mem_cons.1 h with rfl | h
            · exact List.mem_cons_self
            · exact List.mem_cons_of_mem q (ih (List.mem_cons_of_mem r h))
          · rcases List.mem_cons.1 h with rfl | h
            · exact List.mem_cons_self
            · exact List.mem_cons_of_mem q (ih h)

/-- Of every path one with the same components is left. -/
lemma exists_mem_dropRepeated {ps : List Path} {p : Path} (h : p ∈ ps) :
    ∃ q ∈ dropRepeated ps, q.components = p.components := by
  induction ps with
  | nil => cases h
  | cons q ps ih =>
      cases ps with
      | nil => exact ⟨p, h, rfl⟩
      | cons r rest =>
          obtain ⟨more, hmore, hdrop⟩ := dropRepeated_cons_cons q r rest
          rw [hmore] at ih
          rw [hdrop]
          rcases List.mem_cons.1 h with rfl | h
          · exact ⟨p, by split_ifs <;> exact List.mem_cons_self, rfl⟩
          · obtain ⟨s, hs, heq⟩ := ih h
            split_ifs with htie
            · rcases List.mem_cons.1 hs with rfl | hs
              · exact ⟨q, List.mem_cons_self, (Path.order_eq_iff.1 htie).trans heq⟩
              · exact ⟨s, List.mem_cons_of_mem q hs, heq⟩
            · exact ⟨s, List.mem_cons_of_mem q hs, heq⟩

/-- Of paths in order, those that are left are strictly in order. -/
lemma pairwise_dropRepeated {ps : List Path} (h : ps.Pairwise fun p q => p.order q ≠ .gt) :
    (dropRepeated ps).Pairwise fun p q => p.order q = .lt := by
  induction ps with
  | nil => exact List.Pairwise.nil
  | cons p ps ih =>
      obtain ⟨hp, hps⟩ := List.pairwise_cons.1 h
      cases ps with
      | nil => exact List.pairwise_singleton _ _
      | cons q rest =>
          obtain ⟨more, hmore, hdrop⟩ := dropRepeated_cons_cons p q rest
          have hlater := ih hps
          rw [hmore] at hlater
          obtain ⟨hq, hrest⟩ := List.pairwise_cons.1 hlater
          rw [hdrop]
          split_ifs with htie
          · refine List.pairwise_cons.2 ⟨fun r hr => ?_, hrest⟩
            rw [Std.TransCmp.congr_left htie]
            exact hq r hr
          · have hlt : p.order q = .lt := by
              cases hpq : p.order q with
              | lt => rfl
              | eq => exact absurd hpq htie
              | gt => exact absurd hpq (hp q List.mem_cons_self)
            refine List.pairwise_cons.2 ⟨List.forall_mem_cons.2 ⟨hlt, fun r hr => ?_⟩, hlater⟩
            exact Std.TransCmp.lt_trans hlt (hq r hr)

/-- **Sorted paths** are strictly in order. -/
theorem pairwise_sortPaths (ps : List Path) :
    (sortPaths ps).Pairwise fun p q => p.order q = .lt :=
  pairwise_dropRepeated (pairwise_mergeSort_of_transCmp Path.order ps)

lemma mem_of_mem_sortPaths {ps : List Path} {p : Path} (h : p ∈ sortPaths ps) : p ∈ ps :=
  List.mem_mergeSort.1 (mem_of_mem_dropRepeated h)

lemma exists_mem_sortPaths {ps : List Path} {p : Path} (h : p ∈ ps) :
    ∃ q ∈ sortPaths ps, q.components = p.components :=
  exists_mem_dropRepeated (List.mem_mergeSort.2 h)

/-- Of paths in order only repetitions are dropped. -/
lemma sortPaths_of_pairwise {ps : List Path} (h : ps.Pairwise fun p q => p.order q ≠ .gt) :
    sortPaths ps = dropRepeated ps := by
  rw [sortPaths, List.mergeSort_of_pairwise]
  exact h.imp fun hle => by simpa using hle

/-- No two sorted paths have the same components. -/
lemma distinctFiles_sortPaths (ps : List Path) : Gate.DistinctFiles (sortPaths ps) := by
  refine (pairwise_sortPaths ps).imp fun {p q} hlt hsame => ?_
  rw [Path.order_eq_iff.2 hsame] at hlt
  cases hlt

/-! ### What inputs stand for -/

variable {t : FileTree} {f : FileFilter} {useIgnoreFiles : Bool} {ps : List Path}

section Exists

variable (f useIgnoreFiles)

/-- An input that leads somewhere stands for some files. -/
lemma exists_filesFor {p : Path} (hp : t.isThere p = true) :
    ∃ files, filesFor t f useIgnoreFiles p = .ok files := by
  unfold filesFor isFile
  rw [hp]
  cases t.isDirectory p <;> exact ⟨_, rfl⟩

/-- Inputs that lead somewhere stand for some files. -/
lemma exists_filesForAll (hps : ∀ p ∈ ps, t.isThere p = true) :
    ∃ files, filesForAll t f useIgnoreFiles ps = .ok files := by
  induction ps with
  | nil => exact ⟨[], rfl⟩
  | cons p ps ih =>
      obtain ⟨hp, hps⟩ := List.forall_mem_cons.1 hps
      obtain ⟨files, hfiles⟩ := exists_filesFor f useIgnoreFiles hp
      obtain ⟨more, hmore⟩ := ih hps
      exact ⟨files ++ more, by rw [filesForAll, hfiles, hmore]⟩

end Exists

/-- What some inputs stand for is what each of them stands for. -/
lemma mem_filesForAll_iff {files : List Path} (h : filesForAll t f useIgnoreFiles ps = .ok files)
    {q : Path} :
    q ∈ files ↔ ∃ p ∈ ps, ∃ own, filesFor t f useIgnoreFiles p = .ok own ∧ q ∈ own := by
  induction ps generalizing files with
  | nil => cases h; simp
  | cons p ps ih =>
      rw [filesForAll] at h
      split at h
      · cases h
      · next own hown =>
        split at h
        · cases h
        · next more hmore =>
          cases h
          rw [List.mem_append, ih hmore]
          simp [hown]

/-- The files that are listed are those that the inputs stand for, sorted. -/
lemma discover_eq_ok_iff {files : List Path} :
    discover t f useIgnoreFiles ps = .ok files ↔
      ∃ all, filesForAll t f useIgnoreFiles ps = .ok all ∧ sortPaths all = files := by
  unfold discover
  cases filesForAll t f useIgnoreFiles ps <;> simp [Except.map]

/-- A path is met when a directory is walked: it is that of a file below the directory. Where ignore
files count, the directory is not the standard input and no ignore file leaves the file out. -/
def FileTree.IsWalked (t : FileTree) (useIgnoreFiles : Bool) (dir q : Path) : Prop :=
  ∃ root way content, t.locate dir = .ok root ∧ way ≠ [] ∧
    (root ++ way, Node.file content) ∈ t.nodes ∧
    (useIgnoreFiles = true → dir.isStandardInput = false ∧ t.isIgnored root way = false) ∧
    q = pathBelow dir way

/-- The files of a directory that is searched are those that are met when it is walked. -/
lemma mem_search_iff {dir q : Path} :
    q ∈ t.search useIgnoreFiles dir ↔ t.IsWalked useIgnoreFiles dir q := by
  unfold search IsWalked
  cases hroot : t.locate dir with
  | error e => simp
  | ok root =>
      simp only [Except.ok.injEq]
      split_ifs with hinput
      · simp only [Bool.and_eq_true] at hinput
        simp [hinput]
      · simp only [Bool.and_eq_true, not_and, Bool.not_eq_true] at hinput
        rw [List.mem_map]
        simp only [List.mem_filter, mem_filesBelow_iff, Bool.or_eq_true, Bool.not_eq_true']
        constructor
        · rintro ⟨way, ⟨⟨hne, content, hn⟩, hkept⟩, rfl⟩
          refine ⟨root, way, content, rfl, hne, hn, fun huse => ⟨hinput huse, ?_⟩, rfl⟩
          simpa [huse] using hkept
        · rintro ⟨_, way, content, rfl, hne, hn, hkept, rfl⟩
          refine ⟨way, ⟨⟨hne, content, hn⟩, ?_⟩, rfl⟩
          cases huse : useIgnoreFiles with
          | false => exact .inl rfl
          | true => exact .inr (hkept huse).2

/-- The paths that an input stands for are those that the filter takes of the paths that are met
below it, if it is a directory, or of the input itself, if it is a file. -/
lemma mem_filesFor_iff {p q : Path} {own : List Path}
    (hown : filesFor t f useIgnoreFiles p = .ok own) :
    q ∈ own ↔ f.accepts q = true ∧ (t.isDirectory p = true ∧ t.IsWalked useIgnoreFiles p q ∨
      t.isFile p = true ∧ q = p) := by
  unfold filesFor at hown
  split_ifs at hown with hdir hfile haccepts
  · cases hown
    have hnot : t.isFile p = false := by simp [isFile, hdir]
    simp [List.mem_filter, mem_search_iff, hdir, hnot, and_comm]
  · cases hown
    simp only [List.mem_singleton, hdir, Bool.false_eq_true, false_and, false_or, hfile, true_and]
    exact ⟨fun h => ⟨h ▸ haccepts, h⟩, And.right⟩
  · cases hown
    simp only [List.not_mem_nil, hdir, Bool.false_eq_true, false_and, false_or, false_iff, not_and]
    rintro haccepts' - rfl
    exact haccepts haccepts'

/-- A path that an input stands for is taken by the filter, and is the input itself, a file, or the
path of a file below it. -/
lemma mem_filesFor {p q : Path} {own : List Path}
    (hown : filesFor t f useIgnoreFiles p = .ok own) (hq : q ∈ own) :
    f.accepts q = true ∧ ((t.isFile p = true ∧ q = p) ∨
      ∃ root way, t.locate p = .ok root ∧ way ∈ t.filesBelow root ∧ q = pathBelow p way) := by
  obtain ⟨haccepts, ⟨-, root, way, content, hroot, hne, hn, -, hq⟩ | hfile⟩ :=
    (mem_filesFor_iff hown).1 hq
  · exact ⟨haccepts, .inr ⟨root, way, hroot, mem_filesBelow_iff.2 ⟨hne, content, hn⟩, hq⟩⟩
  · exact ⟨haccepts, .inl hfile⟩

/-- What is known about a path that an input stands for: it leads to a file, it begins and goes up
as the input does, and the filter takes it. -/
structure IsListedFor (t : FileTree) (f : FileFilter) (p q : Path) : Prop where
  leads : ∃ loc content, t.LeadsTo q loc ∧ t.node? loc = some (.file content)
  front : q.front = p.front
  climbs : q.Climbs ↔ p.Climbs
  accepted : f.accepts q = true

/-- **A path that an input stands for.** -/
theorem isListedFor_of_mem (ht : t.IsTree) {p q : Path} {own : List Path}
    (hown : filesFor t f useIgnoreFiles p = .ok own) (hq : q ∈ own) : IsListedFor t f p q := by
  obtain ⟨haccepts, ⟨hfile, rfl⟩ | ⟨root, way, hroot, hway, rfl⟩⟩ := mem_filesFor hown hq
  · obtain ⟨loc, content, hloc, hcontent⟩ := ht.exists_content hfile
    exact ⟨⟨loc, content, leadsTo_of_locate hloc, hcontent⟩, rfl, Iff.rfl, haccepts⟩
  · obtain ⟨hne, content, hn⟩ := mem_filesBelow_iff.1 hway
    have hnames := ht.names_below hn rfl
    have htext := isEmpty_text_of_locate hroot
    exact ⟨⟨root ++ way, content, leadsTo_pathBelow ht hroot hne hn rfl, ht.found _ hn⟩,
      front_pathBelow hne hnames htext, climbs_pathBelow hne hnames htext, haccepts⟩

/-! ### The listing -/

/-- Two paths lead to the same place. -/
def FileTree.SamePlace (t : FileTree) (p q : Path) : Prop :=
  ∃ loc, t.LeadsTo p loc ∧ t.LeadsTo q loc

/-- **No file is listed twice**, but for inputs that begin in different ways or go up.

For inputs that lead somewhere, overlapping or not, there is a listing. A path in it leads to a file
and begins and goes up as one of the inputs does, and of every path that an input stands for one
with the same components is listed. If two listed paths lead to the same file, they begin in
different ways or one of them goes up; where all inputs begin in the same way and none goes up, no
two listed paths lead to the same file. A run over the listing has the violations of each listed
path once. -/
theorem discover_lists_files_once (ht : t.IsTree) (f : FileFilter) (useIgnoreFiles : Bool)
    (hps : ∀ p ∈ ps, t.isThere p = true) :
    ∃ files, discover t f useIgnoreFiles ps = .ok files ∧
      (∀ q ∈ files, ∃ p ∈ ps, IsListedFor t f p q) ∧
      (∀ p ∈ ps, ∀ own, filesFor t f useIgnoreFiles p = .ok own →
        ∀ q ∈ own, ∃ q' ∈ files, q'.components = q.components) ∧
      files.Pairwise (fun p q => t.SamePlace p q → p.Climbs ∨ q.Climbs ∨ p.front ≠ q.front) ∧
      ((∀ p ∈ ps, ¬p.Climbs) → (∀ p ∈ ps, ∀ q ∈ ps, p.front = q.front) →
        files.Pairwise fun p q => ¬t.SamePlace p q) ∧
      ∀ c g report?, Gate.ofConfig c = .ok g →
        (g.run t files report? false).violations.Perm (files.flatMap (g.violationsIn t)) ∧
        (g.run t files report? false).violations.Pairwise fun v w => v.order w = .lt := by
  obtain ⟨all, hall⟩ := exists_filesForAll f useIgnoreFiles hps
  have hlisted : ∀ q ∈ sortPaths all, ∃ p ∈ ps, IsListedFor t f p q := by
    intro q hq
    obtain ⟨p, hp, own, hown, hmem⟩ := (mem_filesForAll_iff hall).1 (mem_of_mem_sortPaths hq)
    exact ⟨p, hp, isListedFor_of_mem ht hown hmem⟩
  have honce : (sortPaths all).Pairwise fun p q =>
      t.SamePlace p q → p.Climbs ∨ q.Climbs ∨ p.front ≠ q.front := by
    refine (distinctFiles_sortPaths all).imp fun {p q} hne ⟨loc, hp, hq⟩ => ?_
    by_contra hnot
    push Not at hnot
    exact hne (hp.components_eq hq hnot.1 hnot.2.1 hnot.2.2)
  refine ⟨sortPaths all, discover_eq_ok_iff.2 ⟨all, hall, rfl⟩, hlisted, ?_, honce, ?_, ?_⟩
  · intro p hp own hown q hq
    exact exists_mem_sortPaths ((mem_filesForAll_iff hall).2 ⟨p, hp, own, hown, hq⟩)
  · intro hups hfronts
    refine honce.imp_of_mem fun {q q'} hq hq' h hsame => ?_
    obtain ⟨p, hp, hpq⟩ := hlisted q hq
    obtain ⟨p', hp', hpq'⟩ := hlisted q' hq'
    rcases h hsame with hup | hup | hne
    · exact hups p hp (hpq.climbs.1 hup)
    · exact hups p' hp' (hpq'.climbs.1 hup)
    · exact hne (by rw [hpq.front, hpq'.front, hfronts p hp p' hp'])
  · intro c g report? hg
    obtain ⟨hanalysis, -⟩ := Gate.settings_of_ofConfig hg
    have hrules := Analysis.nodup_rules_of_ofConfig hanalysis
    obtain ⟨hperm, hpairwise, -⟩ :=
      Gate.run_contents hrules t (distinctFiles_sortPaths all) report?
    exact ⟨hperm, hpairwise⟩

/-- A working directory with a source file, another one in a directory beside it, and a text. -/
def overlapTree : FileTree where
  workingDirectory := ⟨"/w"⟩
  nodes :=
    [(["w".toList], .directory),
      (["w".toList, "src".toList], .directory),
      (["w".toList, "src".toList, "A.java".toList], .file []),
      (["w".toList, "src".toList, "gen".toList], .directory),
      (["w".toList, "src".toList, "gen".toList, "B.java".toList], .file []),
      (["w".toList, "src".toList, "notes.md".toList], .file [])]

/-- A filter for one extension. -/
def javaFilter : FileFilter := ⟨["java".toList], []⟩

/-- A file, the directory that it is in, and a directory in that one with further slashes: the files
are listed once. -/
theorem discover_lists_files_once_overlapTree :
    ∃ files, discover overlapTree javaFilter false [⟨"src/A.java"⟩, ⟨"src"⟩, ⟨"src//gen/"⟩] =
        .ok files ∧ files = [⟨"src/A.java"⟩, ⟨"src/gen/B.java"⟩] ∧
      files.Pairwise fun p q => ¬overlapTree.SamePlace p q := by
  have hthere : ∀ p ∈ [(⟨"src/A.java"⟩ : Path), ⟨"src"⟩, ⟨"src//gen/"⟩],
      overlapTree.isThere p = true := by decide +kernel
  obtain ⟨files, hfiles, -, -, -, honce, -⟩ :=
    discover_lists_files_once (by decide +kernel) javaFilter false hthere
  have hlist : discover overlapTree javaFilter false [⟨"src/A.java"⟩, ⟨"src"⟩, ⟨"src//gen/"⟩] =
      .ok [⟨"src/A.java"⟩, ⟨"src/gen/B.java"⟩] := by
    refine discover_eq_ok_iff.2 ⟨[⟨"src/A.java"⟩, ⟨"src/A.java"⟩, ⟨"src/gen/B.java"⟩,
      ⟨"src//gen/B.java"⟩], by decide +kernel, ?_⟩
    rw [sortPaths_of_pairwise (by decide +kernel)]
    decide +kernel
  have hsame : files = [⟨"src/A.java"⟩, ⟨"src/gen/B.java"⟩] := by
    rw [hfiles] at hlist
    exact Except.ok.inj hlist
  exact ⟨files, hfiles, hsame, honce (by decide +kernel) (by decide +kernel)⟩

/-- The working directory as a dot and a directory in it by its name: a file is listed twice. -/
theorem discover_lists_file_twice :
    discover overlapTree javaFilter false [⟨"."⟩, ⟨"src/gen"⟩] =
      .ok [⟨"./src/A.java"⟩, ⟨"./src/gen/B.java"⟩, ⟨"src/gen/B.java"⟩] ∧
    overlapTree.SamePlace ⟨"./src/gen/B.java"⟩ ⟨"src/gen/B.java"⟩ := by
  constructor
  · refine discover_eq_ok_iff.2 ⟨[⟨"./src/A.java"⟩, ⟨"./src/gen/B.java"⟩, ⟨"src/gen/B.java"⟩],
      by decide +kernel, ?_⟩
    rw [sortPaths_of_pairwise (by decide +kernel)]
    decide +kernel
  · refine ⟨["w".toList, "src".toList, "gen".toList, "B.java".toList], ?_, ?_⟩ <;>
      unfold LeadsTo <;> decide +kernel

end QualityGate
