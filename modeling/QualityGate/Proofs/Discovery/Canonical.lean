import QualityGate.Proofs.Discovery.Listing
import Mathlib.Tactic

/-!
The canonical listing. What is listed for some inputs depends on which files are met and taken for
them, and on nothing else: not on the order of the inputs, on repetitions of them or on how the
directories overlap. Up to the spelling of paths with the same components, the listing is the list
of these files in the order of paths.

* `filesForAll_eq_error_iff`: the first input that leads nowhere is refused.
* `IsFound`, `mem_map_components_discover`: **what is listed**.
* `map_components_eq`: lists in order with the same members are equal, up to spelling.
* `FileTree.HasNoIgnoreFiles`, `filesForAll_of_hasNoIgnoreFiles`: without ignore files it makes no
  difference that they count, but for a directory that is taken for the standard input.
* `discover_canonical`: **the listing is canonical**.
-/

namespace QualityGate

open FileTree

variable {t : FileTree} {f : FileFilter} {useIgnoreFiles : Bool} {p q : Path} {ps : List Path}

/-! ### Inputs that lead nowhere -/

/-- A path leads to neither a directory nor a file. -/
def FileTree.leadsNowhere (t : FileTree) (p : Path) : Bool := !t.isDirectory p && !t.isFile p

lemma filesFor_eq_error_iff {e : GateError} :
    filesFor t f useIgnoreFiles p = .error e ↔ t.leadsNowhere p = true ∧ e = .invalidPath p := by
  unfold filesFor leadsNowhere
  cases t.isDirectory p <;> cases t.isFile p <;> simp [eq_comm (a := e)]

/-- The first input that leads nowhere is refused, and nothing else is. -/
lemma filesForAll_eq_error_iff {e : GateError} :
    filesForAll t f useIgnoreFiles ps = .error e ↔
      ∃ p, ps.find? t.leadsNowhere = some p ∧ e = .invalidPath p := by
  induction ps with
  | nil => simp [filesForAll]
  | cons p ps ih =>
      rw [filesForAll, List.find?_cons]
      cases hown : filesFor t f useIgnoreFiles p with
      | error e' =>
          obtain ⟨hp, rfl⟩ := filesFor_eq_error_iff.1 hown
          simp [hp, eq_comm]
      | ok own =>
          have hp : t.leadsNowhere p = false := by
            rw [← Bool.not_eq_true]
            intro hp
            rw [filesFor_eq_error_iff.2 ⟨hp, rfl⟩] at hown
            cases hown
          rw [hp, ← ih]
          cases filesForAll t f useIgnoreFiles ps <;> simp

lemma leadsNowhere_eq (t : FileTree) (p : Path) : t.leadsNowhere p = !t.isThere p := by
  unfold leadsNowhere isFile isDirectory isThere
  cases (t.locate p).toOption with
  | none => rfl
  | some loc => simp

/-- If inputs stand for some files, all of them lead somewhere. -/
lemma isThere_of_filesForAll {all : List Path}
    (hall : filesForAll t f useIgnoreFiles ps = .ok all) : ∀ p ∈ ps, t.isThere p = true := by
  intro p hp
  by_contra hnot
  have hsome : (ps.find? t.leadsNowhere).isSome = true :=
    List.find?_isSome.2 ⟨p, hp, by simp [leadsNowhere_eq, hnot]⟩
  obtain ⟨q, hq⟩ := Option.isSome_iff_exists.1 hsome
  rw [filesForAll_eq_error_iff.2 ⟨q, hq, rfl⟩] at hall
  cases hall

/-! ### What is listed -/

/-- A path is found for some inputs: the filter takes it, and it is met below one of them, a
directory, or is one of them, a file. -/
def IsFound (t : FileTree) (f : FileFilter) (useIgnoreFiles : Bool) (ps : List Path) (q : Path) :
    Prop :=
  f.accepts q = true ∧
    ∃ p ∈ ps, t.isDirectory p = true ∧ t.IsWalked useIgnoreFiles p q ∨ t.isFile p = true ∧ q = p

lemma mem_filesForAll_iff_isFound {all : List Path}
    (hall : filesForAll t f useIgnoreFiles ps = .ok all) :
    q ∈ all ↔ IsFound t f useIgnoreFiles ps q := by
  rw [mem_filesForAll_iff hall]
  constructor
  · rintro ⟨p, hp, own, hown, hq⟩
    obtain ⟨haccepts, hfound⟩ := (mem_filesFor_iff hown).1 hq
    exact ⟨haccepts, p, hp, hfound⟩
  · rintro ⟨haccepts, p, hp, hfound⟩
    obtain ⟨own, hown⟩ := exists_filesFor f useIgnoreFiles (isThere_of_filesForAll hall p hp)
    exact ⟨p, hp, own, hown, (mem_filesFor_iff hown).2 ⟨haccepts, hfound⟩⟩

lemma isFound_of_mem_discover {files : List Path}
    (h : discover t f useIgnoreFiles ps = .ok files) (hq : q ∈ files) :
    IsFound t f useIgnoreFiles ps q := by
  obtain ⟨all, hall, rfl⟩ := discover_eq_ok_iff.1 h
  exact (mem_filesForAll_iff_isFound hall).1 (mem_of_mem_sortPaths hq)

/-- **What is listed** is what is found, up to the spelling of paths. -/
lemma mem_map_components_discover {files : List Path}
    (h : discover t f useIgnoreFiles ps = .ok files) {cs : List Path.Component} :
    cs ∈ files.map Path.components ↔
      ∃ q, IsFound t f useIgnoreFiles ps q ∧ q.components = cs := by
  rw [List.mem_map]
  constructor
  · rintro ⟨q, hq, rfl⟩
    exact ⟨q, isFound_of_mem_discover h hq, rfl⟩
  · rintro ⟨q, hq, rfl⟩
    obtain ⟨all, hall, rfl⟩ := discover_eq_ok_iff.1 h
    exact exists_mem_sortPaths ((mem_filesForAll_iff_isFound hall).2 hq)

lemma IsFound.mono {ps' : List Path} (h : IsFound t f useIgnoreFiles ps q) (hps : ps ⊆ ps') :
    IsFound t f useIgnoreFiles ps' q := by
  obtain ⟨haccepts, p, hp, hfound⟩ := h
  exact ⟨haccepts, p, hps hp, hfound⟩

/-- What is found where ignore files count is found where they do not. -/
lemma IsFound.withoutIgnoreFiles (h : IsFound t f useIgnoreFiles ps q) :
    IsFound t f false ps q := by
  obtain ⟨haccepts, p, hp, ⟨hdir, root, way, content, hroot, hne, hn, -, hq⟩ | hfile⟩ := h
  · exact ⟨haccepts, p, hp, .inl ⟨hdir, root, way, content, hroot, hne, hn, nofun, hq⟩⟩
  · exact ⟨haccepts, p, hp, .inr hfile⟩

/-! ### Lists in order -/

/-- Paths that are strictly in order are known from their components up to spelling, and these from
which ones there are. -/
lemma map_components_eq {ps qs : List Path} (hps : ps.Pairwise fun p q => p.order q = .lt)
    (hqs : qs.Pairwise fun p q => p.order q = .lt)
    (h : ∀ cs, cs ∈ ps.map Path.components ↔ cs ∈ qs.map Path.components) :
    ps.map Path.components = qs.map Path.components := by
  let cmp := compareOn fun cs : List Path.Component => cs.map Path.Component.code
  have hsorted {ps : List Path} (hps : ps.Pairwise fun p q => p.order q = .lt) :
      (ps.map Path.components).Pairwise fun a b => cmp a b = .lt := List.pairwise_map.2 hps
  have hnodup {ps : List Path} (hps : ps.Pairwise fun p q => p.order q = .lt) :
      (ps.map Path.components).Nodup := by
    refine (hsorted hps).imp fun {a b} hlt heq => ?_
    have hself : cmp b b = .eq := Std.ReflCmp.compare_self
    rw [heq, hself] at hlt
    cases hlt
  have hperm := (List.perm_ext_iff_of_nodup (hnodup hps) (hnodup hqs)).2 h
  exact eq_of_perm_of_pairwise_lt hperm (hsorted hps) (hsorted hqs)

/-! ### Trees without ignore files -/

namespace FileTree

/-- No file of the tree is in the place of an ignore file. -/
def HasNoIgnoreFiles (t : FileTree) : Prop :=
  ∀ n ∈ t.nodes, ∀ kind ∈ ignoreFiles, kind <:+ n.1 → n.2 = .directory

instance (t : FileTree) : Decidable t.HasNoIgnoreFiles :=
  inferInstanceAs (Decidable (∀ n ∈ t.nodes, ∀ kind ∈ ignoreFiles, kind <:+ n.1 → n.2 = .directory))

variable {kind root way : Location}

lemma rulesAt_eq_nil (ht : t.HasNoIgnoreFiles) (hkind : kind ∈ ignoreFiles) (dir : Location) :
    t.rulesAt dir kind = [] := by
  have hne : (dir ++ kind).isEmpty = false := by
    have hnil : ∀ k ∈ ignoreFiles, k ≠ [] := by decide
    simp [hnil kind hkind]
  unfold rulesAt node?
  rw [hne]
  cases hfind : t.nodes.find? fun n => n.1 == dir ++ kind with
  | none => rfl
  | some n =>
      obtain ⟨loc, node⟩ := n
      have hloc : loc = dir ++ kind := by simpa using List.find?_some hfind
      have hdir := ht _ (List.mem_of_find?_eq_some hfind) kind hkind ⟨dir, hloc.symm⟩
      simp only at hdir
      rw [hdir]
      rfl

lemma keptBy?_eq_none (ht : t.HasNoIgnoreFiles) (hkind : kind ∈ ignoreFiles) (isDirectory : Bool)
    (dirs : List (Location × Location)) : t.keptBy? kind isDirectory dirs = none := by
  induction dirs with
  | nil => rfl
  | cons dir dirs ih =>
      rw [keptBy?, rulesAt_eq_nil ht hkind, ih]
      rfl

lemma leavesOut_eq_false (ht : t.HasNoIgnoreFiles) (root way : Location) (isDirectory : Bool) :
    t.leavesOut root way isDirectory = false := by
  have hnone : ignoreFiles.findSome? (fun kind =>
      t.keptBy? kind isDirectory (directoriesAbove root way)) = none :=
    List.findSome?_eq_none_iff.2 fun kind hkind => keptBy?_eq_none ht hkind isDirectory _
  rw [leavesOut, hnone]
  rfl

lemma isIgnored_eq_false (ht : t.HasNoIgnoreFiles) (root way : Location) :
    t.isIgnored root way = false := by
  simp [isIgnored, leavesOut_eq_false ht]

lemma search_of_isStandardInput {dir : Path} (hdir : dir.isStandardInput = true) :
    t.search true dir = [] := by
  unfold search
  cases t.locate dir <;> simp [hdir]

/-- A directory with the name of a dash is searched only under another spelling of its name. -/
example :
    let t : FileTree :=
      ⟨⟨"/"⟩, [(["-".toList], .directory), (["-".toList, "A.java".toList], .file [])]⟩
    t.search true ⟨"-"⟩ = [] ∧ t.search false ⟨"-"⟩ = [⟨"-/A.java"⟩] ∧
      t.search true ⟨"./-"⟩ = [⟨"./-/A.java"⟩] := by
  decide +kernel

/-- Where there are no ignore files, a directory is searched in full, unless it is taken for the
standard input. -/
lemma search_of_hasNoIgnoreFiles (ht : t.HasNoIgnoreFiles) {dir : Path}
    (hdir : dir.isStandardInput = false) : t.search true dir = t.search false dir := by
  simp [search, hdir, isIgnored_eq_false ht]

end FileTree

/-- A directory that is taken for the standard input where ignore files count. -/
def FileTree.isMistaken (t : FileTree) (p : Path) : Bool := t.isDirectory p && p.isStandardInput

lemma filesFor_of_hasNoIgnoreFiles (ht : t.HasNoIgnoreFiles) (f : FileFilter) (p : Path) :
    filesFor t f true p = if t.isMistaken p then .ok [] else filesFor t f false p := by
  unfold filesFor isMistaken
  cases hdir : t.isDirectory p with
  | false => rfl
  | true =>
      cases hinput : p.isStandardInput with
      | false => simp [search_of_hasNoIgnoreFiles ht hinput]
      | true => simp [search_of_isStandardInput hinput]

/-- Where there are no ignore files, it makes no difference that they count, but for a directory
that is taken for the standard input. -/
lemma filesForAll_of_hasNoIgnoreFiles (ht : t.HasNoIgnoreFiles) (f : FileFilter) (ps : List Path) :
    filesForAll t f true ps = filesForAll t f false (ps.filter fun p => !t.isMistaken p) := by
  induction ps with
  | nil => rfl
  | cons p ps ih =>
      rw [filesForAll, filesFor_of_hasNoIgnoreFiles ht, ih, List.filter_cons]
      cases t.isMistaken p with
      | false => rfl
      | true =>
          simp only [if_true, Bool.not_true, Bool.false_eq_true, if_false, List.nil_append]
          cases filesForAll t f false (ps.filter fun p => !t.isMistaken p) <;> rfl

/-! ### The listing -/

/-- Nothing is listed only if an input leads nowhere. -/
lemma discover_eq_error_iff {e : GateError} :
    discover t f useIgnoreFiles ps = .error e ↔
      ∃ p, ps.find? t.leadsNowhere = some p ∧ e = .invalidPath p := by
  rw [← filesForAll_eq_error_iff, discover]
  cases filesForAll t f useIgnoreFiles ps <;> simp [Except.map]

lemma pairwise_discover {files : List Path} (h : discover t f useIgnoreFiles ps = .ok files) :
    files.Pairwise fun p q => p.order q = .lt := by
  obtain ⟨all, -, rfl⟩ := discover_eq_ok_iff.1 h
  exact pairwise_sortPaths all

/-- A listing for some inputs gives one for inputs among them, whether ignore files count or not. -/
lemma exists_discover {files ps' : List Path} (h : discover t f useIgnoreFiles ps = .ok files)
    (hps : ps' ⊆ ps) (useIgnoreFiles' : Bool) :
    ∃ files', discover t f useIgnoreFiles' ps' = .ok files' := by
  obtain ⟨all, hall, -⟩ := discover_eq_ok_iff.1 h
  obtain ⟨all', hall'⟩ := exists_filesForAll f useIgnoreFiles' fun p hp =>
    isThere_of_filesForAll hall p (hps hp)
  exact ⟨sortPaths all', discover_eq_ok_iff.2 ⟨all', hall', rfl⟩⟩

/-- **The listing is canonical.**

An input that leads to neither a directory nor a file is refused, the first such input, and nothing
else is. Otherwise the listed paths are strictly in the order of paths, and up to the spelling of
paths they are those that are found for the inputs: other inputs of which the same ones are there,
in any order and as often as one likes, have the same listing. What is listed where ignore files
count is listed where they do not. On a tree without ignore files it makes no difference whether
they count, if no directory is taken for the standard input; such a directory is left out where they
count. -/
theorem discover_canonical (t : FileTree) (f : FileFilter) (useIgnoreFiles : Bool)
    (ps : List Path) :
    (∀ e, discover t f useIgnoreFiles ps = .error e ↔
      ∃ p, ps.find? (fun p => !t.isDirectory p && !t.isFile p) = some p ∧ e = .invalidPath p) ∧
    (∀ files, discover t f useIgnoreFiles ps = .ok files →
      files.Pairwise (fun p q => p.order q = .lt) ∧
      (∀ q ∈ files, IsFound t f useIgnoreFiles ps q) ∧
      (∀ q, IsFound t f useIgnoreFiles ps q → ∃ q' ∈ files, q'.components = q.components) ∧
      (∀ ps', (∀ p, p ∈ ps' ↔ p ∈ ps) → ∃ files', discover t f useIgnoreFiles ps' = .ok files' ∧
        files'.map Path.components = files.map Path.components) ∧
      ∃ all, discover t f false ps = .ok all ∧
        ∀ q ∈ files, ∃ q' ∈ all, q'.components = q.components) ∧
    (t.HasNoIgnoreFiles →
      discover t f true ps = discover t f false (ps.filter fun p => !t.isMistaken p) ∧
      ((∀ p ∈ ps, t.isMistaken p = false) → discover t f true ps = discover t f false ps)) := by
  refine ⟨fun e => discover_eq_error_iff, fun files hfiles => ⟨pairwise_discover hfiles,
    fun q => isFound_of_mem_discover hfiles, fun q hq => ?_, fun ps' hps => ?_, ?_⟩, fun ht => ?_⟩
  · exact List.mem_map.1 ((mem_map_components_discover hfiles).2 ⟨q, hq, rfl⟩)
  · obtain ⟨files', hfiles'⟩ := exists_discover hfiles (fun p => (hps p).1) useIgnoreFiles
    refine ⟨files', hfiles',
      map_components_eq (pairwise_discover hfiles') (pairwise_discover hfiles) fun cs => ?_⟩
    rw [mem_map_components_discover hfiles', mem_map_components_discover hfiles]
    exact exists_congr fun q => and_congr_left fun _ =>
      ⟨fun h => h.mono fun p => (hps p).1, fun h => h.mono fun p => (hps p).2⟩
  · obtain ⟨all, hall⟩ := exists_discover hfiles (List.Subset.refl ps) false
    refine ⟨all, hall, fun q hq => List.mem_map.1 ((mem_map_components_discover hall).2 ?_)⟩
    exact ⟨q, (isFound_of_mem_discover hfiles hq).withoutIgnoreFiles, rfl⟩
  · have hexact :
        discover t f true ps = discover t f false (ps.filter fun p => !t.isMistaken p) := by
      rw [discover, discover, filesForAll_of_hasNoIgnoreFiles ht]
    refine ⟨hexact, fun hps => ?_⟩
    rw [hexact, List.filter_eq_self.2 fun p hp => by rw [hps p hp]; rfl]

/-- A file, the directory that it is in, and a directory in that one: the listing is the same in
another order and with repetitions, and whether ignore files count or not. -/
theorem discover_canonical_overlapTree :
    overlapTree.HasNoIgnoreFiles ∧
    discover overlapTree javaFilter true [⟨"src/A.java"⟩, ⟨"src"⟩, ⟨"src//gen/"⟩] =
      discover overlapTree javaFilter false [⟨"src/A.java"⟩, ⟨"src"⟩, ⟨"src//gen/"⟩] ∧
    ∃ files files', discover overlapTree javaFilter true
        [⟨"src/A.java"⟩, ⟨"src"⟩, ⟨"src//gen/"⟩] = .ok files ∧
      discover overlapTree javaFilter true
        [⟨"src//gen/"⟩, ⟨"src"⟩, ⟨"src/A.java"⟩, ⟨"src"⟩] = .ok files' ∧
      files'.map Path.components = files.map Path.components := by
  have hno : overlapTree.HasNoIgnoreFiles := by decide +kernel
  obtain ⟨-, hlisted, hignore⟩ := discover_canonical overlapTree javaFilter true
    [⟨"src/A.java"⟩, ⟨"src"⟩, ⟨"src//gen/"⟩]
  have hthere : ∀ p ∈ [(⟨"src/A.java"⟩ : Path), ⟨"src"⟩, ⟨"src//gen/"⟩],
      overlapTree.isThere p = true := by decide +kernel
  obtain ⟨all, hall⟩ := exists_filesForAll javaFilter true hthere
  have hfiles := discover_eq_ok_iff.2 ⟨all, hall, rfl⟩
  obtain ⟨-, -, -, hsame, -⟩ := hlisted _ hfiles
  obtain ⟨files', hfiles', heq⟩ := hsame [⟨"src//gen/"⟩, ⟨"src"⟩, ⟨"src/A.java"⟩, ⟨"src"⟩]
    (by simp; tauto)
  exact ⟨hno, (hignore hno).2 (by decide +kernel), _, files', hfiles, hfiles', heq⟩

end QualityGate
