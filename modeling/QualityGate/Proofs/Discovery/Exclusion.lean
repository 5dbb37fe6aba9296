import QualityGate.Proofs.Discovery.Listing
import QualityGate.Proofs.Glob.Matching
import Mathlib.Tactic

/-!
What exclude globs leave out. A glob is matched against the path of a file as it is spelled below
its input, and only against paths of files. So a file is found from all directories that spell it in
the same way, or from none; and of a directory that a glob matches everything is left out exactly as
far as the glob matches what is below it.

* `Discovers`, `discovers_dir_iff`, `discovers_file_iff`: an input by which a file is found.
* `discovers_relative_inputs`: **a file is found from every directory above it** that is given by
  its name, or from none; and the working directory as a dot.
* `walkedPath`, `discover_nothing_below`: **nothing is found below a directory** that a glob matches
  if the glob ends in a wildcard.
-/

namespace QualityGate

open FileTree

/-- Without ignore files, the file at a location is found by an input. -/
def Discovers (t : FileTree) (f : FileFilter) (input : Path) (loc : Location) : Prop :=
  ∃ files, discover t f false [input] = .ok files ∧ ∃ q ∈ files, t.LeadsTo q loc

variable {t : FileTree} {f : FileFilter} {extensions exclude : List String}

/-! ### One input -/

/-- The files of one input are those that it stands for, sorted. -/
lemma discover_singleton {p : Path} {own : List Path} {useIgnoreFiles : Bool}
    (h : filesFor t f useIgnoreFiles p = .ok own) :
    discover t f useIgnoreFiles [p] = .ok (sortPaths own) := by
  refine discover_eq_ok_iff.2 ⟨own, ?_, rfl⟩
  rw [filesForAll, h, filesForAll]
  exact congrArg Except.ok (List.append_nil own)

/-- A file is found by a directory above it exactly if the filter takes the path that the file has
below that directory. -/
lemma discovers_dir_iff (ht : t.IsTree) {dir : Path} {root way : Location}
    (hroot : t.locate dir = .ok root) (hdir : t.isDirectoryAt root = true)
    (hway : way ∈ t.filesBelow root) :
    Discovers t f dir (root ++ way) ↔ f.accepts (pathBelow dir way) = true := by
  have hisDir : t.isDirectory dir = true := by rw [isDirectory, hroot]; exact hdir
  have hsearch : t.search false dir = (t.filesBelow root).map (pathBelow dir) := by
    rw [search, hroot]
    simp
  have hown : filesFor t f false dir =
      .ok (((t.filesBelow root).map (pathBelow dir)).filter f.accepts) := by
    rw [filesFor, if_pos hisDir, hsearch]
  have htext := isEmpty_text_of_locate hroot
  have hbelow {way' : Location} (h : way' ∈ t.filesBelow root) :
      t.LeadsTo (pathBelow dir way') (root ++ way') ∧
        (pathBelow dir way').components =
          dir.front ++ (dir.steps ++ way').map Path.Component.ofPart := by
    obtain ⟨hne, content, hn⟩ := mem_filesBelow_iff.1 h
    have hnames := ht.names_below hn rfl
    refine ⟨leadsTo_pathBelow ht hroot hne hn rfl, ?_⟩
    rw [Path.components_eq, front_pathBelow hne hnames htext, steps_pathBelow hne hnames htext]
  constructor
  · rintro ⟨files, hfiles, q, hq, hleads⟩
    rw [discover_singleton hown, Except.ok.injEq] at hfiles
    subst hfiles
    obtain ⟨hmem, haccepts⟩ := List.mem_filter.1 (mem_of_mem_sortPaths hq)
    obtain ⟨way', hway', rfl⟩ := List.mem_map.1 hmem
    have hsame : root ++ way' = root ++ way := Except.ok.inj ((hbelow hway').1.symm.trans hleads)
    rwa [List.append_cancel_left hsame] at haccepts
  · intro haccepts
    have hmem := List.mem_filter.2 ⟨List.mem_map_of_mem hway, haccepts⟩
    obtain ⟨q, hq, hcomponents⟩ := exists_mem_sortPaths hmem
    refine ⟨_, discover_singleton hown, q, hq, ?_⟩
    obtain ⟨way', hway', rfl⟩ := List.mem_map.1 (List.mem_filter.1 (mem_of_mem_sortPaths hq)).1
    rw [(hbelow hway').2, (hbelow hway).2] at hcomponents
    have hsteps := List.map_injective_iff.2 (fun _ _ => Path.Component.ofPart_injective)
      (List.append_cancel_left hcomponents)
    rw [← List.append_cancel_left hsteps]
    exact (hbelow hway').1

/-- A file is found by its own path exactly if the filter takes that path. -/
lemma discovers_file_iff {p : Path} {loc : Location} (hloc : t.locate p = .ok loc)
    (hfile : t.isFile p = true) : Discovers t f p loc ↔ f.accepts p = true := by
  have hdir : ¬t.isDirectory p = true := by
    rw [isFile, Bool.and_eq_true, Bool.not_eq_true'] at hfile
    rw [hfile.2]
    exact Bool.false_ne_true
  have hown : filesFor t f false p = .ok (if f.accepts p then [p] else []) := by
    rw [filesFor, if_neg hdir, if_pos hfile]
  constructor
  · rintro ⟨files, hfiles, q, hq, -⟩
    rw [discover_singleton hown, Except.ok.injEq] at hfiles
    subst hfiles
    by_contra hnot
    rw [if_neg hnot] at hq
    cases mem_of_mem_sortPaths hq
  · intro haccepts
    rw [if_pos haccepts] at hown
    obtain ⟨q, hq, -⟩ := exists_mem_sortPaths (List.mem_singleton_self p)
    obtain rfl := List.mem_singleton.1 (mem_of_mem_sortPaths hq)
    exact ⟨_, discover_singleton hown, q, hq, leadsTo_of_locate hloc⟩

/-! ### The spelling of an input -/

/-- The globs of a filter are those that the texts for it stand for. -/
lemma mem_exclude_iff (hf : FileFilter.ofTexts extensions exclude = .ok f) {g : CompiledGlob} :
    g ∈ f.exclude ↔ ∃ text ∈ exclude, CompiledGlob.ofText? excludeStyle text.toList = some g := by
  unfold FileFilter.ofTexts at hf
  split at hf
  · cases hf
  · next globs hglobs =>
    cases hf
    exact Text.mem_readEach hglobs

/-- The filter for one glob. -/
lemma ofTexts_singleton (extensions : List String) {text : String} {g : Glob}
    (hg : Glob.ofText? excludeStyle text.toList = some g) :
    FileFilter.ofTexts extensions [text] =
      .ok ⟨extensions.map fun e => lowered (withoutDots e.toList), [.ofGlob g]⟩ := by
  have hcompiled : PatternNotation.standard.glob? text.toList = some (.ofGlob g) := by
    show CompiledGlob.ofText? excludeStyle text.toList = _
    rw [CompiledGlob.ofText?, hg, Option.map_some]
  rw [FileFilter.ofTexts, compileGlobs, Text.readEach, hcompiled]
  rfl

/-- A path after a dot and a slash. -/
def dotSlash (p : Path) : Path := ⟨"./" ++ p.text⟩

section DotSlash

variable {way : Location} (hne : way ≠ []) (hway : ∀ name ∈ way, IsEntryName name)

include hne hway

/-- Below the working directory, given as a dot, paths have a dot and a slash in front. -/
lemma pathBelow_here : pathBelow ⟨"."⟩ way = dotSlash (pathOf way) := by
  have htext : (pathBelow ⟨"."⟩ way).text = (dotSlash (pathOf way)).text := by
    rw [← String.toList_inj, toList_text_pathBelow hne hway rfl]
    simp only [dotSlash, String.toList_append, pathOf, String.toList_ofList]
    rfl
  exact congrArg Path.mk htext

/-- The name of a file is the last component of its path, so that a dot and a slash in front make no
difference to its extension. -/
lemma hasExtension_dotSlash :
    f.hasExtension (dotSlash (pathOf way)) = f.hasExtension (pathOf way) := by
  have hcomponents : (way.map Path.Component.ofPart) ≠ [] := by simpa using hne
  have hlast : (dotSlash (pathOf way)).components.getLast? = (pathOf way).components.getLast? := by
    rw [← pathBelow_here hne hway, Path.components_eq, Path.components_eq,
      steps_pathBelow hne hway rfl, steps_pathOf hne hway,
      List.getLast?_append_of_ne_nil _ hcomponents]
    exact List.getLast?_append_of_ne_nil _ hcomponents
  have hname : (dotSlash (pathOf way)).fileName? = (pathOf way).fileName? := by
    rw [Path.fileName?, Path.fileName?, hlast]
  rw [FileFilter.hasExtension, FileFilter.hasExtension, Path.extension?, Path.extension?, hname]

end DotSlash

/-- Where all globs start with two stars, a slash and a literal character other than a dot, a dot and
a slash in front of a path make no difference to whether it is excluded. -/
lemma isExcluded_dotSlash (hf : FileFilter.ofTexts extensions exclude = .ok f)
    (hdeep : ∀ text ∈ exclude, ∃ g, Glob.ofText? excludeStyle text.toList = some g ∧ g.StartsDeep)
    (p : Path) : f.isExcluded (dotSlash p) = f.isExcluded p := by
  have hsame : ∀ g ∈ f.exclude,
      g.isMatch (dotSlash p).text.toList = g.isMatch p.text.toList := by
    intro g hg
    obtain ⟨text, htext, hcompiled⟩ := (mem_exclude_iff hf).1 hg
    obtain ⟨g', hg', hstarts⟩ := hdeep text htext
    rw [CompiledGlob.ofText?, hg', Option.map_some, Option.some.injEq] at hcompiled
    subst hcompiled
    have htext : (dotSlash p).text.toList = '.' :: '/' :: p.text.toList := by
      rw [dotSlash, String.toList_append]
      rfl
    rw [htext, Bool.eq_iff_iff]
    exact Glob.isMatch_dotSlash_iff hstarts p.text.toList
  rw [FileFilter.isExcluded, FileFilter.isExcluded, Bool.eq_iff_iff, List.any_eq_true,
    List.any_eq_true]
  exact exists_congr fun g => and_congr_right fun hg => by rw [hsame g hg]

/-- A front of the text of a path is no wrong path if the path is none. -/
lemma pathError?_of_prefix {p q : Path} (h : q.text.toList <+: p.text.toList)
    (hq : q.text.isEmpty = false) (hp : pathError? p = none) : pathError? q = none := by
  obtain ⟨more, hmore⟩ := h
  have hlength : (Text.Utf8.encode q.text.toList).length ≤
      (Text.Utf8.encode p.text.toList).length := by
    rw [← hmore, Text.Utf8.encode, Text.Utf8.encode, List.flatMap_append, List.length_append]
    exact Nat.le_add_right _ _
  unfold pathError? at hp ⊢
  rw [← hmore] at hp hlength
  split_ifs at hp with hnul hempty hlong
  have hnul' : ¬q.text.toList.contains '\x00' = true := by
    simp only [List.contains_eq_mem, List.mem_append, decide_eq_true_eq, not_or] at hnul ⊢
    exact hnul.1
  rw [if_neg hnul', hq, if_neg Bool.false_ne_true, if_neg (by omega)]

section Relative

variable (ht : t.IsTree) {way : Location} (hway : ∀ name ∈ way, IsEntryName name)
  (hfile : t.isFile (pathOf way) = true)

include ht hway hfile

/-- A file that is given by its path from the working directory is there. -/
lemma exists_content_pathOf : way ≠ [] ∧ t.locate (pathOf way) = .ok (t.base ++ way) ∧
    ∃ content, (t.base ++ way, Node.file content) ∈ t.nodes := by
  obtain ⟨loc, content, hloc, hcontent⟩ := ht.exists_content hfile
  have hne : way ≠ [] := by
    rintro rfl
    cases isEmpty_text_of_locate hloc
  have heq : loc = t.base ++ way := by
    have hwalk := (leadsTo_of_locate hloc).eq_append (not_climbs_pathOf hne hway)
    rwa [origin, isAbsolute_pathOf hne hway, steps_pathOf hne hway] at hwalk
  subst heq
  exact ⟨hne, hloc, content, exists_mem_of_node? hcontent (by simp [hne])⟩

/-- So is every directory above it that is given by its path from the working directory. -/
lemma locate_take {k : ℕ} (hk : 0 < k) :
    t.locate (pathOf (way.take k)) = .ok (t.base ++ way.take k) := by
  obtain ⟨hne, hloc, -⟩ := exists_content_pathOf ht hway hfile
  have hnames : ∀ name ∈ way.take k, IsEntryName name := fun name hname =>
    hway name (List.mem_of_mem_take hname)
  have habove : way.take k ≠ [] := by
    simp [hne, hk.ne']
  have hwalk : t.walk t.base way = .ok (t.base ++ way) := by
    have hwalk := leadsTo_of_locate hloc
    rwa [LeadsTo, origin, isAbsolute_pathOf hne hway, parts_pathOf hne hway] at hwalk
  have herror : pathError? (pathOf way) = none := by
    unfold locate at hloc
    split at hloc
    · cases hloc
    · next herror => exact herror
  have hfront : (pathOf (way.take k)).text.toList <+: (pathOf way).text.toList := by
    rw [pathOf, pathOf, String.toList_ofList, String.toList_ofList]
    by_cases hbelow : way.drop k = []
    · rw [List.take_of_length_le (List.drop_eq_nil_iff.1 hbelow)]
    · conv_rhs => rw [← List.take_append_drop k way]
      rw [locationText_append habove hbelow]
      exact List.prefix_append _ _
  rw [locate, pathError?_of_prefix hfront (isEmpty_text_pathOf habove hnames) herror]
  show t.walk (t.origin (pathOf (way.take k))) (pathOf (way.take k)).parts = _
  rw [origin, isAbsolute_pathOf habove hnames, parts_pathOf habove hnames]
  rw [← List.take_append_drop k way] at hwalk
  obtain ⟨next, hnext, -⟩ := exists_walk_of_append hwalk
  have hup : ['.', '.'] ∉ way.take k := fun h => (hnames _ h).2.1 rfl
  have hsteps := eq_append_of_walk hup hnext
  rw [List.filter_eq_self.2 fun name hname => by rw [(hnames name hname).1]; rfl] at hsteps
  rw [← hsteps]
  exact hnext

/-- The working directory is there. -/
lemma locate_here : t.locate ⟨"."⟩ = .ok t.base ∧ t.isDirectoryAt t.base = true := by
  obtain ⟨hne, -, content, hn⟩ := exists_content_pathOf ht hway hfile
  have hdir : t.isDirectoryAt t.base = true := by
    have habove := ht.above _ hn t.base.length (by simp [List.length_pos_iff.2 hne])
    rwa [List.take_left' rfl] at habove
  refine ⟨?_, hdir⟩
  show t.walk t.base [['.']] = _
  rw [walk, hdir]
  rfl

/-- **A file and the inputs by which it is found**, given by their paths from the working directory.
The file itself as an input finds it exactly if the filter takes its path, and every directory above
it finds it exactly then. From the working directory, given as a dot, it has a dot and a slash in
front of its path, and is found exactly if its extension is one of the filter and no glob matches
the path with the dot. So the dot agrees with the other inputs exactly if the globs make no
difference between the two paths, or the extension is none of the filter; and it does so whenever
every glob starts with two stars, a slash and a literal character other than a dot. -/
theorem discovers_relative_inputs (hf : FileFilter.ofTexts extensions exclude = .ok f) :
    (Discovers t f (pathOf way) (t.base ++ way) ↔ f.accepts (pathOf way) = true) ∧
    (∀ k, 0 < k → k < way.length → (Discovers t f (pathOf (way.take k)) (t.base ++ way) ↔
      Discovers t f (pathOf way) (t.base ++ way))) ∧
    (Discovers t f ⟨"."⟩ (t.base ++ way) ↔
      f.hasExtension (pathOf way) = true ∧ f.isExcluded (dotSlash (pathOf way)) = false) ∧
    ((Discovers t f ⟨"."⟩ (t.base ++ way) ↔ Discovers t f (pathOf way) (t.base ++ way)) ↔
      (f.hasExtension (pathOf way) = true →
        f.isExcluded (dotSlash (pathOf way)) = f.isExcluded (pathOf way))) ∧
    ((∀ text ∈ exclude, ∃ g, Glob.ofText? excludeStyle text.toList = some g ∧ g.StartsDeep) →
      (Discovers t f ⟨"."⟩ (t.base ++ way) ↔ Discovers t f (pathOf way) (t.base ++ way))) := by
  obtain ⟨hne, hloc, content, hn⟩ := exists_content_pathOf ht hway hfile
  have hown := discovers_file_iff (f := f) hloc hfile
  have hhere : Discovers t f ⟨"."⟩ (t.base ++ way) ↔
      f.hasExtension (pathOf way) = true ∧ f.isExcluded (dotSlash (pathOf way)) = false := by
    obtain ⟨hbase, hdir⟩ := locate_here ht hway hfile
    have hbelow : way ∈ t.filesBelow t.base := mem_filesBelow_iff.2 ⟨hne, content, hn⟩
    rw [discovers_dir_iff ht hbase hdir hbelow, pathBelow_here hne hway, FileFilter.accepts,
      hasExtension_dotSlash hne hway, Bool.and_eq_true, Bool.not_eq_true']
  have hagree : (Discovers t f ⟨"."⟩ (t.base ++ way) ↔ Discovers t f (pathOf way) (t.base ++ way)) ↔
      (f.hasExtension (pathOf way) = true →
        f.isExcluded (dotSlash (pathOf way)) = f.isExcluded (pathOf way)) := by
    rw [hhere, hown, FileFilter.accepts, Bool.and_eq_true, Bool.not_eq_true']
    cases f.hasExtension (pathOf way) <;> cases f.isExcluded (dotSlash (pathOf way)) <;>
      cases f.isExcluded (pathOf way) <;> simp
  refine ⟨hown, fun k hk hlt => ?_, hhere, hagree, fun hdeep => hagree.2 fun _ => ?_⟩
  · have habove : way.take k ≠ [] := by simp [hne, hk.ne']
    have hrest : way.drop k ≠ [] := by simpa using hlt
    have hsplit : t.base ++ way.take k ++ way.drop k = t.base ++ way := by
      rw [List.append_assoc, List.take_append_drop]
    have hdir : t.isDirectoryAt (t.base ++ way.take k) = true := by
      have hdir := ht.above _ hn (t.base.length + k) (by simp [hlt])
      rwa [List.take_length_add_append] at hdir
    have hbelow : way.drop k ∈ t.filesBelow (t.base ++ way.take k) :=
      mem_filesBelow_iff.2 ⟨hrest, content, hsplit ▸ hn⟩
    have hnames : ∀ name ∈ way.take k ++ way.drop k, IsEntryName name := by
      rwa [List.take_append_drop]
    have hfound := discovers_dir_iff (f := f) ht (locate_take ht hway hfile hk) hdir hbelow
    rw [hsplit, pathBelow_pathOf habove hrest hnames, List.take_append_drop] at hfound
    rw [hfound, hown]
  · exact isExcluded_dotSlash hf hdeep (pathOf way)

end Relative

/-- A glob of some tokens, the characters of a text, and a wildcard at its end. -/
def wildGlob (front : List GlobToken) (text : String) : Glob :=
  ⟨excludeStyle, front ++ text.toList.map .literal ++ [.many]⟩

/-- A glob that starts with two stars leaves the dot and the directories above a file in agreement:
the file is found from all of them. -/
theorem discovers_relative_inputs_twoStars :
    ∃ f, FileFilter.ofTexts ["java"] ["**/target/*"] = .ok f ∧
      ∀ input ∈ [(⟨"."⟩ : Path), ⟨"src"⟩, ⟨"src/gen"⟩, ⟨"src/gen/B.java"⟩],
        Discovers overlapTree f input
          ["w".toList, "src".toList, "gen".toList, "B.java".toList] := by
  have hglob : Glob.ofText? excludeStyle "**/target/*".toList =
      some (wildGlob [.deepFront] "target/") :=
    (Glob.ofText?_twoStars excludeStyle "target/*".toList).trans (by cbv)
  have hf := ofTexts_singleton ["java"] hglob
  have hnames : ∀ name ∈ ["src".toList, "gen".toList, "B.java".toList], IsEntryName name := by
    decide +kernel
  obtain ⟨hown, habove, -, -, hhere⟩ := discovers_relative_inputs (t := overlapTree)
    (by decide +kernel) hnames (by decide +kernel) hf
  have hfound := hown.2 (by decide +kernel)
  have hdeep : ∀ text ∈ ["**/target/*"],
      ∃ g, Glob.ofText? excludeStyle text.toList = some g ∧ g.StartsDeep := by
    rw [List.forall_mem_singleton]
    exact ⟨_, hglob, 't', _, rfl, by decide⟩
  refine ⟨_, hf, ?_⟩
  simp only [List.forall_mem_cons]
  exact ⟨(hhere hdeep).2 hfound, (habove 1 (by decide) (by decide)).2 hfound,
    (habove 2 (by decide) (by decide)).2 hfound, hfound, by simp⟩

/-- A file is found by its directory and not by the dot, or the other way round, by a glob that says
where the file is. -/
theorem discovers_differs_at_dot :
    (∃ f, FileFilter.ofTexts ["java"] ["./src/*"] = .ok f ∧ f.accepts ⟨"src/A.java"⟩ = true ∧
      Discovers overlapTree f ⟨"src"⟩ ["w".toList, "src".toList, "A.java".toList] ∧
      ¬Discovers overlapTree f ⟨"."⟩ ["w".toList, "src".toList, "A.java".toList]) ∧
    ∃ f, FileFilter.ofTexts ["java"] ["src/*"] = .ok f ∧ f.hasExtension ⟨"src/A.java"⟩ = true ∧
      ¬Discovers overlapTree f ⟨"src"⟩ ["w".toList, "src".toList, "A.java".toList] ∧
      Discovers overlapTree f ⟨"."⟩ ["w".toList, "src".toList, "A.java".toList] := by
  have ht : overlapTree.IsTree := by decide +kernel
  have hsrc (f : FileFilter) : Discovers overlapTree f ⟨"src"⟩ ["w".toList, "src".toList,
      "A.java".toList] ↔ f.accepts ⟨"src/A.java"⟩ = true := by
    have hroot : overlapTree.locate ⟨"src"⟩ = .ok ["w".toList, "src".toList] := by decide +kernel
    have hway : ["A.java".toList] ∈ overlapTree.filesBelow ["w".toList, "src".toList] := by
      decide +kernel
    exact discovers_dir_iff ht hroot (by decide +kernel) hway
  have hhere (f : FileFilter) : Discovers overlapTree f ⟨"."⟩ ["w".toList, "src".toList,
      "A.java".toList] ↔ f.accepts ⟨"./src/A.java"⟩ = true := by
    have hroot : overlapTree.locate ⟨"."⟩ = .ok ["w".toList] := by decide +kernel
    have hway : ["src".toList, "A.java".toList] ∈ overlapTree.filesBelow ["w".toList] := by
      decide +kernel
    exact discovers_dir_iff ht hroot (by decide +kernel) hway
  have hdot : Glob.ofText? excludeStyle "./src/*".toList = some (wildGlob [] "./src/") := by cbv
  have hname : Glob.ofText? excludeStyle "src/*".toList = some (wildGlob [] "src/") := by cbv
  refine ⟨⟨_, ofTexts_singleton _ hdot, ?_⟩, ⟨_, ofTexts_singleton _ hname, ?_⟩⟩
  · rw [hsrc, hhere]
    decide +kernel
  · rw [hsrc, hhere]
    decide +kernel

/-! ### Excluded directories -/

/-- The path of what is met at a way below a directory that is searched; nothing lies between the
directory and itself. -/
def walkedPath (dir : Path) (way : Location) : Path := if way = [] then dir else pathBelow dir way

/-- The path of what is below something goes on after the path of that. -/
lemma prefix_walkedPath {dir : Path} (hdir : dir.text.isEmpty = false) {way below : Location}
    (hbelow : below ≠ []) (hnames : ∀ name ∈ way ++ below, IsEntryName name) :
    (walkedPath dir way).text.toList <+: (walkedPath dir (way ++ below)).text.toList := by
  obtain ⟨hways, hbelows⟩ := List.forall_mem_append.1 hnames
  have hne : way ++ below ≠ [] := by simp [hbelow]
  rw [walkedPath, walkedPath, if_neg hne, toList_text_pathBelow hne hnames hdir]
  split_ifs with hway
  · exact (prefix_lead dir).trans (List.prefix_append _ _)
  · rw [toList_text_pathBelow hway hways hdir, locationText_append hway hbelow, ← List.append_assoc]
    exact List.prefix_append _ _

/-- A glob that ends in a wildcard and matches the path of a directory excludes everything below. -/
lemma isExcluded_below {g : Glob} (hg : CompiledGlob.ofGlob g ∈ f.exclude)
    (hstyle : g.style.keepsSlashes = false) (hopen : g.reachesOn = true) {dir : Path}
    (hdir : dir.text.isEmpty = false) {way below : Location} (hbelow : below ≠ [])
    (hnames : ∀ name ∈ way ++ below, IsEntryName name)
    (hmatch : (CompiledGlob.ofGlob g).isMatch (walkedPath dir way).text.toList = true) :
    f.isExcluded (walkedPath dir (way ++ below)) = true := by
  obtain ⟨more, hmore⟩ := prefix_walkedPath hdir hbelow hnames
  rw [FileFilter.isExcluded, List.any_eq_true]
  refine ⟨_, hg, ?_⟩
  rw [← hmore]
  exact Glob.isMatch_append hstyle hopen hmatch more

/-- **Nothing is found below an excluded directory**, if the glob that matches the path of the
directory ends in a wildcard.

For inputs that lead somewhere there is a listing. It has no file that is below the directory under
the path that the file has below the input; and if a listed path leads to a file below the
directory, another input stands for it. -/
theorem discover_nothing_below (hf : FileFilter.ofTexts extensions exclude = .ok f)
    {text : String} (htext : text ∈ exclude) {g : Glob}
    (hg : Glob.ofText? excludeStyle text.toList = some g) (hopen : g.reachesOn = true)
    (ht : t.IsTree) {ps : List Path} (hps : ∀ p ∈ ps, t.isThere p = true) {input : Path}
    {root way : Location} (hroot : t.locate input = .ok root)
    (hmatch : (CompiledGlob.ofGlob g).isMatch (walkedPath input way).text.toList = true)
    (useIgnoreFiles : Bool) :
    ∃ files, discover t f useIgnoreFiles ps = .ok files ∧
      (∀ below content, below ≠ [] → (root ++ way ++ below, Node.file content) ∈ t.nodes →
        walkedPath input (way ++ below) ∉ files) ∧
      ∀ q ∈ files, ∀ loc, t.LeadsTo q loc → root ++ way <+: loc → loc ≠ root ++ way →
        ∃ p ∈ ps, p ≠ input ∧ ∃ own, filesFor t f useIgnoreFiles p = .ok own ∧ q ∈ own := by
  obtain ⟨all, hall⟩ := exists_filesForAll f useIgnoreFiles hps
  have hinput := isEmpty_text_of_locate hroot
  have hstyle : g.style.keepsSlashes = false := by rw [Glob.style_of_ofText? hg]; rfl
  have hexcluded : CompiledGlob.ofGlob g ∈ f.exclude :=
    (mem_exclude_iff hf).2 ⟨text, htext, by rw [CompiledGlob.ofText?, hg]; rfl⟩
  have hnone : ∀ below content, below ≠ [] → (root ++ way ++ below, Node.file content) ∈ t.nodes →
      walkedPath input (way ++ below) ∉ sortPaths all := by
    intro below content hbelow hn hlisted
    have hnames := ht.names_below hn (List.append_assoc root way below)
    have hrefused := FileFilter.not_accepts_of_excluded
      (isExcluded_below hexcluded hstyle hopen hinput hbelow hnames hmatch)
    obtain ⟨p, -, own, hown, hq⟩ := (mem_filesForAll_iff hall).1 (mem_of_mem_sortPaths hlisted)
    rw [(mem_filesFor hown hq).1] at hrefused
    cases hrefused
  refine ⟨sortPaths all, discover_eq_ok_iff.2 ⟨all, hall, rfl⟩, hnone, ?_⟩
  -- What the input itself stands for below the directory would be listed under its own path there.
  intro q hq loc hloc hunder hne
  obtain ⟨p, hp, own, hown, hmem⟩ := (mem_filesForAll_iff hall).1 (mem_of_mem_sortPaths hq)
  refine ⟨p, hp, ?_, own, hown, hmem⟩
  rintro rfl
  obtain ⟨-, ⟨hfile, rfl⟩ | ⟨root', way', hroot', hway', rfl⟩⟩ := mem_filesFor hown hmem
  · have hloc : root = loc := Except.ok.inj ((leadsTo_of_locate hroot).symm.trans hloc)
    subst hloc
    exact hne (hunder.eq_of_length_le (by simp)).symm
  · obtain rfl : root' = root := Except.ok.inj (hroot'.symm.trans hroot)
    obtain ⟨hne', content, hn⟩ := mem_filesBelow_iff.1 hway'
    obtain rfl : root' ++ way' = loc :=
      Except.ok.inj ((leadsTo_pathBelow ht hroot hne' hn rfl).symm.trans hloc)
    obtain ⟨below, rfl⟩ := (List.prefix_append_right_inj root').1 hunder
    have hbelow : below ≠ [] := by
      rintro rfl
      exact hne (by rw [List.append_nil])
    refine hnone below content hbelow (by rwa [List.append_assoc]) ?_
    rwa [walkedPath, if_neg hne']

/-- A glob with a wildcard after the name of a directory leaves out the file in it. -/
theorem discover_nothing_below_gen :
    ∃ f, FileFilter.ofTexts ["java"] ["src/gen*"] = .ok f ∧
      discover overlapTree f false [⟨"src"⟩] = .ok [⟨"src/A.java"⟩] ∧
      ∀ q ∈ [(⟨"src/A.java"⟩ : Path)], ∀ loc, overlapTree.LeadsTo q loc →
        ¬(["w".toList, "src".toList, "gen".toList] <+: loc ∧
          loc ≠ ["w".toList, "src".toList, "gen".toList]) := by
  have hglob : Glob.ofText? excludeStyle "src/gen*".toList = some (wildGlob [] "src/gen") := by cbv
  have hf := ofTexts_singleton ["java"] hglob
  have hthere : ∀ p ∈ [(⟨"src"⟩ : Path)], overlapTree.isThere p = true := by decide +kernel
  have hroot : overlapTree.locate ⟨"src"⟩ = .ok ["w".toList, "src".toList] := by decide +kernel
  have hmatch : (CompiledGlob.ofGlob (wildGlob [] "src/gen")).isMatch
      (walkedPath ⟨"src"⟩ ["gen".toList]).text.toList = true := by decide +kernel
  obtain ⟨files, hfiles, -, honly⟩ := discover_nothing_below hf List.mem_cons_self hglob
    (by decide +kernel) (by decide +kernel) hthere hroot hmatch false
  have hlist : discover overlapTree ⟨["java".toList], [.ofGlob (wildGlob [] "src/gen")]⟩ false
      [⟨"src"⟩] = .ok [⟨"src/A.java"⟩] := by
    refine discover_eq_ok_iff.2 ⟨[⟨"src/A.java"⟩], by decide +kernel, ?_⟩
    rw [sortPaths_of_pairwise (by decide +kernel)]
    decide +kernel
  obtain rfl : files = [⟨"src/A.java"⟩] := Except.ok.inj (hfiles.symm.trans hlist)
  refine ⟨_, hf, hlist, ?_⟩
  rintro q hq loc hloc ⟨hunder, hne⟩
  obtain ⟨p, hp, hother, -⟩ := honly q hq loc hloc hunder hne
  exact hother (List.mem_singleton.1 hp)

/-- A glob that matches the path of a directory and nothing more leaves out nothing in it. -/
theorem discover_below_excluded_directory :
    ∃ f, FileFilter.ofTexts ["java"] ["src/gen"] = .ok f ∧
      overlapTree.isDirectory ⟨"src/gen"⟩ = true ∧
      f.isExcluded (walkedPath ⟨"src"⟩ ["gen".toList]) = true ∧
      discover overlapTree f false [⟨"src"⟩] = .ok [⟨"src/A.java"⟩, ⟨"src/gen/B.java"⟩] := by
  have hglob : Glob.ofText? excludeStyle "src/gen".toList =
      some ⟨excludeStyle, "src/gen".toList.map .literal⟩ := by cbv
  refine ⟨_, ofTexts_singleton _ hglob, by decide +kernel, by decide +kernel,
    discover_eq_ok_iff.2 ⟨[⟨"src/A.java"⟩, ⟨"src/gen/B.java"⟩], by decide +kernel, ?_⟩⟩
  rw [sortPaths_of_pairwise (by decide +kernel)]
  decide +kernel

end QualityGate
