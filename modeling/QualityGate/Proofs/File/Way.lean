import QualityGate.Discovery.Files
import QualityGate.Proofs.File.Writing
import QualityGate.Proofs.Path.Spelling
import Mathlib.Tactic

/-!
Where paths lead in a tree of files, and how what is below a directory is spelled. A path that does
not go up leads to the place where it starts, followed by its steps. So two such paths that begin in
the same way and lead to the same place have the same components.

* `FileTree.IsTree`: what is listed is there, under proper names and in directories.
* `FileTree.LeadsTo`: a path leads to a location.
* `FileTree.LeadsTo.components_eq`: **the components of a path** are known from where it leads.
* `FileTree.leadsTo_pathBelow`: the path of a file below a directory leads to that file.
-/

namespace QualityGate

namespace FileTree

/-- A name that an entry of a directory can have. -/
def IsEntryName (name : List Char) : Prop :=
  Path.isSilentPart name = false ∧ name ≠ ['.', '.'] ∧ '/' ∉ name ∧ fitsName name = true

/-- The nodes of the tree make up a tree: each of them is what is at its location, the names on the
way to it are names of entries, and above it there are directories. -/
structure IsTree (t : FileTree) : Prop where
  found : ∀ n ∈ t.nodes, t.node? n.1 = some n.2
  names : ∀ n ∈ t.nodes, ∀ name ∈ n.1, IsEntryName name
  above : ∀ n ∈ t.nodes, ∀ k < n.1.length, t.isDirectoryAt (n.1.take k) = true

instance (name : List Char) : Decidable (IsEntryName name) :=
  inferInstanceAs (Decidable (_ ∧ _ ∧ _ ∧ _))

instance (t : FileTree) : Decidable t.IsTree :=
  decidable_of_iff
    ((∀ n ∈ t.nodes, t.node? n.1 = some n.2) ∧ (∀ n ∈ t.nodes, ∀ name ∈ n.1, IsEntryName name) ∧
      ∀ n ∈ t.nodes, ∀ k < n.1.length, t.isDirectoryAt (n.1.take k) = true)
    ⟨fun ⟨h₁, h₂, h₃⟩ => ⟨h₁, h₂, h₃⟩, fun ⟨h₁, h₂, h₃⟩ => ⟨h₁, h₂, h₃⟩⟩

/-- The parts of a path lead to a location, however long the path is. -/
def LeadsTo (t : FileTree) (p : Path) (loc : Location) : Prop :=
  t.walk (t.origin p) p.parts = .ok loc

variable {t : FileTree} {p q : Path} {loc : Location}

/-! ### Paths that do not go up -/

/-- A way on which nothing goes up passes its steps in order. -/
lemma eq_append_of_walk {start : Location} {parts : List (List Char)} (hup : ['.', '.'] ∉ parts)
    (h : t.walk start parts = .ok loc) :
    loc = start ++ parts.filter fun part => !Path.isSilentPart part := by
  induction parts generalizing start with
  | nil => cases h; simp
  | cons part rest ih =>
      rw [List.mem_cons, not_or] at hup
      rw [walk] at h
      split_ifs at h with hdir hsilent hdots hfits hthere
      · rw [ih hup.2 h, List.filter_cons_of_neg (by simpa using hsilent)]
      · exact absurd hdots.symm hup.1
      · rw [ih hup.2 h, List.filter_cons_of_pos (by simpa using hsilent), List.append_assoc]
        rfl

/-- A path that does not go up leads to where it starts, followed by its steps. -/
lemma LeadsTo.eq_append (h : t.LeadsTo p loc) (hup : ¬p.Climbs) : loc = t.origin p ++ p.steps :=
  eq_append_of_walk hup h

/-- **Where a path leads and how it begins** say what its components are, if it does not go up. -/
theorem LeadsTo.components_eq (hp : t.LeadsTo p loc) (hq : t.LeadsTo q loc) (hpup : ¬p.Climbs)
    (hqup : ¬q.Climbs) (hfront : p.front = q.front) : p.components = q.components := by
  have hstart : t.origin p = t.origin q := by
    rw [origin, origin, Path.isAbsolute_of_front hfront]
  have hsteps : t.origin p ++ p.steps = t.origin p ++ q.steps := by
    rw [← hp.eq_append hpup, hstart]
    exact hq.eq_append hqup
  rw [p.components_eq, q.components_eq, hfront, List.append_cancel_left hsteps]

/-- A path that is looked up leads to the location that is found. -/
lemma leadsTo_of_locate (h : t.locate p = .ok loc) : t.LeadsTo p loc := by
  unfold locate at h
  split at h
  · cases h
  · exact h

/-- A path that leads to something has a text. -/
lemma isEmpty_text_of_locate (h : t.locate p = .ok loc) : p.text.isEmpty = false := by
  by_contra hempty
  rw [Bool.not_eq_false] at hempty
  have hnil : p.text.toList = [] := by simpa using hempty
  simp [locate, pathError?, hempty, hnil] at h

/-! ### Paths below a directory -/

/-- A way that leads somewhere leads through each of its places. -/
lemma exists_walk_of_append {start : Location} {parts more : List (List Char)}
    (h : t.walk start (parts ++ more) = .ok loc) :
    ∃ next, t.walk start parts = .ok next ∧ t.walk next more = .ok loc := by
  cases hparts : t.walk start parts with
  | ok next => exact ⟨next, rfl, walk_append hparts more ▸ h⟩
  | error e =>
      refine absurd h ?_
      clear h
      induction parts generalizing start with
      | nil => cases hparts
      | cons part rest ih =>
          rw [walk] at hparts
          rw [List.cons_append, walk]
          split_ifs at hparts ⊢
          all_goals first | exact ih hparts | simp

namespace IsTree

variable {n : Location × Node}

/-- There is something everywhere on the way to a node. -/
lemma isSome_node? (ht : t.IsTree) (hn : n ∈ t.nodes) (h : loc <+: n.1) :
    (t.node? loc).isSome = true := by
  rcases h.length_le.lt_or_eq with hlt | heq
  · have hdir := ht.above n hn _ hlt
    rw [← List.prefix_iff_eq_take.1 h, isDirectoryAt, beq_iff_eq] at hdir
    rw [hdir]
    rfl
  · rw [h.eq_of_length heq, ht.found n hn]
    rfl

/-- The names on the way from a directory to a node are names of entries. -/
lemma names_below (ht : t.IsTree) (hn : n ∈ t.nodes) {dir way : Location} (h : n.1 = dir ++ way) :
    ∀ name ∈ way, IsEntryName name := fun name hname =>
  ht.names n hn name (h ▸ List.mem_append_right dir hname)

/-- The names on the way to a node lead to it. -/
lemma walk_way (ht : t.IsTree) (hn : n ∈ t.nodes) {dir way : Location} (h : n.1 = dir ++ way) :
    t.walk dir way = .ok n.1 := by
  induction way generalizing dir with
  | nil => rw [h, List.append_nil]; rfl
  | cons name rest ih =>
      have hmem : name ∈ n.1 := by simp [h]
      obtain ⟨hloud, hup, -, hfits⟩ := ht.names n hn name hmem
      have hdir : t.isDirectoryAt dir = true := by
        have habove := ht.above n hn dir.length (by simp [h])
        rwa [h, List.take_left'  rfl] at habove
      have hthere : (t.node? (dir ++ [name])).isSome = true :=
        ht.isSome_node? hn ⟨rest, by rw [h, List.append_assoc]; rfl⟩
      have hnone : (t.node? (dir ++ [name])).isNone = false := by
        rw [← Option.not_isSome, hthere]
        rfl
      rw [walk, hdir, hloud, if_neg hup, hfits, hnone]
      exact ih (by rw [h, List.append_assoc]; rfl)

end IsTree

/-- What is at a location other than the root is listed. -/
lemma exists_mem_of_node? {node : Node} (h : t.node? loc = some node) (hne : loc ≠ []) :
    (loc, node) ∈ t.nodes := by
  rw [node?, if_neg (by simpa using hne), Option.map_eq_some_iff] at h
  obtain ⟨n, hfind, rfl⟩ := h
  have hloc : n.1 = loc := by simpa using List.find?_some hfind
  exact hloc ▸ List.mem_of_find?_eq_some hfind

/-- A way from a place in the tree leads to a place in the tree. -/
lemma IsTree.isSome_node?_of_walk (ht : t.IsTree) {start : Location} {parts : List (List Char)}
    (hstart : (t.node? start).isSome = true) (h : t.walk start parts = .ok loc) :
    (t.node? loc).isSome = true := by
  induction parts generalizing start with
  | nil => cases h; exact hstart
  | cons part rest ih =>
      rw [walk] at h
      split_ifs at h with hdir hsilent hup hfits hthere
      · exact ih hstart h
      · refine ih ?_ h
        by_cases hroot : start = []
        · rw [hroot]
          rfl
        · obtain ⟨node, hnode⟩ := Option.isSome_iff_exists.1 hstart
          exact ht.isSome_node? (exists_mem_of_node? hnode hroot) (List.dropLast_prefix start)
      · exact ih (Option.isSome_iff_ne_none.2 (by simpa using hthere)) h

/-- A path that leads to a file leads to its content. -/
lemma IsTree.exists_content (ht : t.IsTree) (h : t.isFile p = true) :
    ∃ loc content, t.locate p = .ok loc ∧ t.node? loc = some (.file content) := by
  rw [isFile, isThere, isDirectory] at h
  cases hp : t.locate p with
  | error e => rw [hp] at h; cases h
  | ok loc =>
      have hdir : t.isDirectoryAt loc = false := by simpa [hp, Except.toOption] using h
      have hwalk : t.walk (t.origin p) p.parts = .ok loc := leadsTo_of_locate hp
      obtain ⟨part, rest, hparts⟩ := List.exists_cons_of_ne_nil p.parts_ne_nil
      have hstart : (t.node? (t.origin p)).isSome = true := by
        rw [hparts, walk] at hwalk
        split at hwalk
        · cases hwalk
        · next hdir => simp_all [isDirectoryAt]
      obtain ⟨node, hnode⟩ := Option.isSome_iff_exists.1 (ht.isSome_node?_of_walk hstart hwalk)
      cases node with
      | directory => simp [isDirectoryAt, hnode] at hdir
      | file content => exact ⟨loc, content, rfl, hnode⟩

/-- The files below a directory are the nodes below it that are files. -/
lemma mem_filesBelow_iff {dir way : Location} :
    way ∈ t.filesBelow dir ↔ way ≠ [] ∧ ∃ content, (dir ++ way, Node.file content) ∈ t.nodes := by
  rw [filesBelow, List.mem_filterMap]
  constructor
  · rintro ⟨⟨loc, node⟩, hn, h⟩
    cases node with
    | directory => cases h
    | file content =>
        rw [Option.ite_none_right_eq_some] at h
        obtain ⟨hbelow, hway⟩ := h
        rw [Bool.and_eq_true, List.isPrefixOf_iff_prefix, decide_eq_true_eq] at hbelow
        obtain ⟨⟨rest, rfl⟩, hlt⟩ := hbelow
        rw [Option.some.injEq, List.drop_left' rfl] at hway
        subst hway
        exact ⟨by rintro rfl; simp at hlt, content, hn⟩
  · rintro ⟨hne, content, hn⟩
    have hlt : 0 < way.length := List.length_pos_iff.2 hne
    exact ⟨_, hn, by simp [hlt]⟩

/-! ### The spelling of what is below a directory -/

/-- The text of a location, read as a path. -/
def pathOf (loc : Location) : Path := ⟨String.ofList (locationText loc)⟩

section Below

variable {dir : Path} {way : Location} (hne : way ≠ [])
  (hway : ∀ name ∈ way, IsEntryName name)

include hne hway

/-- The parts of the text of a location are the names in it. -/
lemma parts_pathOf : (pathOf way).parts = way := by
  rw [Path.parts, pathOf, String.toList_ofList]
  exact Text.splitAt_intercalate hne fun name hname => (hway name hname).2.2.1

lemma steps_pathOf : (pathOf way).steps = way := by
  rw [Path.steps, parts_pathOf hne hway, List.filter_eq_self]
  exact fun name hname => by rw [(hway name hname).1]; rfl

lemma not_climbs_pathOf : ¬(pathOf way).Climbs := by
  rw [Path.Climbs, parts_pathOf hne hway]
  exact fun h => (hway _ h).2.1 rfl

/-- The text of a location does not start at the root. -/
lemma isAbsolute_pathOf : (pathOf way).isAbsolute = false := by
  rw [Bool.eq_false_iff, ne_eq, Path.isAbsolute_iff, parts_pathOf hne hway]
  rintro ⟨rest, rfl, -⟩
  have hloud := (hway [] List.mem_cons_self).1
  cases hloud

/-- The text of a location is not empty. -/
lemma isEmpty_text_pathOf : (pathOf way).text.isEmpty = false := by
  by_contra hempty
  have hnil : (pathOf way).text.toList = [] := by simpa using hempty
  have hparts := parts_pathOf hne hway
  rw [Path.parts, hnil] at hparts
  have hloud := (hway [] (hparts ▸ List.mem_singleton_self [])).1
  cases hloud

variable (hdir : dir.text.isEmpty = false)

include hdir

/-- What is below a directory is spelled like the directory in front. -/
lemma front_pathBelow : (pathBelow dir way).front = dir.front :=
  Path.front_join hdir (isAbsolute_pathOf hne hway)

lemma steps_pathBelow : (pathBelow dir way).steps = dir.steps ++ way := by
  rw [pathBelow, ← pathOf, Path.steps_join hdir (isAbsolute_pathOf hne hway),
    steps_pathOf hne hway]

lemma climbs_pathBelow : (pathBelow dir way).Climbs ↔ dir.Climbs := by
  rw [pathBelow, ← pathOf, Path.climbs_join hdir (isAbsolute_pathOf hne hway)]
  exact or_iff_left (not_climbs_pathOf hne hway)

end Below

variable {dir : Path} {way : Location}

/-- The text of a location below another one. -/
lemma locationText_append {above below : Location} (habove : above ≠ []) (hbelow : below ≠ []) :
    locationText (above ++ below) = locationText above ++ '/' :: locationText below := by
  induction above with
  | nil => exact absurd rfl habove
  | cons name above ih =>
      cases above with
      | nil =>
          obtain ⟨next, rest, rfl⟩ := List.exists_cons_of_ne_nil hbelow
          simp [locationText]
      | cons next above =>
          have hmore := ih (List.cons_ne_nil _ _)
          simp only [locationText, List.cons_append, List.intercalate_cons_cons] at hmore ⊢
          rw [hmore]
          simp

/-- The text of a directory that the text of what is below it follows: it ends in a slash. -/
def lead (dir : Path) : List Char :=
  if ['/'].isSuffixOf dir.text.toList then dir.text.toList else dir.text.toList ++ ['/']

/-- The text of a directory is in front of the texts of what is below it. -/
lemma prefix_lead (dir : Path) : dir.text.toList <+: lead dir := by
  rw [lead]
  split_ifs
  · exact List.prefix_rfl
  · exact List.prefix_append _ _

/-- The text of a path below a directory. -/
lemma toList_text_pathBelow (hne : way ≠ []) (hway : ∀ name ∈ way, IsEntryName name)
    (hdir : dir.text.isEmpty = false) :
    (pathBelow dir way).text.toList = lead dir ++ locationText way := by
  have hchild := isAbsolute_pathOf hne hway
  rw [pathBelow, ← pathOf, Path.join, hchild, hdir, lead, if_neg (by simp)]
  split_ifs with hslash
  · simp only [String.toList_append, pathOf, String.toList_ofList]
  · simp only [String.toList_append, pathOf, String.toList_ofList]
    rfl

/-- The text of a location does not end in a slash. -/
lemma lead_pathOf (hne : way ≠ []) (hway : ∀ name ∈ way, IsEntryName name) :
    lead (pathOf way) = locationText way ++ ['/'] := by
  rw [lead, pathOf, String.toList_ofList, if_neg]
  intro hslash
  obtain ⟨s, hs⟩ := List.isSuffixOf_iff_suffix.1 hslash
  have hparts := parts_pathOf hne hway
  rw [Path.parts, pathOf, String.toList_ofList, ← hs, Text.splitAt_append] at hparts
  have hmem : [] ∈ way := by
    rw [← hparts]
    exact List.mem_append_right _ List.mem_cons_self
  have hloud := (hway [] hmem).1
  cases hloud

/-- What is below a location that is spelled as it is, is spelled as it is. -/
lemma pathBelow_pathOf {above below : Location} (habove : above ≠ []) (hbelow : below ≠ [])
    (hnames : ∀ name ∈ above ++ below, IsEntryName name) :
    pathBelow (pathOf above) below = pathOf (above ++ below) := by
  obtain ⟨haboves, hbelows⟩ := List.forall_mem_append.1 hnames
  have htext := toList_text_pathBelow hbelow hbelows (isEmpty_text_pathOf habove haboves)
  have hsame : (pathBelow (pathOf above) below).text = (pathOf (above ++ below)).text := by
    rw [← String.toList_inj, htext, lead_pathOf habove haboves, pathOf, String.toList_ofList,
      locationText_append habove hbelow, List.append_assoc]
    rfl
  exact congrArg Path.mk hsame

/-- **The path of a node below a directory** leads to it. -/
theorem leadsTo_pathBelow (ht : t.IsTree) {root way : Location} (hp : t.locate p = .ok root)
    (hne : way ≠ []) {n : Location × Node} (hn : n ∈ t.nodes) (h : n.1 = root ++ way) :
    t.LeadsTo (pathBelow p way) n.1 := by
  have hway := ht.names_below hn h
  have hdir := isEmpty_text_of_locate hp
  have hchild := isAbsolute_pathOf hne hway
  have hstart : t.origin (pathBelow p way) = t.origin p := by
    rw [origin, origin, Path.isAbsolute_of_front (front_pathBelow hne hway hdir)]
  have hroot : t.walk (t.origin p) p.parts = .ok root := leadsTo_of_locate hp
  obtain ⟨above, -, hparts, hjoin⟩ := Path.exists_parts_join hdir hchild
  -- a slash at the end of the path of the directory makes no difference
  have habove : t.walk (t.origin p) above = .ok root := by
    rcases hparts with hparts | hparts
    · rwa [hparts] at hroot
    · rw [hparts] at hroot
      obtain ⟨next, hnext, hlast⟩ := exists_walk_of_append hroot
      rw [walk] at hlast
      split at hlast
      · cases hlast
      · have hsilent : Path.isSilentPart [] = true := rfl
        rw [if_pos hsilent] at hlast
        cases hlast
        exact hnext
  rw [LeadsTo, hstart, pathBelow, ← pathOf, hjoin, parts_pathOf hne hway, walk_append habove]
  exact ht.walk_way hn h

end FileTree

end QualityGate
