import QualityGate.Command.Basic
import Mathlib.Tactic

/-!
What writing does to a tree of files. Making directories leaves every file as it is, and writing a
text to a path changes the one file that the path leads to.

* `FileTree.Grows`: a tree with nothing but further directories.
* `FileTree.grows_createDirectories`: making directories gives such a tree.
* `FileTree.locate_of_write`: a file that was written is found by its path.
* `FileTree.differsAt_of_deliver`, `FileTree.sameFiles_of_deliver`: a text that is delivered changes
  one file, and none if something stops it.
-/

namespace QualityGate

namespace FileTree

variable {t t' t'' : FileTree} {p : Path}

/-! ### Files at locations -/

/-- The content of the file at a location. -/
def contentAt? (t : FileTree) (loc : Location) : Option (List UInt8) :=
  match t.node? loc with
  | some (.file content) => some content
  | some .directory | none => none

/-- A directory is no file. -/
lemma contentAt?_of_directory {loc : Location} (h : t.node? loc = some .directory) :
    t.contentAt? loc = none := by
  rw [contentAt?, h]

/-- Nothing changes at another location than the one where something is put; the root is no
exception. -/
lemma node?_put_of_ne {loc other : Location} (n : Node) (h : other ≠ loc) :
    (t.put loc n).node? other = t.node? other := by
  by_cases hroot : other = []
  · rw [hroot]
    rfl
  · rw [node?_put n hroot, if_neg h.symm]

/-- What is put where no directory is, is there. -/
lemma node?_put_self {loc : Location} (n : Node) (h : t.isDirectoryAt loc = false) :
    (t.put loc n).node? loc = some n := by
  have hroot : loc ≠ [] := by
    rintro rfl
    cases h
  rw [node?_put n hroot, if_pos rfl]

/-! ### Further directories -/

/-- The second tree is the first one with further directories: what is there stays, and what is new
is a directory. -/
structure Grows (t t' : FileTree) : Prop where
  workingDirectory : t'.workingDirectory = t.workingDirectory
  node (loc : Location) :
    t'.node? loc = t.node? loc ∨ t.node? loc = none ∧ t'.node? loc = some .directory

namespace Grows

/-- Nothing is new in a tree itself. -/
lemma refl (t : FileTree) : t.Grows t := ⟨rfl, fun _ => .inl rfl⟩

/-- A tree that grows twice grows. -/
lemma trans (h : t.Grows t') (h' : t'.Grows t'') : t.Grows t'' := by
  refine ⟨h'.workingDirectory.trans h.workingDirectory, fun loc => ?_⟩
  rcases h'.node loc with hsame' | ⟨hnone', hdir'⟩
  · rw [hsame']
    exact h.node loc
  · rcases h.node loc with hsame | ⟨-, hdir⟩
    · exact .inr ⟨hsame.symm.trans hnone', hdir'⟩
    · rw [hdir] at hnone'
      cases hnone'

/-- The files of a tree that grows stay as they are. -/
lemma contentAt? (h : t.Grows t') (loc : Location) : t'.contentAt? loc = t.contentAt? loc := by
  rcases h.node loc with hsame | ⟨hnone, hdir⟩
  · rw [FileTree.contentAt?, FileTree.contentAt?, hsame]
  · rw [contentAt?_of_directory hdir, FileTree.contentAt?, hnone]

end Grows

/-- A directory where nothing was makes a tree grow. -/
lemma grows_put {loc : Location} (h : t.node? loc = none) : t.Grows (t.put loc .directory) := by
  refine ⟨rfl, fun other => ?_⟩
  by_cases heq : other = loc
  · have hnotDir : t.isDirectoryAt loc = false := by simp [isDirectoryAt, h]
    rw [heq]
    exact .inr ⟨h, node?_put_self .directory hnotDir⟩
  · exact .inl (node?_put_of_ne _ heq)

/-- A new directory makes a tree grow. -/
lemma grows_createDirectory (h : t.createDirectory p = .ok t') : t.Grows t' := by
  unfold createDirectory at h
  split at h
  · cases h
  · cases h
  · split_ifs at h with hthere
    cases h
    exact grows_put (by simpa using hthere)

/-- A directory that may be there already makes a tree grow. -/
lemma grows_ensureDirectory (h : t.ensureDirectory p = .ok t') : t.Grows t' := by
  unfold ensureDirectory at h
  split at h
  case h_1 hcreate =>
    cases h
    exact grows_createDirectory hcreate
  case h_2 =>
    split_ifs at h
    cases h
    exact Grows.refl t

/-- Directories made one after another make a tree grow, also if one of them cannot be made. -/
lemma grows_createEach (t : FileTree) (ps : List Path) : t.Grows (t.createEach ps).1 := by
  induction ps generalizing t with
  | nil => exact Grows.refl t
  | cons p ps ih =>
      unfold createEach
      cases h : t.ensureDirectory p with
      | error e => exact Grows.refl t
      | ok t₁ => exact (grows_ensureDirectory h).trans (ih t₁)

/-- So do those that are made from the first one that can be made. -/
lemma grows_createFrom (t : FileTree) (inside ps : List Path) :
    t.Grows (t.createFrom inside ps).1 := by
  induction ps generalizing inside with
  | nil => exact grows_createEach t inside
  | cons p ps ih =>
      unfold createFrom
      cases h : t.ensureDirectory p with
      | ok t₁ => exact (grows_ensureDirectory h).trans (grows_createEach t₁ inside)
      | error e =>
          cases e with
          | notFound => exact ih (p :: inside)
          | _ => exact Grows.refl t

/-- Making a directory and those on the way to it makes a tree grow. -/
theorem grows_createDirectories (t : FileTree) (p : Path) : t.Grows (t.createDirectories p).1 :=
  grows_createFrom t [] _

/-- So does making the directories above a file. -/
lemma grows_createAbove (t : FileTree) (p : Path) : t.Grows (t.createAbove p).1 := by
  unfold createAbove
  split
  · exact Grows.refl t
  · split_ifs
    · exact Grows.refl t
    · exact grows_createDirectories t _

/-! ### Ways through a tree -/

section Put

variable {loc : Location} (h : t.isDirectoryAt loc = false) (n : Node)

include h

/-- What is put where no directory is leaves the directories. -/
lemma isDirectoryAt_put {other : Location} (hdir : t.isDirectoryAt other = true) :
    (t.put loc n).isDirectoryAt other = true := by
  have hne : other ≠ loc := by
    rintro rfl
    rw [h] at hdir
    cases hdir
  rw [isDirectoryAt, node?_put_of_ne n hne]
  exact hdir

/-- Nothing is missing where something was put. -/
lemma isNone_node?_put {other : Location} (hthere : ¬(t.node? other).isNone = true) :
    ¬((t.put loc n).node? other).isNone = true := by
  by_cases heq : other = loc
  · rw [heq, node?_put_self n h]
    exact Bool.false_ne_true
  · rw [node?_put_of_ne n heq]
    exact hthere

/-- A way through a tree stays when something is put where no directory is. -/
lemma walk_put {start found : Location} {parts : List (List Char)}
    (hwalk : t.walk start parts = .ok found) : (t.put loc n).walk start parts = .ok found := by
  induction parts generalizing start with
  | nil => exact hwalk
  | cons part rest ih =>
      rw [walk] at hwalk ⊢
      split_ifs at hwalk with hnot hsilent hup hfits hnone
      all_goals
        rw [Bool.not_eq_true', Bool.not_eq_false] at hnot
        rw [isDirectoryAt_put h n hnot, Bool.not_true, if_neg Bool.false_ne_true]
      · rw [if_pos hsilent]
        exact ih hwalk
      · rw [if_neg hsilent, if_pos hup]
        exact ih hwalk
      · rw [if_neg hsilent, if_neg hup, if_neg hfits, if_neg (isNone_node?_put h n hnone)]
        exact ih hwalk

end Put

/-- A way goes on where its first part led. -/
lemma walk_append {loc next : Location} {parts : List (List Char)}
    (h : t.walk loc parts = .ok next) (more : List (List Char)) :
    t.walk loc (parts ++ more) = t.walk next more := by
  induction parts generalizing loc with
  | nil => cases h; rfl
  | cons part rest ih =>
      rw [walk] at h
      rw [List.cons_append, walk]
      split_ifs at h ⊢ <;> exact ih h

/-! ### Writing -/

/-- Parts that are kept as they are when empty ones are dropped at their end end in one that is not
empty. -/
lemma ne_nil_of_dropWhile_reverse {front : List (List Char)} {last : List Char}
    (h : (front ++ [last]).length ≤ ((front ++ [last]).reverse.dropWhile List.isEmpty).length) :
    last ≠ [] := by
  rintro rfl
  have hle := (List.dropWhile_suffix (l := front.reverse) List.isEmpty).length_le
  simp only [List.reverse_append, List.reverse_singleton, List.singleton_append,
    List.dropWhile_cons, List.isEmpty_nil, if_true, List.length_append, List.length_singleton] at h
  rw [List.length_reverse] at hle
  omega

/-- A place for a file is what the last part of a path names in the directory that the parts before
it lead to. -/
lemma slot_eq_some {s : Slot} (h : t.slot p = .ok (some s)) (hname : s.isDirectoryName = false) :
    pathError? p = none ∧ ∃ front, p.parts = front ++ [s.name] ∧
      t.walk (t.origin p) front = .ok s.directory ∧ t.isDirectoryAt s.directory = true ∧
      Path.isSilentPart s.name = false ∧ s.name ≠ ['.', '.'] ∧ fitsName s.name = true := by
  unfold slot at h
  split at h
  · cases h
  · next herror =>
    dsimp only at h
    split at h
    · cases h
    · next last hlast =>
      split at h
      · cases h
      · next loc hwalk =>
        split_ifs at h with hnot hdots hfits
        · cases h
        cases h
        -- there is no slash at the end, so that all parts are named
        have hlen : p.parts.length ≤ (p.parts.reverse.dropWhile List.isEmpty).length := by
          simpa using hname
        have hall : (p.parts.reverse.dropWhile List.isEmpty).reverse = p.parts := by
          have hsame := (List.dropWhile_suffix (l := p.parts.reverse) List.isEmpty).eq_of_length_le
            (by simpa using hlen)
          rw [hsame, List.reverse_reverse]
        rw [hall] at hlast hwalk
        obtain ⟨front, hparts⟩ := List.getLast?_eq_some_iff.1 hlast
        have hne : last ≠ [] := ne_nil_of_dropWhile_reverse (hparts ▸ hlen)
        rw [hparts, List.dropLast_concat] at hwalk
        rw [not_or] at hdots
        have hloud : Path.isSilentPart last = false := by simp [Path.isSilentPart, hne, hdots.1]
        exact ⟨herror, front, hparts, hwalk, by simpa using hnot, hloud, hdots.2,
          by simpa using hfits⟩

/-- **A file that was written is found by its path**, and has what was written. Nothing changes at
another location. -/
theorem locate_of_write {content : List UInt8} (h : t.write p content = .ok t') :
    ∃ loc, t'.locate p = .ok loc ∧ t'.contentAt? loc = some content ∧
      ∀ other, other ≠ loc → t'.node? other = t.node? other := by
  unfold write at h
  split at h
  · cases h
  · cases h
  · next s hslot =>
    split_ifs at h with hno
    cases h
    rw [Bool.or_eq_true, not_or, Bool.not_eq_true, Bool.not_eq_true] at hno
    obtain ⟨hname, hnotDir⟩ := hno
    obtain ⟨herror, front, hparts, hwalk, hdir, hloud, hup, hfits⟩ := slot_eq_some hslot hname
    have hnew := node?_put_self (.file content) hnotDir
    refine ⟨s.location, ?_, by rw [contentAt?, hnew], fun other hne => node?_put_of_ne _ hne⟩
    have hthere : ((t.put s.location (.file content)).node? (s.directory ++ [s.name])).isNone =
        false := by
      rw [← Slot.location, hnew]
      rfl
    rw [locate, herror, hparts]
    show (t.put s.location (.file content)).walk (t.origin p) _ = _
    rw [walk_append (walk_put hnotDir _ hwalk), walk, isDirectoryAt_put hnotDir _ hdir, hloud,
      hfits, hthere]
    simp only [Bool.not_true, Bool.false_eq_true, if_false, if_neg hup]
    rfl

/-- What was written is read back. -/
lemma read_of_locate {loc : Location} {content : List UInt8} (h : t.locate p = .ok loc)
    (hcontent : t.contentAt? loc = some content) : t.read p = .ok content := by
  unfold contentAt? at hcontent
  split at hcontent
  · next found hnode =>
    cases hcontent
    rw [read, h]
    simp only [hnode]
  · cases hcontent
  · cases hcontent

/-! ### Deliveries -/

/-- Two trees have the same files, with the same contents. -/
def SameFiles (t t' : FileTree) : Prop := ∀ loc, t'.contentAt? loc = t.contentAt? loc

/-- In the second tree a path leads to a file with a content, and no other file is new, missing or
different from the first tree. -/
def DiffersAt (t t' : FileTree) (p : Path) (content : List UInt8) : Prop :=
  t'.read p = .ok content ∧ ∃ loc, t'.locate p = .ok loc ∧
    ∀ other, other ≠ loc → t'.contentAt? other = t.contentAt? other

/-- **A delivery that is stopped leaves all files as they were.** -/
theorem sameFiles_of_deliver {text : String} {e : FileError}
    (h : t.deliver p text = (t', some e)) : t.SameFiles t' := by
  have hgrows := grows_createAbove t p
  unfold deliver at h
  split at h
  · next t₁ e₁ habove =>
    cases h
    rw [habove] at hgrows
    exact hgrows.contentAt?
  · next t₁ habove =>
    rw [habove] at hgrows
    split at h
    · cases h
      exact hgrows.contentAt?
    · cases h

/-- **A delivery that is not stopped changes one file**, which its path leads to and which has the
text. -/
theorem differsAt_of_deliver {text : String} (h : t.deliver p text = (t', none)) :
    t.DiffersAt t' p (Text.Utf8.encode text.toList) := by
  have hgrows := grows_createAbove t p
  unfold deliver at h
  split at h
  · cases h
  · next t₁ habove =>
    rw [habove] at hgrows
    split at h
    · cases h
    · next t₂ hwrite =>
      cases h
      obtain ⟨loc, hlocate, hcontent, hother⟩ := locate_of_write hwrite
      refine ⟨read_of_locate hlocate hcontent, loc, hlocate, fun other hne => ?_⟩
      rw [contentAt?, hother other hne]
      exact hgrows.contentAt? other

end FileTree

end QualityGate
