import QualityGate.Discovery.Filter
import QualityGate.Discovery.Ignore
import QualityGate.File.Tree

/-!
Finding the files to look at. Directories are searched; files that are named are taken if the filter
takes them. Ignore files count in the directory that is searched and below it.

* `discover`: the files for some paths, in order and each once.
* `FileTree.isIgnored`: an ignore file leaves out a file or a directory above it.
* `filesFor_error_iff`: a path is refused exactly if it leads nowhere.
-/

namespace QualityGate

/-- The kinds of ignore files by their place in a directory. A kind that says something about an
entry decides before the kinds after it. -/
def ignoreFiles : List Location :=
  [[".ignore".toList], [".gitignore".toList],
   [".git".toList, "info".toList, "exclude".toList]]

/-- A dash, which stands for the standard input where ignore files count. -/
def Path.isStandardInput (p : Path) : Bool := p.components == [.name ['-']]

namespace FileTree

/-- The text of a location. -/
def locationText (loc : Location) : List Char := ['/'].intercalate loc

/-- The rules of a kind in a directory. -/
def rulesAt (t : FileTree) (dir kind : Location) : List IgnoreRule :=
  match t.node? (dir ++ kind) with
  | some (.file content) => IgnoreRule.ofFile content
  | _ => []

/-- What the ignore files of a kind say about an entry. The directories from the searched one down
to that of the entry are given nearest first, each with the way from it to the entry. -/
def keptBy? (t : FileTree) (kind : Location) (isDirectory : Bool) :
    List (Location × Location) → Option Bool
  | [] => none
  | (dir, way) :: dirs =>
    (IgnoreRule.keeps? (t.rulesAt dir kind) (locationText way) isDirectory).or
      (keptBy? t kind isDirectory dirs)

/-- The directories from the searched one down to that of an entry, nearest first. -/
def directoriesAbove (root way : Location) : List (Location × Location) :=
  ((List.range way.length).map fun n => (root ++ way.take n, way.drop n)).reverse

/-- The ignore files leave out an entry of a searched directory. -/
def leavesOut (t : FileTree) (root way : Location) (isDirectory : Bool) : Bool :=
  ignoreFiles.findSome? (fun kind => t.keptBy? kind isDirectory (directoriesAbove root way)) ==
    some false

/-- The ignore files leave out a file, or a directory on the way to it. -/
def isIgnored (t : FileTree) (root way : Location) : Bool :=
  t.leavesOut root way false ||
    (List.range (way.length - 1)).any fun n => t.leavesOut root (way.take (n + 1)) true

/-- The path of a file below a searched directory. -/
def pathBelow (dir : Path) (way : Location) : Path := dir.join ⟨String.ofList (locationText way)⟩

/-- The files below a directory that are searched. Where ignore files count, a dash stands for the
standard input and nothing is searched. -/
def search (t : FileTree) (useIgnoreFiles : Bool) (dir : Path) : List Path :=
  match t.locate dir with
  | .error _ => []
  | .ok root =>
    if useIgnoreFiles && dir.isStandardInput then []
    else
      ((t.filesBelow root).filter fun way => !useIgnoreFiles || !t.isIgnored root way).map
        (pathBelow dir)

end FileTree

/-- Paths without those that are equal to the one right before them. -/
def dropRepeated : List Path → List Path
  | [] => []
  | [p] => [p]
  | p :: q :: rest =>
    match dropRepeated (q :: rest) with
    | [] => [p]
    | r :: more => if p.order r = .eq then p :: more else p :: r :: more

/-- Paths in order and each once. -/
def sortPaths (ps : List Path) : List Path :=
  dropRepeated (ps.mergeSort fun p q => p.order q != .gt)

/-- The files that a path stands for. -/
def filesFor (t : FileTree) (f : FileFilter) (useIgnoreFiles : Bool) (p : Path) :
    Except GateError (List Path) :=
  if t.isDirectory p then .ok ((t.search useIgnoreFiles p).filter f.accepts)
  else if t.isFile p then .ok (if f.accepts p then [p] else [])
  else .error (.invalidPath p)

/-- The files that paths stand for, path by path. -/
def filesForAll (t : FileTree) (f : FileFilter) (useIgnoreFiles : Bool) :
    List Path → Except GateError (List Path)
  | [] => .ok []
  | p :: ps =>
    match filesFor t f useIgnoreFiles p with
    | .error e => .error e
    | .ok files =>
      match filesForAll t f useIgnoreFiles ps with
      | .error e => .error e
      | .ok more => .ok (files ++ more)

/-- The files that paths stand for, in order and each once. -/
def discover (t : FileTree) (f : FileFilter) (useIgnoreFiles : Bool) (ps : List Path) :
    Except GateError (List Path) :=
  (filesForAll t f useIgnoreFiles ps).map sortPaths

/-- A path stands for no files only if it leads to neither a directory nor a file. -/
theorem filesFor_error_iff {t : FileTree} {f : FileFilter} {useIgnoreFiles : Bool} {p : Path} :
    (∃ e, filesFor t f useIgnoreFiles p = .error e) ↔
      t.isDirectory p = false ∧ t.isFile p = false := by
  unfold filesFor
  cases t.isDirectory p <;> cases t.isFile p <;> simp

end QualityGate
