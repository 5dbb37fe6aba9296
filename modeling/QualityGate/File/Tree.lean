import QualityGate.File.Error
import QualityGate.Path.Basic
import QualityGate.Text.Utf8

/-!
Trees of files. A tree knows its files and directories by their locations, the names on the way from
the root. Paths are looked up name by name, from the root or from the working directory.

Names are texts in Unicode characters. There are files and directories only, no links, no devices
and no permissions: every file can be read, and every directory can be listed and added to.

* `FileTree.locate`: the location of what a path leads to.
* `FileTree.write`, `createDirectories`, `remove`: trees with a change.
* `node?_put`: putting something at a location changes nothing at another one.
-/

namespace QualityGate

/-- The names on the way from the root. -/
abbrev Location := List (List Char)

/-- What can be at a location. -/
inductive Node where
  | file (content : List UInt8)
  | directory
  deriving DecidableEq, Repr, Inhabited

/-- A tree of files, without links and permissions. -/
structure FileTree where
  workingDirectory : Path
  nodes : List (Location × Node)

namespace FileTree

/-! ### Locations -/

/-- What is at a location. The root is a directory. -/
def node? (t : FileTree) (loc : Location) : Option Node :=
  if loc.isEmpty then some .directory
  else (t.nodes.find? fun n => n.1 == loc).map Prod.snd

/-- There is a directory at a location. -/
def isDirectoryAt (t : FileTree) (loc : Location) : Bool := t.node? loc == some .directory

/-- The nodes with another node at a location. -/
def putIn (loc : Location) (n : Node) : List (Location × Node) → List (Location × Node)
  | [] => [(loc, n)]
  | m :: ms => if m.1 = loc then (loc, n) :: ms else m :: putIn loc n ms

/-- The tree with another node at a location. -/
def put (t : FileTree) (loc : Location) (n : Node) : FileTree :=
  { t with nodes := putIn loc n t.nodes }

/-- The tree without what is at a location. -/
def drop (t : FileTree) (loc : Location) : FileTree :=
  { t with nodes := t.nodes.filter fun n => n.1 != loc }

/-- Looking for another location does not see what is put. -/
theorem find?_putIn (loc other : Location) (n : Node) (ms : List (Location × Node)) :
    ((putIn loc n ms).find? fun m => m.1 == other).map Prod.snd =
      if loc = other then some n else (ms.find? fun m => m.1 == other).map Prod.snd := by
  induction ms with
  | nil => by_cases h : loc = other <;> simp [putIn, h]
  | cons m ms ih =>
    by_cases hm : m.1 = loc <;> by_cases h : loc = other <;> by_cases hmo : m.1 = other <;>
      simp_all [putIn]

/-- What is put at a location is there, and nothing changes at another location. -/
theorem node?_put {t : FileTree} {loc other : Location} (n : Node) (h : other ≠ []) :
    (t.put loc n).node? other = if loc = other then some n else t.node? other := by
  have he : other.isEmpty = false := by simpa using h
  simp only [node?, he, put, Bool.false_eq_true, if_false]
  exact find?_putIn loc other n t.nodes

/-! ### Paths -/

/-- The greatest number of bytes of a name. -/
def maxName : Nat := 255

/-- The greatest number of bytes of a path. -/
def maxPath : Nat := 4095

/-- A name is not too long. -/
def fitsName (name : List Char) : Bool := (Text.Utf8.encode name).length ≤ maxName

/-- The location of the working directory. -/
def base (t : FileTree) : Location := t.workingDirectory.parts.filter fun p => !Path.isSilentPart p

/-- Where a path starts. -/
def origin (t : FileTree) (p : Path) : Location := if p.isAbsolute then [] else t.base

/-- What is wrong with a path whatever the tree is. -/
def pathError? (p : Path) : Option FileError :=
  if p.text.toList.contains '\x00' then some .nulInPath
  else if p.text.isEmpty then some .notFound
  else if maxPath < (Text.Utf8.encode p.text.toList).length then some .nameTooLong
  else none

/-- The location that the parts of a path lead to. -/
def walk (t : FileTree) (loc : Location) : List (List Char) → Except FileError Location
  | [] => .ok loc
  | part :: rest =>
    if !t.isDirectoryAt loc then .error .notADirectory
    else if Path.isSilentPart part then walk t loc rest
    else if part = ['.', '.'] then walk t loc.dropLast rest
    else if !fitsName part then .error .nameTooLong
    else if (t.node? (loc ++ [part])).isNone then .error .notFound
    else walk t (loc ++ [part]) rest

/-- The location of what a path leads to. -/
def locate (t : FileTree) (p : Path) : Except FileError Location :=
  match pathError? p with
  | some e => .error e
  | none => t.walk (t.origin p) p.parts

/-- A path leads to something. -/
def isThere (t : FileTree) (p : Path) : Bool := (t.locate p).toOption.isSome

/-- A path leads to a directory. -/
def isDirectory (t : FileTree) (p : Path) : Bool := (t.locate p).toOption.any t.isDirectoryAt

/-- A path leads to a file. -/
def isFile (t : FileTree) (p : Path) : Bool := t.isThere p && !t.isDirectory p

/-! ### Reading -/

/-- The content of a file. -/
def read (t : FileTree) (p : Path) : Except FileError (List UInt8) :=
  match t.locate p with
  | .error e => .error e
  | .ok loc =>
    match t.node? loc with
    | some (.file content) => .ok content
    | some .directory => .error .isADirectory
    | none => .error .notFound

/-- The text in a file. -/
def readText (t : FileTree) (p : Path) : Except FileError (List Char) :=
  match t.read p with
  | .error e => .error e
  | .ok content =>
    match Text.Utf8.decode? content with
    | some text => .ok text
    | none => .error .invalidText

/-! ### Changing -/

/-- A place in a directory that something can be put at. -/
structure Slot where
  directory : Location
  name : List Char
  /-- The path has a slash at its end. -/
  isDirectoryName : Bool

/-- The location of a place. -/
def Slot.location (s : Slot) : Location := s.directory ++ [s.name]

/-- The place that a path names; none if it names a directory that is there in any case. -/
def slot (t : FileTree) (p : Path) : Except FileError (Option Slot) :=
  match pathError? p with
  | some e => .error e
  | none =>
    let named := (p.parts.reverse.dropWhile List.isEmpty).reverse
    match named.getLast? with
    | none => .ok none
    | some last =>
      match t.walk (t.origin p) named.dropLast with
      | .error e => .error e
      | .ok loc =>
        if !t.isDirectoryAt loc then .error .notADirectory
        else if last = ['.'] ∨ last = ['.', '.'] then .ok none
        else if !fitsName last then .error .nameTooLong
        else .ok (some ⟨loc, last, named.length < p.parts.length⟩)

/-- The tree with a file written. -/
def write (t : FileTree) (p : Path) (content : List UInt8) : Except FileError FileTree :=
  match t.slot p with
  | .error e => .error e
  | .ok none => .error .isADirectory
  | .ok (some s) =>
    if s.isDirectoryName || t.isDirectoryAt s.location then .error .isADirectory
    else .ok (t.put s.location (.file content))

/-- The tree with a new directory. -/
def createDirectory (t : FileTree) (p : Path) : Except FileError FileTree :=
  match t.slot p with
  | .error e => .error e
  | .ok none => .error .alreadyExists
  | .ok (some s) =>
    if (t.node? s.location).isSome then .error .alreadyExists
    else .ok (t.put s.location .directory)

/-- The tree with a directory that may be there already. -/
def ensureDirectory (t : FileTree) (p : Path) : Except FileError FileTree :=
  match t.createDirectory p with
  | .ok t => .ok t
  | .error e => if t.isDirectory p then .ok t else .error e

/-- A path and the paths above it, the longest first. -/
def ancestry : Nat → Path → List Path
  | 0, _ => []
  | depth + 1, p =>
    if p.text.isEmpty then []
    else p :: match p.parent? with
      | none => []
      | some parent => ancestry depth parent

/-- The tree with directories, as far as they can be created, and what stopped it. -/
def createEach (t : FileTree) : List Path → FileTree × Option FileError
  | [] => (t, none)
  | p :: ps =>
    match t.ensureDirectory p with
    | .error e => (t, some e)
    | .ok t => createEach t ps

/-- The tree with the first directory that can be created, and those that are to be created in
it. -/
def createFrom (t : FileTree) (inside : List Path) : List Path → FileTree × Option FileError
  | [] => t.createEach inside
  | p :: ps =>
    match t.ensureDirectory p with
    | .ok t => t.createEach inside
    | .error .notFound => createFrom t (p :: inside) ps
    | .error e => (t, some e)

/-- The tree with a directory and all directories on the way to it, as far as they can be created,
and what stopped it. -/
def createDirectories (t : FileTree) (p : Path) : FileTree × Option FileError :=
  t.createFrom [] (ancestry (p.components.length + 1) p)

/-- The tree without a file. -/
def remove (t : FileTree) (p : Path) : Except FileError FileTree :=
  match t.locate p with
  | .error e => .error e
  | .ok loc => if t.isDirectoryAt loc then .error .isADirectory else .ok (t.drop loc)

/-! ### Files -/

/-- The files below a directory, by the names on the way to them. -/
def filesBelow (t : FileTree) (dir : Location) : List Location :=
  t.nodes.filterMap fun n =>
    match n.2 with
    | .directory => none
    | .file _ =>
      if dir.isPrefixOf n.1 && dir.length < n.1.length then some (n.1.drop dir.length) else none

/-- The files that are in the second tree and not, or with another content, in the first one. -/
def changes (before after : FileTree) : List (Location × List UInt8) :=
  after.nodes.filterMap fun n =>
    match n.2 with
    | .directory => none
    | .file content => if before.node? n.1 = some n.2 then none else some (n.1, content)

end FileTree

end QualityGate
