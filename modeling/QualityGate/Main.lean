import QualityGate.Command.Run

/-!
The command line. The files that an invocation looks at are read, the invocation is run on them, and
the files that it changes are written.
-/

namespace QualityGate

/-- The spelling of a location. -/
def absoluteText (loc : Location) : String := "/" ++ String.ofList (FileTree.locationText loc)

/-- What is at a location and below it. Links below it are passed over. -/
partial def readBelow (loc : Location) : IO (List (Location × Node)) := do
  let path ← IO.FS.realPath (absoluteText loc)
  match (← path.metadata).type with
  | .dir =>
    let mut nodes := [(loc, Node.directory)]
    for entry in ← path.readDir do
      match (← entry.path.symlinkMetadata).type with
      | .symlink | .other => continue
      | _ => nodes := nodes ++ (← readBelow (loc ++ [entry.fileName.toList]))
    return nodes
  | .file => return [(loc, .file (← IO.FS.readBinFile path).toList)]
  | _ => return []

/-- The directory at a location, if it is one. -/
def readDirectory (loc : Location) : IO (List (Location × Node)) := do
  let path ← IO.FS.realPath (absoluteText loc)
  match (← path.metadata).type with
  | .dir => return [(loc, .directory)]
  | _ => return []

/-- The tree with what is found; what cannot be read is not there. -/
def including (t : FileTree) (found : IO (List (Location × Node))) : IO FileTree := do
  try return (← found).foldl (fun t n => t.put n.1 n.2) t
  catch _ => return t

/-- The tree with what a path leads to, and the directories on the way to it. -/
def includingPath (t : FileTree) (p : Path) : IO FileTree := do
  let mut t := t
  let mut loc := t.origin p
  for part in p.parts.filter fun part => !Path.isSilentPart part do
    loc := if part = ['.', '.'] then loc.dropLast else loc ++ [part]
    t ← including t (readDirectory loc)
  including t (readBelow loc)

/-- The tree with the directories on the way to its working directory. -/
def includingBase (t : FileTree) : IO FileTree :=
  (List.range t.base.length).foldlM
    (fun t n => including t (readDirectory (t.base.take (n + 1)))) t

/-- The directory where the user keeps a configuration. -/
def userDirectory? : IO (Option Path) := do
  let parent? := match ← IO.getEnv "XDG_CONFIG_HOME", ← IO.getEnv "HOME" with
    | some dir, some home => if dir.startsWith "/" then some dir else some (home ++ "/.config")
    | some dir, none => if dir.startsWith "/" then some dir else none
    | none, some home => some (home ++ "/.config")
    | none, none => none
  return parent?.map fun dir => ⟨dir ++ "/code-gate"⟩

/-- What an invocation finds when it starts. -/
def surroundings (i : Invocation) : IO Surroundings := do
  let base ← includingBase ⟨⟨(← IO.currentDir).toString⟩, []⟩
  let showsColour := (← (← IO.getStdout).isTty) && (← IO.getEnv "NO_COLOR").isNone
  let s : Surroundings := { files := base, userDirectory? := ← userDirectory?, showsColour }
  let s := { s with files := ← (i.configPaths s).foldlM includingPath s.files }
  return { s with files := ← (i.otherPaths s).foldlM includingPath s.files }

/-- The files that a tree has and another one had not are written. -/
def writeChanges (before after : FileTree) : IO Unit := do
  for (loc, content) in before.changes after do
    IO.FS.createDirAll (absoluteText loc.dropLast)
    IO.FS.writeBinFile (absoluteText loc) ⟨content.toArray⟩

end QualityGate

open QualityGate in
/-- The program. -/
def main (arguments : List String) : IO UInt32 := do
  match Invocation.ofArguments arguments with
  | .error e =>
    if e.exitCode = 0 then IO.println e.message else IO.eprintln e.message
    return e.exitCode.toUInt32
  | .ok i =>
    let s ← surroundings i
    let o := i.run s
    try writeChanges s.files o.files
    catch e =>
      IO.eprintln s!"Error: IO error: {e}"
      return ExitStatus.error.code.toUInt32
    let taken ← try IO.print o.output; (← IO.getStdout).flush; pure true catch _ => pure false
    IO.eprint o.errors
    return (o.exitCode taken).toUInt32
