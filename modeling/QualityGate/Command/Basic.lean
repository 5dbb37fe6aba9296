import QualityGate.Config.Lookup
import QualityGate.File.Tree
import QualityGate.Invocation.Option

/-!
What a command finds when it starts, and what it leaves behind.

* `Surroundings.loadConfig`: the configuration that a command goes by.
* `FileTree.deliver`: a text in a file, with the directories above it.
-/

namespace QualityGate

/-- How a command ends. -/
inductive ExitStatus where
  | success
  /-- The gate was run, and did not pass. -/
  | gateFailed
  | error
  /-- The output was not taken, which ends the program wherever it is. -/
  | aborted
  deriving DecidableEq, Repr

/-- The number for a status. -/
def ExitStatus.code : ExitStatus → Nat
  | success => 0
  | gateFailed => 1
  | error => 2
  | aborted => 101

/-- What a command finds when it starts. -/
structure Surroundings where
  files : FileTree
  /-- The directory where the user keeps a configuration. -/
  userDirectory? : Option Path := none
  /-- The output shows colours. -/
  showsColour : Bool := false
  /-- The bytes of a path are a text. Of other paths nothing is known but a text that stands for
  them. -/
  isText : Path → Bool := fun _ => true

namespace Surroundings

/-- The places where configurations are looked for. -/
def configSources (s : Surroundings) : ConfigSources where
  isThere := s.files.isThere
  read := s.files.readText
  workingDirectory? := some s.files.workingDirectory
  userDirectory? := s.userDirectory?

/-- The configuration that a command goes by: the defaults if none is to be looked for, or else that
of the named file, or else that of the first file that is found. -/
def loadConfig (s : Surroundings) (noConfig : Bool) (named? : Option Path) :
    Except GateError LoadedConfig :=
  if noConfig then .ok ⟨{}, none⟩
  else match named? with
    | some p => s.configSources.loadFrom p
    | none => s.configSources.load

/-- Output is in colour. -/
def usesColour (s : Surroundings) : ColourChoice → Bool
  | .auto => s.showsColour
  | .always => true
  | .never => false

end Surroundings

/-- What a command leaves behind. -/
structure Outcome where
  status : ExitStatus
  /-- What is handed to standard output. -/
  output : String
  errors : String
  files : FileTree

namespace Outcome

/-- A command that did what it was asked to do. -/
def succeeded (files : FileTree) (output : String) : Outcome := ⟨.success, output, "", files⟩

/-- A command that an error ended. -/
def failed (files : FileTree) (e : GateError) : Outcome :=
  ⟨.error, "", s!"Error: {e.message}\n", files⟩

/-- How a command ends, by whether standard output takes what is handed to it. Nothing is always
taken. -/
def ended (o : Outcome) (taken : Bool) : ExitStatus :=
  if taken || o.output.isEmpty then o.status else .aborted

/-- The number that a command ends with. -/
def exitCode (o : Outcome) (taken : Bool := true) : Nat := (o.ended taken).code

end Outcome

namespace FileTree

/-- The tree with the directories above a file, as far as they can be created, and what stopped
it. -/
def createAbove (t : FileTree) (p : Path) : FileTree × Option FileError :=
  match p.parent? with
  | none => (t, none)
  | some dir => if dir.text.isEmpty then (t, none) else t.createDirectories dir

/-- The tree with a text in a file. -/
def writeText (t : FileTree) (p : Path) (text : String) : Except FileError FileTree :=
  t.write p (Text.Utf8.encode text.toList)

/-- The tree with a text in a file and with the directories above it, and what stopped it. -/
def deliver (t : FileTree) (p : Path) (text : String) : FileTree × Option FileError :=
  match t.createAbove p with
  | (t, some e) => (t, some e)
  | (t, none) =>
    match t.writeText p text with
    | .error e => (t, some e)
    | .ok t => (t, none)

end FileTree

end QualityGate
