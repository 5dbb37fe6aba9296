import QualityGate.Config.Reader

/-!
Where a configuration comes from: a file that is named, or else the file in the working directory,
or else the file of the user, or else the defaults. A file that is there and cannot be used is an
error; it is never passed over.

* `ConfigSources.load`: the configuration of the first file that is there, or the defaults.
-/

namespace QualityGate

/-- The name of the configuration file in the working directory. -/
def localConfigName : String := ".code-gate.toml"

/-- The name of the configuration file in the directory of the user. -/
def userConfigName : String := "config.toml"

/-- The places where configurations are looked for. -/
structure ConfigSources where
  isThere : Path → Bool
  read : Path → Except FileError (List Char)
  workingDirectory? : Option Path
  userDirectory? : Option Path

/-- A configuration, and the file it comes from. -/
structure LoadedConfig where
  config : Config
  source? : Option Path
  deriving DecidableEq, Repr

namespace ConfigSources

/-- The configuration in a given file. -/
def loadFrom (s : ConfigSources) (p : Path) : Except GateError LoadedConfig :=
  match s.read p with
  | .error cause => .error (.fileRead p cause)
  | .ok text =>
    match Config.ofText text with
    | .error e => .error e
    | .ok c => .ok ⟨c, some p⟩

/-- The files where a configuration is looked for, in order. -/
def candidates (s : ConfigSources) : List Path :=
  ((s.workingDirectory?.map fun d => d.join ⟨localConfigName⟩).toList ++
    (s.userDirectory?.map fun d => d.join ⟨userConfigName⟩).toList)

/-- The configuration of the first file that is there, or the defaults. -/
def load (s : ConfigSources) : Except GateError LoadedConfig :=
  match s.candidates.find? s.isThere with
  | some p => s.loadFrom p
  | none => .ok ⟨{}, none⟩

end ConfigSources

end QualityGate
