import QualityGate.Command.Basic
import QualityGate.Config.Text
import QualityGate.Config.Validation
import QualityGate.Verdict.Format

/-!
The commands on configurations: one says whether a file is a configuration that makes sense, the
other shows the configuration that is in effect.

* `runValidateConfig`, `runShowConfig`: what they leave behind.
-/

namespace QualityGate

/-- The configuration in a file, if it makes sense. -/
def validatedConfig (t : FileTree) (p : Path) : Except GateError Config :=
  if !t.isThere p then .error (.config (.notFound p))
  else match t.readText p with
    | .error e => .error (.io e)
    | .ok text =>
      match Config.ofText text with
      | .error e => .error e
      | .ok c => c.validate.map fun _ => c

/-- What the validation of a configuration leaves behind. -/
def runValidateConfig (t : FileTree) (p : Path) : Outcome :=
  match validatedConfig t p with
  | .error e => .failed t e
  | .ok _ => .succeeded t s!"Configuration is valid: {p.text}\n"

/-- A configuration in a format. -/
def Config.format (f : OutputFormat) (c : Config) : String :=
  match f with
  | .text => c.text
  | .json => c.toJson.render ++ "\n"

/-- What the showing of a configuration leaves behind. -/
def runShowConfig (s : Surroundings) (noConfig : Bool) (named? : Option Path) (f : OutputFormat) :
    Outcome :=
  match s.loadConfig noConfig named? with
  | .error e => .failed s.files e
  | .ok loaded => .succeeded s.files (loaded.config.format f)

end QualityGate
