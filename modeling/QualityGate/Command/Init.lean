import QualityGate.Command.Basic
import QualityGate.Config.Template

/-!
Writing the configuration template to a file. A file that is there is left as it is unless that is
asked for.

* `runInit`: what it leaves behind.
-/

namespace QualityGate

/-- What the writing of the template leaves behind. -/
def runInit (t : FileTree) (output : Path) (force : Bool) : Outcome :=
  if t.isThere output && !force then .failed t (.config (.alreadyExists output))
  else match t.writeText output Config.template with
    | .error e => .failed t (.io e)
    | .ok t => .succeeded t s!"Created configuration file: {output.text}\n"

end QualityGate
