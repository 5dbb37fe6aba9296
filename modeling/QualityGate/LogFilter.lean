/-!
How much of the log is kept.
-/

namespace QualityGate

/-- The filter for the log: more of it for each request to be verbose, and errors alone with
quiet. -/
def logFilter (verbosity : Nat) (quiet : Bool) : String :=
  if quiet then "code_gate=error"
  else match verbosity with
    | 0 => "code_gate=warn"
    | 1 => "code_gate=info"
    | _ => "code_gate=debug"

end QualityGate
