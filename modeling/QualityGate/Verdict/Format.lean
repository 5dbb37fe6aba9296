import QualityGate.Error
import QualityGate.Verdict.Json
import QualityGate.Verdict.Text

/-!
The formats in which results are printed. Everything has a text, while JSON has no way to give a
path that is no text.

* `OutputFormat.ofName?_name`: every format is found under its name.
* `GateResult.format`: the result in a format, or the error that keeps it from being given in it.
* `GateResult.format_json`: a result that names only paths that are texts has a JSON text.
-/

namespace QualityGate

/-- A format of results. -/
inductive OutputFormat where
  | text
  | json
  deriving DecidableEq, Repr, Inhabited

namespace OutputFormat

/-- All formats. -/
def all : List OutputFormat := [text, json]

/-- The name of a format. -/
def name : OutputFormat → String
  | text => "text"
  | json => "json"

/-- The format with the given name, in which the case of letters does not count. -/
def ofName? (name : String) : Option OutputFormat :=
  all.find? fun f => f.name.toList == name.toList.map Char.toLower

/-- What is wrong with a name that is none. -/
def unknown (name : String) : String := s!"Unknown output format: {name}"

/-- Every format is found under its name. -/
theorem ofName?_name (f : OutputFormat) : ofName? f.name = some f := by
  cases f <;> decide

end OutputFormat

/-- The paths that a result names. -/
def GateResult.paths (r : GateResult) : List Path :=
  r.violations.map Violation.path ++ r.notices.map Notice.path

/-- The result in a format; colour makes a difference to text only. In JSON a path is given as it
is, and so it has to be a text; in text it is given as it is shown. -/
def GateResult.format (f : OutputFormat) (colour : Bool) (r : GateResult)
    (isText : Path → Bool := fun _ => true) : Except GateError String :=
  match f with
  | .text => .ok (r.text colour)
  | .json => if r.paths.all isText then .ok r.toJson.render else .error .json

/-- A result that names only paths that are texts has a JSON text. -/
theorem GateResult.format_json {r : GateResult} {isText : Path → Bool}
    (h : ∀ p ∈ r.paths, isText p = true) (colour : Bool) :
    r.format .json colour isText = .ok r.toJson.render :=
  if_pos (List.all_eq_true.2 h)

end QualityGate
