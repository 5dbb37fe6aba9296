import QualityGate.Coverage.Reader
import QualityGate.File.Error
import QualityGate.Path.Basic

/-!
Errors. An error says what is wrong, and a category and a wording follow from it. Some errors mean
that the gate was invoked in a wrong way, the others that it failed while it ran.

* `describe_of_cause?_eq_none`: an error without a cause is described by its message alone.
-/

namespace QualityGate

/-- What can be wrong with a configuration. -/
inductive ConfigError where
  | unsupportedVersion (version : String)
  | negativeThreshold (metric : Metric) (value : Int)
  | excessiveThreshold (metric : Metric) (value : Int)
  | zeroLimit (key : String)
  | noExtensions
  | emptyExtension (entry : String)
  | alreadyExists (path : Path)
  | notFound (path : Path)
  deriving DecidableEq, Repr

/-- The version of configuration files. -/
def configVersion : String := "1"

/-- The wording of an error. -/
def ConfigError.message : ConfigError → String
  | unsupportedVersion version =>
    s!"Unsupported config version '{version}'. Only version '{configVersion}' is supported."
  | negativeThreshold metric value =>
    s!"coverage.thresholds.{metric.name} must not be negative, got {value}"
  | excessiveThreshold metric value =>
    s!"coverage.thresholds.{metric.name} must be at most 100, got {value}"
  | zeroLimit key => s!"{key} must be greater than 0"
  | noExtensions => "scanner.extensions must list at least one extension"
  | emptyExtension entry =>
    s!"scanner.extensions entry '{entry}' must name an extension such as 'java'"
  | alreadyExists path =>
    s!"Configuration file already exists: {path.text}. Use --force to overwrite."
  | notFound path => s!"Configuration file not found: {path.text}"

/-- An error of the gate. -/
inductive GateError where
  | config (e : ConfigError)
  | invalidPath (path : Path)
  | fileRead (path : Path) (cause : FileError)
  | invalidPattern (pattern : String)
  | invalidRegex (pattern : String)
  | reportFormat (e : ReportError)
  | io (cause : FileError)
  /-- The text of a configuration is no configuration. -/
  | toml
  /-- A result has no JSON text, as it names a path that is no text. -/
  | json
  deriving DecidableEq, Repr

namespace GateError

/-- The category of an error. -/
def category : GateError → String
  | config _ | toml => "Config"
  | invalidPath _ => "Path"
  | fileRead _ _ => "FileRead"
  | invalidPattern _ | invalidRegex _ => "Pattern"
  | reportFormat _ => "Report"
  | io _ => "IO"
  | json => "Serialize"

/-- The gate was invoked in a wrong way. -/
def isInvocation : GateError → Bool
  | config _ | invalidPath _ | invalidPattern _ | invalidRegex _ | toml => true
  | fileRead _ _ | reportFormat _ | io _ | json => false

/-- The wording of an error. -/
def message : GateError → String
  | config e => s!"Configuration error: {e.message}"
  | invalidPath path => s!"Invalid path: {path.text}"
  | fileRead path _ => s!"Failed to read file: {path.text}"
  | invalidPattern pattern => s!"Invalid glob pattern: {pattern}"
  | invalidRegex pattern => s!"Invalid regex: {pattern}"
  | reportFormat e => s!"Coverage report format error: {e.message}"
  | io cause => s!"IO error: {cause.message}"
  | toml => "TOML parse error: not a configuration"
  | json => "JSON serialization error: path contains invalid UTF-8 characters"

/-- What made a file unreadable. -/
def cause? : GateError → Option FileError
  | fileRead _ cause => some cause
  | _ => none

/-- The wording of an error together with its cause. -/
def describe (e : GateError) : String :=
  match e.cause? with
  | some cause => s!"{e.message}: {cause.message}"
  | none => e.message

/-- An error without a cause is described by its message alone. -/
theorem describe_of_cause?_eq_none {e : GateError} (h : e.cause? = none) :
    e.describe = e.message := by
  simp [describe, h]

end GateError

end QualityGate
