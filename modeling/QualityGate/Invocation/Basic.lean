import QualityGate.Config.Lookup
import QualityGate.Invocation.Arguments

/-!
What the program is asked to do. A request names a command and what was chosen for it; some choices
can be made for any command, before its name or after it.

* `Invocation.ofArguments`: the request that arguments make.
* `innermost`: a choice after the name of a command wins over one before it.
-/

namespace QualityGate

/-- The choices that can be made for any command. -/
structure CommonChoices where
  verbosity : Nat := 0
  quiet : Bool := false
  colour : ColourChoice := .auto
  /-- No configuration file is looked for. -/
  noConfig : Bool := false
  deriving DecidableEq, Repr

/-- What was chosen for a check. What was not chosen comes from the configuration. -/
structure CheckChoices where
  paths : List Path := [⟨"."⟩]
  config? : Option Path := none
  report? : Option Path := none
  extensions? : Option (List String) := none
  /-- Globs beside those of the configuration. -/
  exclude : List String := []
  methodLimit? : Option Nat := none
  docWindow? : Option Nat := none
  lineLimit? : Option Nat := none
  threshold? : Metric → Option Int := fun _ => none
  strict : Bool := false
  requireCoverage : Bool := false
  noIgnoreFiles : Bool := false
  format : OutputFormat := .text
  output? : Option Path := none

/-- What the program is asked to do. -/
inductive Request where
  | check (choices : CheckChoices)
  /-- Writing the configuration template. -/
  | init (output : Path) (force : Bool)
  | validateConfig (config : Path)
  | showConfig (config? : Option Path) (format : OutputFormat)

/-- A request with the choices that can be made for any command. -/
structure Invocation where
  common : CommonChoices
  request : Request

namespace Reading

/-! ### The values of options -/

/-- The value of an option that has one. -/
def value? (r : Reading) (name : OptionName) : Option String := (r.values name).head?

/-- The path that is the value of an option. -/
def path? (r : Reading) (name : OptionName) : Option Path := (r.value? name).map Path.mk

/-- The count that is the value of an option. -/
def count? (r : Reading) (name : OptionName) : Option Nat :=
  (r.value? name).bind fun v => Text.natural? maxCount v.toList

/-- The number that is the value of an option. -/
def integer? (r : Reading) (name : OptionName) : Option Int :=
  (r.value? name).bind fun v => Text.integer? v.toList

/-- The format that is the value of an option; text if there is none. -/
def format (r : Reading) : OutputFormat := ((r.value? .format).bind OutputFormat.ofName?).getD .text

end Reading

/-- The innermost reading that has an option, of readings from the innermost out. -/
def innermost (readings : List Reading) (name : OptionName) : Reading :=
  (readings.find? fun r => r.has name).getD .start

namespace CommonChoices

/-- The greatest verbosity. -/
def maxVerbosity : Nat := 255

/-- The common choices in readings from the innermost out. -/
def ofReadings (rs : List Reading) : CommonChoices where
  verbosity := min ((innermost rs .verbose).values .verbose).length maxVerbosity
  quiet := rs.any fun r => r.has .quiet
  colour := (((innermost rs .colour).value? .colour).bind ColourChoice.ofName?).getD .auto
  noConfig := rs.any fun r => r.has .noConfig

end CommonChoices

/-- The choices for a check. -/
def CheckChoices.ofReading (r : Reading) : CheckChoices where
  paths := if r.paths.isEmpty then [⟨"."⟩] else r.paths.map Path.mk
  config? := r.path? .config
  report? := r.path? .coverage
  extensions? := if r.has .extensions then some (r.values .extensions) else none
  exclude := r.values .exclude
  methodLimit? := r.count? .methodLimit
  docWindow? := r.count? .docWindow
  lineLimit? := r.count? .lineLimit
  threshold? m := r.integer? (.threshold m)
  strict := r.has .strict
  requireCoverage := r.has .requireCoverage
  noIgnoreFiles := r.has .noIgnoreFiles
  format := r.format
  output? := r.path? .output

/-- The request for a command, if the command stands for one. -/
def Request.ofReading? (c : CommandName) (r : Reading) : Option Request :=
  match c with
  | .check => some (.check (.ofReading r))
  | .init => some (.init ((r.path? .output).getD ⟨localConfigName⟩) (r.has .force))
  | .configValidate => some (.validateConfig ((r.path? .config).getD ⟨localConfigName⟩))
  | .configShow => some (.showConfig (r.path? .config) r.format)
  | .program | .config | .help => none

/-- The request that arguments make. -/
def Invocation.ofArguments (arguments : List String) : Except UsageError Invocation :=
  match Reading.ofArguments arguments with
  | .error e => .error e
  | .ok (c, readings) =>
    match Request.ofReading? c (readings.headD .start) with
    | some request => .ok ⟨.ofReadings readings, request⟩
    | none => .error .missingCommand

end QualityGate
