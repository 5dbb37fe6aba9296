import QualityGate.Config.Basic
import QualityGate.Discovery.Filter
import QualityGate.Error

/-!
Whether a configuration makes sense. Thresholds come first, then limits, the scanner settings and
the expressions for banned calls; the first thing that is wrong is reported.

* `Config.validate`: the first thing that is wrong with a configuration.
-/

namespace QualityGate

/-- What is wrong with a threshold. -/
def thresholdError? (m : Metric) (value : Int) : Option ConfigError :=
  if value < 0 then some (.negativeThreshold m value)
  else if 100 < value then some (.excessiveThreshold m value)
  else none

/-- What is wrong with an extension. -/
def extensionError? (e : String) : Option ConfigError :=
  if (withoutDots e.toList).isEmpty then some (.emptyExtension e) else none

namespace Config

/-- What is wrong with the thresholds. -/
def thresholdsError? (c : Config) : Option ConfigError :=
  Metric.all.findSome? fun m => thresholdError? m (c.coverage.thresholds.get m)

/-- The limits that have to be positive, with their keys. -/
def limits (c : Config) : List (String × Nat) :=
  [("structure.max_method_lines", c.structural.methodLimit),
   ("structure.max_line_length", c.structural.lineLimit), ("docs.scan_cap", c.docs.cap)]

/-- What is wrong with the limits. -/
def limitsError? (c : Config) : Option ConfigError :=
  (c.limits.find? fun l => l.2 == 0).map fun l => .zeroLimit l.1

/-- What is wrong with the extensions. -/
def extensionsError? (c : Config) : Option ConfigError :=
  if c.scanner.extensions.isEmpty then some .noExtensions
  else c.scanner.extensions.findSome? extensionError?

/-- What is wrong with the numbers and extensions of a configuration. -/
def valueError? (c : Config) : Option ConfigError :=
  (c.thresholdsError?.or c.limitsError?).or c.extensionsError?

/-- The first thing that is wrong with a configuration. -/
def validate (c : Config) (n : PatternNotation := .standard) : Except GateError Unit :=
  match c.valueError? with
  | some e => .error (.config e)
  | none =>
    match compileGlobs c.scanner.exclude n with
    | .error pattern => .error (.invalidPattern pattern)
    | .ok _ =>
      match compileAll c.patterns.bannedCalls n with
      | .error pattern => .error (.invalidRegex pattern)
      | .ok _ => .ok ()

end Config

end QualityGate
