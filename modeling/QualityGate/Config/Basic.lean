import QualityGate.Coverage.Threshold
import QualityGate.Declaration.Basic
import QualityGate.Path.Basic
import QualityGate.Rule.Scan

/-!
The configuration of the gate: what it looks at, and what it asks for. Every setting has a default.

* `Thresholds.toPolicy_threshold`: thresholds between zero and one hundred percent are taken as they
  are.
-/

namespace QualityGate

/-- Which files are looked at. -/
structure ScannerSettings where
  extensions : List String := ["java"]
  /-- Globs of files that are left out. -/
  exclude : List String := []
  /-- Ignore files are respected. -/
  useIgnoreFiles : Bool := true
  deriving DecidableEq, Repr

/-- Limits on lengths, and what counts as a failure. -/
structure StructureSettings where
  methodLimit : Nat := 30
  lineLimit : Nat := LineRule.defaultLineLimit
  /-- Warnings fail the gate. -/
  strict : Bool := false
  deriving DecidableEq, Repr

/-- Which declarations are documented, and how. -/
structure DocumentationSettings where
  /-- Blank lines that may stand above a declaration. -/
  window : Nat := 5
  /-- Lines that are looked at above a declaration. -/
  cap : Nat := 50
  visibilities : List Visibility := [.public]
  deriving DecidableEq, Repr

/-- The settings of the line rules. -/
structure PatternSettings where
  /-- Regular expressions for calls. -/
  bannedCalls : List String := defaultBannedCalls
  loggingFacility : String := defaultLoggingFacility
  disallowedIndent : IndentChar := .tab
  blankLimit : Nat := LineRule.defaultBlankLimit
  deriving DecidableEq, Repr

/-- The percentage that each metric has to reach. Any number can be given; only those between zero
and one hundred are valid. -/
structure Thresholds where
  line : Int := ThresholdPolicy.defaultLine
  branch : Int := ThresholdPolicy.defaultBranch
  method : Int := 0
  type : Int := 0
  deriving DecidableEq, Repr

namespace Thresholds

/-- The threshold of a metric. -/
def get (t : Thresholds) : Metric → Int
  | .line => t.line
  | .branch => t.branch
  | .method => t.method
  | .type => t.type

/-- The thresholds with another one for a metric. -/
def set (t : Thresholds) (m : Metric) (value : Int) : Thresholds :=
  match m with
  | .line => { t with line := value }
  | .branch => { t with branch := value }
  | .method => { t with method := value }
  | .type => { t with type := value }

/-- What is set for a metric is found for it, and nothing else changes. -/
theorem get_set (t : Thresholds) (m n : Metric) (value : Int) :
    (t.set m value).get n = if n = m then value else t.get n := by
  cases m <;> cases n <;> rfl

/-- The policy that thresholds stand for. -/
def toPolicy (t : Thresholds) : ThresholdPolicy where
  threshold m := min (t.get m).toNat 100
  threshold_le _ := Nat.min_le_right _ _

/-- Thresholds between zero and one hundred percent are taken as they are. -/
theorem toPolicy_threshold {t : Thresholds} {m : Metric} (h : 0 ≤ t.get m ∧ t.get m ≤ 100) :
    (t.toPolicy.threshold m : Int) = t.get m := by
  simp only [toPolicy]
  omega

end Thresholds

/-- The coverage report, and what is asked of it. -/
structure CoverageSettings where
  report : Option Path := none
  unitScope : UnitScope := .type
  /-- The gate fails if the report is not evaluated. -/
  required : Bool := false
  thresholds : Thresholds := {}
  deriving DecidableEq, Repr

/-- A configuration. -/
structure Config where
  /-- The version that is written in the file. -/
  version : Option String := none
  scanner : ScannerSettings := {}
  structural : StructureSettings := {}
  docs : DocumentationSettings := {}
  patterns : PatternSettings := {}
  coverage : CoverageSettings := {}
  deriving DecidableEq, Repr

end QualityGate
