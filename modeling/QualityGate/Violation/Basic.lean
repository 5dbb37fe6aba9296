import QualityGate.Path.Basic

/-!
Violations: findings of the structural checks, and the order in which they are reported.

* `Violation.order` compares path, line, rule and message, in this order.
* `fails_of_error`, `not_fails_info`: errors fail the gate whatever the mode, and remarks never do.
-/

namespace QualityGate

/-- How much a violation weighs. -/
inductive Severity where
  | error
  | warning
  | info
  deriving DecidableEq, Repr, Inhabited

namespace Severity

/-- All severities, the heaviest first. -/
def all : List Severity := [error, warning, info]

/-- The word for a severity. -/
def name : Severity → String
  | error => "error"
  | warning => "warning"
  | info => "info"

/-- The severity with the given name. -/
def ofName? (name : String) : Option Severity := all.find? fun s => s.name == name

/-- Whether a violation fails the gate: errors always do, warnings in strict mode, remarks never. -/
def fails (strict : Bool) : Severity → Bool
  | error => true
  | warning => strict
  | info => false

/-- An error fails the gate in every mode. -/
theorem fails_of_error (strict : Bool) : error.fails strict = true := rfl

/-- A remark fails the gate in no mode. -/
theorem not_fails_info (strict : Bool) : info.fails strict = false := rfl

end Severity

/-- What a violation is about. -/
inductive ViolationKind where
  | longMethod
  | missingDoc
  | bannedCall
  | hardcodedLiteral
  | styleSmell
  deriving DecidableEq, Repr, Inhabited

namespace ViolationKind

/-- All kinds. -/
def all : List ViolationKind := [longMethod, missingDoc, bannedCall, hardcodedLiteral, styleSmell]

/-- The name of a kind in text reports. -/
def title : ViolationKind → String
  | longMethod => "LongMethod"
  | missingDoc => "MissingDoc"
  | bannedCall => "BannedCall"
  | hardcodedLiteral => "HardcodedLiteral"
  | styleSmell => "StyleSmell"

/-- The name of a kind in data. -/
def name : ViolationKind → String
  | longMethod => "long_method"
  | missingDoc => "missing_doc"
  | bannedCall => "banned_call"
  | hardcodedLiteral => "hardcoded_literal"
  | styleSmell => "style_smell"

/-- The kind with the given name in data. -/
def ofName? (name : String) : Option ViolationKind := all.find? fun k => k.name == name

end ViolationKind

/-- A finding. -/
structure Violation where
  kind : ViolationKind
  severity : Severity
  /-- The name of the rule that was broken. -/
  rule : String
  path : Path
  /-- The line number, from one. -/
  line : Nat
  message : String
  /-- What to do about it; empty when there is nothing to say. -/
  remediation : String
  deriving DecidableEq, Repr, Inhabited

namespace Violation

/-- The place of a violation, as a path and a line number. -/
def location (v : Violation) : String := s!"{v.path.text}:{v.line}"

/-- The order of reports: by path, line, rule and message. -/
def order (a b : Violation) : Ordering :=
  ((a.path.order b.path).then (compare a.line b.line)).then
    ((compare a.rule b.rule).then (compare a.message b.message))

/-- Not after in the order of reports. -/
def notAfter (a b : Violation) : Bool := a.order b != .gt

/-- Violations in the order of reports. Those that the order does not tell apart stay in order. -/
def sort (vs : List Violation) : List Violation := vs.mergeSort notAfter

/-- Sorting loses nothing and adds nothing. -/
theorem sort_perm (vs : List Violation) : (sort vs).Perm vs := List.mergeSort_perm vs notAfter

end Violation

end QualityGate
