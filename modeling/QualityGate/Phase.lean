/-!
The phases of a run of the gate, and which of them may follow which.
-/

namespace QualityGate

/-- What a run of the gate is doing. -/
inductive Phase where
  | idle
  | scanning
  | parsing
  | evaluating
  | reported
  deriving DecidableEq, Repr, Inhabited

namespace Phase

/-- All phases in order. -/
def all : List Phase := [idle, scanning, parsing, evaluating, reported]

/-- The word for a phase. -/
def name : Phase → String
  | idle => "idle"
  | scanning => "scanning"
  | parsing => "parsing"
  | evaluating => "evaluating"
  | reported => "reported"

/-- The phase with the given name. -/
def ofName? (name : String) : Option Phase := all.find? fun p => p.name == name

/-- The phases that may follow a phase. Without a report there is nothing to parse, and a report
that cannot be read is not evaluated. -/
def next : Phase → List Phase
  | idle => [scanning]
  | scanning => [parsing, reported]
  | parsing => [evaluating, reported]
  | evaluating => [reported]
  | reported => [reported]

/-- A phase may follow another one. -/
def canFollow (p q : Phase) : Bool := p.next.contains q

end Phase

end QualityGate
