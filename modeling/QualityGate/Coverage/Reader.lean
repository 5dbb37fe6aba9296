import QualityGate.Coverage.Report
import QualityGate.Coverage.Tag
import QualityGate.Text.Blank
import QualityGate.Text.Numeral

/-!
Reading a coverage report. The tags of the report are walked with the stack of open elements:
counters right below the root are totals, counters right below a unit belong to that unit, and all
other counters are passed over. A unit comes into the report with its first counter.

* `Walk.step`: what one tag does.
* `CoverageReport.ofText`: the report that a text holds, or what is wrong with it.
* `Walk.step_closing`: closing an element does not touch the report.
-/

namespace QualityGate

/-- What can be wrong with a report. -/
inductive ReportError where
  | missingType
  | unknownType (type : String)
  | missingCount (metric : Metric) (key : String)
  | badCount (metric : Metric) (key value : String)
  | noTotals
  deriving DecidableEq, Repr

/-- The wording of an error. -/
def ReportError.message : ReportError → String
  | missingType => "counter is missing the 'type' attribute"
  | unknownType type => s!"counter has an unknown type \"{type}\""
  | missingCount metric key => s!"{metric.tag} counter is missing the '{key}' attribute"
  | badCount metric key value => s!"{metric.tag} counter has a non-integer '{key}' value: \"{value}\""
  | noTotals => "no root-level LINE, BRANCH, METHOD or CLASS counters found"

/-- The types of counters that are known and not evaluated. -/
def ignoredCounterTypes : List String := ["INSTRUCTION", "COMPLEXITY"]

/-- An element that is open. -/
structure OpenElement where
  element : List Char
  name? : Option (List Char)
  /-- The place of its unit among the units of the report, once it has one. -/
  unit? : Option Nat
  deriving DecidableEq, Repr

/-- The open elements, innermost first, and what has been read so far. -/
structure Walk where
  stack : List OpenElement
  report : CoverageReport
  deriving DecidableEq, Repr

/-- One of the counts of a counter. -/
def readCount (metric : Metric) (attributes : List (List Char × List Char)) (key : String) :
    Except ReportError Nat :=
  match Tag.valueOf? attributes key with
  | none => .error (.missingCount metric key)
  | some value =>
    match Text.natural? maxCount (Text.trim value) with
    | none => .error (.badCount metric key (String.ofList value))
    | some n => .ok n

/-- The counter of a metric that attributes give. -/
def readCounter (metric : Metric) (attributes : List (List Char × List Char)) :
    Except ReportError Counter :=
  match readCount metric attributes "missed" with
  | .error e => .error e
  | .ok missed =>
    match readCount metric attributes "covered" with
    | .error e => .error e
    | .ok covered => .ok ⟨metric, missed, covered⟩

/-- The metric of a counter tag; none if its type is not evaluated. -/
def readMetric (attributes : List (List Char × List Char)) :
    Except ReportError (Option Metric) :=
  match Tag.valueOf? attributes "type" with
  | none => .error .missingType
  | some type =>
    match Metric.ofTag? (String.ofList type) with
    | some m => .ok (some m)
    | none =>
      if ignoredCounterTypes.contains (String.ofList type) then .ok none
      else .error (.unknownType (String.ofList type))

namespace Walk

/-- Before the first tag. -/
def start : Walk := ⟨[], .empty⟩

/-- The open elements without the innermost one of a name and all inside it. Without such an element
nothing is closed. -/
def close (element : List Char) (stack : List OpenElement) : List OpenElement :=
  match stack.dropWhile fun s => s.element != element with
  | [] => stack
  | _ :: outer => outer

/-- The name of the unit that an element is: it stands in its package, unless its own name has a
package already. -/
def unitName (stack : List OpenElement) (own : List Char) : List Char :=
  match (stack.find? fun s => s.element == "package".toList).bind OpenElement.name? with
  | some package =>
    if own.contains '/' || package.isEmpty then own else package ++ '/' :: own
  | none => own

/-- The counter recorded for the unit that the innermost element is. -/
def recordUnit (w : Walk) (c : Counter) : Walk :=
  match w.stack with
  | [] => w
  | top :: outer =>
    match top.unit? with
    | some i =>
      { w with report.units := w.report.units.modify i fun u =>
          { u with counters := recordCounter c u.counters } }
    | none =>
      let name := unitName w.stack (top.name?.getD [])
      { stack := { top with unit? := some w.report.units.length } :: outer
        report.totals := w.report.totals
        report.units := w.report.units ++ [⟨String.ofList name, [c]⟩] }

/-- The counter recorded as a total. -/
def recordTotal (w : Walk) (c : Counter) : Walk :=
  { w with report.totals := recordCounter c w.report.totals }

/-- What a counter tag does. -/
def count (scope : UnitScope) (attributes : List (List Char × List Char)) (w : Walk) :
    Except ReportError Walk :=
  match readMetric attributes with
  | .error e => .error e
  | .ok none => .ok w
  | .ok (some metric) =>
    if w.stack.length = 1 then (readCounter metric attributes).map w.recordTotal
    else if w.stack.head?.any fun s => s.element == scope.element.toList then
      (readCounter metric attributes).map w.recordUnit
    else .ok w

/-- The element opened. -/
def push (element : List Char) (attributes : List (List Char × List Char)) (w : Walk) : Walk :=
  { w with stack := ⟨element, Tag.valueOf? attributes "name", none⟩ :: w.stack }

/-- What a tag does. -/
def step (scope : UnitScope) (w : Walk) : Tag → Except ReportError Walk
  | .closing element => .ok { w with stack := close element w.stack }
  | .opening element attributes isEmpty =>
    let enter (w : Walk) : Walk := if isEmpty then w else w.push element attributes
    if element = "counter".toList then (count scope attributes w).map enter else .ok (enter w)

/-- What tags do one after the other, up to the first error. -/
def steps (scope : UnitScope) (w : Walk) : List Tag → Except ReportError Walk
  | [] => .ok w
  | t :: ts =>
    match step scope w t with
    | .error e => .error e
    | .ok w => steps scope w ts

/-- Closing an element does not touch the report. -/
theorem step_closing (scope : UnitScope) (w : Walk) (element : List Char) :
    step scope w (.closing element) = .ok ⟨close element w.stack, w.report⟩ := rfl

/-- Tags are walked front to back. -/
theorem steps_append (scope : UnitScope) (w : Walk) (ts us : List Tag) :
    steps scope w (ts ++ us) = (steps scope w ts).bind fun w => steps scope w us := by
  induction ts generalizing w with
  | nil => rfl
  | cons t ts ih =>
    simp only [List.cons_append, steps]
    cases step scope w t with
    | error e => rfl
    | ok w => exact ih w

end Walk

/-- The report that tags hold. A report without totals is none. -/
def CoverageReport.ofTags (scope : UnitScope) (ts : List Tag) : Except ReportError CoverageReport :=
  match Walk.steps scope .start ts with
  | .error e => .error e
  | .ok w => if w.report.totals.isEmpty then .error .noTotals else .ok w.report

/-- The report that a text holds. -/
def CoverageReport.ofText (scope : UnitScope) (text : List Char) :
    Except ReportError CoverageReport :=
  ofTags scope (Tag.tags (Tag.withoutComments text))

end QualityGate
