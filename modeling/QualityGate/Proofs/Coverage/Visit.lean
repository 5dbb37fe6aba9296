import QualityGate.Proofs.Coverage.Tree
import Mathlib.Tactic

/-!
The walk over a report, told element by element instead of tag by tag. Visiting an element records
the counter that it is and then adds the units inside it; the stack of open elements is the same
afterwards, but for the unit that the innermost open element may have got.

* `Walk.record`: what a counter does, wherever it stands.
* `Walk.visit`: what an element does with all that is inside it.
* `foldl_visit_root`, `foldl_visit_plain`, `foldl_visit_open`, `foldl_visit_new`: what the children
  of the root, of an element that is no unit, and of a unit do.
* **`foldl_visit_children`**: visiting the children of an element adds its units.
-/

namespace QualityGate

namespace Walk

/-- The children of the innermost open element are counted if they are counters. -/
def Counts (scope : UnitScope) (w : Walk) : Prop :=
  w.stack.length = 1 ∨ w.stack.head?.any (fun s => s.element == scope.element.toList)

/-- A counter recorded where it belongs. -/
def record (scope : UnitScope) (w : Walk) : Option Counter → Walk
  | none => w
  | some c =>
    if w.stack.length = 1 then w.recordTotal c
    else if w.stack.head?.any fun s => s.element == scope.element.toList then w.recordUnit c
    else w

/-- Counters recorded after others. -/
def recordAfter (recorded cs : List Counter) : List Counter :=
  cs.foldl (fun recorded c => recordCounter c recorded) recorded

/-- Units added at the end of the report. -/
def add (w : Walk) (us : List CoverageUnit) : Walk :=
  { w with report.units := w.report.units ++ us }

/-- The name of the innermost package that is open. -/
def package? (stack : List OpenElement) : Option (List Char) :=
  (stack.find? fun s => s.element == "package".toList).bind OpenElement.name?

/-- An element opened. -/
def enter (w : Walk) (e : ReportElement) : Walk :=
  ⟨⟨e.name, e.value? "name", none⟩ :: w.stack, w.report⟩

/-- An element visited with all that is inside it. -/
def visit (scope : UnitScope) (w : Walk) (e : ReportElement) : Walk :=
  (w.record scope e.counter?).add (e.units scope (package? w.stack))

@[simp] lemma add_nil (w : Walk) : w.add [] = w := by simp [add]

@[simp] lemma record_none (scope : UnitScope) (w : Walk) : w.record scope none = w := rfl

/-- The name of a unit is the one qualified with its package. -/
lemma unitName_eq_qualifiedName (stack : List OpenElement) (own : List Char) :
    unitName stack own = qualifiedName (package? stack) own := by
  unfold unitName qualifiedName package?
  cases (stack.find? fun s => s.element == "package".toList).bind OpenElement.name? with
  | none => rfl
  | some package => simp [List.isEmpty_iff]

/-- The unit of an element says nothing about packages. -/
lemma package?_unit (top : OpenElement) (unit? : Option ℕ) (outer : List OpenElement) :
    package? ({ top with unit? := unit? } :: outer) = package? (top :: outer) := by
  simp only [package?, List.find?_cons]
  cases top.element == "package".toList <;> rfl

/-- Of a list put together around an element, that element is changed. -/
lemma modify_length_append (before after : List CoverageUnit) (u : CoverageUnit)
    (f : CoverageUnit → CoverageUnit) :
    (before ++ u :: after).modify before.length f = before ++ f u :: after := by
  induction before with
  | nil => rfl
  | cons v before ih => simp [ih]

section Forest

variable {scope : UnitScope} {top : OpenElement} {outer : List OpenElement}
  {totals : List Counter} {before : List CoverageUnit}

/-- Right below the root counters are totals. -/
lemma foldl_visit_root (es : List ReportElement) :
    es.foldl (visit scope) ⟨[top], ⟨totals, before⟩⟩ =
      ⟨[top], ⟨recordAfter totals (es.filterMap ReportElement.counter?),
        before ++ (ReportElement.unitsOfEach scope (package? [top]) es).flatten⟩⟩ := by
  induction es generalizing totals before with
  | nil => simp [ReportElement.unitsOfEach, recordAfter]
  | cons e es ih =>
      have hvisit : visit scope ⟨[top], ⟨totals, before⟩⟩ e =
          ⟨[top], ⟨recordAfter totals e.counter?.toList,
            before ++ e.units scope (package? [top])⟩⟩ := by
        cases hc : e.counter? with
        | none => simp [visit, hc, add, recordAfter]
        | some c => simp [visit, hc, record, recordTotal, add, recordAfter]
      rw [List.foldl_cons, hvisit, ih]
      cases hc : e.counter? <;> simp [ReportElement.unitsOfEach, recordAfter, hc]

/-- Right below an element that is neither the root nor a unit counters are passed over. -/
lemma foldl_visit_plain (houter : outer ≠ []) (htop : top.element ≠ scope.element.toList)
    (es : List ReportElement) :
    es.foldl (visit scope) ⟨top :: outer, ⟨totals, before⟩⟩ =
      ⟨top :: outer, ⟨totals,
        before ++ (ReportElement.unitsOfEach scope (package? (top :: outer)) es).flatten⟩⟩ := by
  induction es generalizing before with
  | nil => simp [ReportElement.unitsOfEach]
  | cons e es ih =>
      have hvisit : visit scope ⟨top :: outer, ⟨totals, before⟩⟩ e =
          ⟨top :: outer, ⟨totals, before ++ e.units scope (package? (top :: outer))⟩⟩ := by
        cases hc : e.counter? with
        | none => simp [visit, hc, add]
        | some c => simp [visit, hc, record, add, houter, htop]
      rw [List.foldl_cons, hvisit, ih]
      simp [ReportElement.unitsOfEach]

/-- Right below a unit that is in the report already counters go to that unit. -/
lemma foldl_visit_open {u : CoverageUnit} {after : List CoverageUnit} (houter : outer ≠ [])
    (htop : top.element = scope.element.toList) (hunit : top.unit? = some before.length)
    (es : List ReportElement) :
    es.foldl (visit scope) ⟨top :: outer, ⟨totals, before ++ u :: after⟩⟩ =
      ⟨top :: outer, ⟨totals, before ++
        { u with counters := recordAfter u.counters (es.filterMap ReportElement.counter?) } ::
        (after ++ (ReportElement.unitsOfEach scope (package? (top :: outer)) es).flatten)⟩⟩ := by
  induction es generalizing u after with
  | nil => simp [ReportElement.unitsOfEach, recordAfter]
  | cons e es ih =>
      have hvisit : visit scope ⟨top :: outer, ⟨totals, before ++ u :: after⟩⟩ e =
          ⟨top :: outer, ⟨totals, before ++
            { u with counters := recordAfter u.counters e.counter?.toList } ::
            (after ++ e.units scope (package? (top :: outer)))⟩⟩ := by
        cases hc : e.counter? with
        | none => simp [visit, hc, add, recordAfter]
        | some c => simp [visit, hc, record, recordUnit, add, recordAfter, houter, htop, hunit,
            modify_length_append]
      rw [List.foldl_cons, hvisit, ih]
      cases hc : e.counter? <;> simp [ReportElement.unitsOfEach, recordAfter, hc]

/-- The first counter right below a unit brings the unit into the report, after the units of all
that comes before that counter. -/
lemma foldl_visit_new (houter : outer ≠ []) (htop : top.element = scope.element.toList)
    (hunit : top.unit? = none) (es : List ReportElement) :
    ∃ unit?, es.foldl (visit scope) ⟨top :: outer, ⟨totals, before⟩⟩ =
      ⟨{ top with unit? := unit? } :: outer, ⟨totals, before ++
        ReportElement.insertUnit
          (if es.filterMap ReportElement.counter? = [] then none
            else some ⟨String.ofList (qualifiedName (package? (top :: outer)) (top.name?.getD [])),
              recordCounters (es.filterMap ReportElement.counter?)⟩)
          es (ReportElement.unitsOfEach scope (package? (top :: outer)) es)⟩⟩ := by
  induction es generalizing before with
  | nil => exact ⟨top.unit?, by simp [ReportElement.insertUnit, ReportElement.unitsOfEach]⟩
  | cons e es ih =>
      cases hc : e.counter? with
      | none =>
          have hvisit : visit scope ⟨top :: outer, ⟨totals, before⟩⟩ e =
              ⟨top :: outer, ⟨totals, before ++ e.units scope (package? (top :: outer))⟩⟩ := by
            simp [visit, hc, add]
          obtain ⟨unit?, ih⟩ := @ih (before ++ e.units scope (package? (top :: outer)))
          refine ⟨unit?, ?_⟩
          rw [List.foldl_cons, hvisit, ih]
          simp [ReportElement.insertUnit, ReportElement.unitsOfEach, hc, List.findIdx_cons]
      | some c =>
          let u : CoverageUnit :=
            ⟨String.ofList (qualifiedName (package? (top :: outer)) (top.name?.getD [])), [c]⟩
          have hvisit : visit scope ⟨top :: outer, ⟨totals, before⟩⟩ e =
              ⟨{ top with unit? := some before.length } :: outer,
                ⟨totals, before ++ u :: e.units scope (package? (top :: outer))⟩⟩ := by
            simp [visit, hc, record, recordUnit, add, houter, htop, hunit, u,
              unitName_eq_qualifiedName]
          have hrest := @foldl_visit_open scope { top with unit? := some before.length } outer
            totals before u (e.units scope (package? (top :: outer))) houter htop rfl es
          refine ⟨some before.length, ?_⟩
          rw [List.foldl_cons, hvisit, hrest, package?_unit top (some before.length) outer]
          simp [ReportElement.insertUnit, ReportElement.unitsOfEach, hc, List.findIdx_cons, u,
            recordAfter, recordCounters, recordCounter]

end Forest

/-- The innermost package around the children of an element that has just been opened. -/
lemma package?_cons (e : ReportElement) (stack : List OpenElement) :
    package? (⟨e.name, e.value? "name", none⟩ :: stack) = e.packageWithin (package? stack) := by
  by_cases hname : e.name = "package".toList
  · rw [package?, List.find?_cons_of_pos (by simp [hname]), ReportElement.packageWithin,
      if_pos hname]
    rfl
  · rw [package?, List.find?_cons_of_neg (by simpa using hname), ReportElement.packageWithin,
      if_neg hname]
    rfl

/-- A unit is no package. -/
lemma packageWithin_of_unit {scope : UnitScope} {e : ReportElement}
    (h : e.name = scope.element.toList) (package? : Option (List Char)) :
    e.packageWithin package? = package? := by
  rw [ReportElement.packageWithin, if_neg]
  rw [h]
  cases scope <;> decide

/-- Recording a counter opens and closes nothing. -/
lemma exists_stack_record (scope : UnitScope) {w : Walk} {top : OpenElement}
    {outer : List OpenElement} (hstack : w.stack = top :: outer) (c? : Option Counter) :
    ∃ unit?, (w.record scope c?).stack = { top with unit? := unit? } :: outer := by
  cases c? with
  | none => exact ⟨top.unit?, hstack⟩
  | some c =>
      rw [record]
      split_ifs with hroot hunit
      · exact ⟨top.unit?, hstack⟩
      · cases hown : top.unit? with
        | none => exact ⟨some w.report.units.length, by simp only [recordUnit, hstack, hown]⟩
        | some i => exact ⟨some i, by simp only [recordUnit, hstack, hown]; rw [← hown]⟩
      · exact ⟨top.unit?, hstack⟩

/-- Visiting an element leaves what is open as it is, up to the unit of the innermost element. -/
lemma exists_stack_visit (scope : UnitScope) {w : Walk} {top : OpenElement}
    {outer : List OpenElement} (hstack : w.stack = top :: outer) (e : ReportElement) :
    ∃ unit?, (w.visit scope e).stack = { top with unit? := unit? } :: outer :=
  exists_stack_record scope hstack e.counter?

lemma stack_record_ne_nil (scope : UnitScope) {w : Walk} (hstack : w.stack ≠ [])
    (c? : Option Counter) : (w.record scope c?).stack ≠ [] := by
  obtain ⟨top, outer, hstack⟩ := List.exists_cons_of_ne_nil hstack
  obtain ⟨unit?, hrecord⟩ := exists_stack_record scope hstack c?
  rw [hrecord]
  exact List.cons_ne_nil _ _

/-- Inside an open element that is not the root, counters are counted if the element is a unit. -/
lemma name_of_counts_enter {scope : UnitScope} {w : Walk} {e : ReportElement}
    (hstack : w.stack ≠ []) (h : (w.enter e).Counts scope) : e.name = scope.element.toList := by
  rcases h with hroot | hunit
  · exact absurd (List.length_eq_zero_iff.1 (Nat.succ.inj hroot)) hstack
  · simpa [enter] using hunit

/-- After an element, the counters at its side are still counted or passed over as they were. -/
lemma counts_of_visit {scope : UnitScope} {w : Walk} {e : ReportElement}
    (h : (w.visit scope e).Counts scope) (hstack : w.stack ≠ []) : w.Counts scope := by
  obtain ⟨top, outer, hstack⟩ := List.exists_cons_of_ne_nil hstack
  obtain ⟨unit?, hvisit⟩ := exists_stack_visit scope hstack e
  rw [Counts, hvisit] at h
  rw [Counts, hstack]
  exact h

lemma package?_record (scope : UnitScope) {w : Walk} (hstack : w.stack ≠ []) (c? : Option Counter) :
    package? (w.record scope c?).stack = package? w.stack := by
  obtain ⟨top, outer, hstack⟩ := List.exists_cons_of_ne_nil hstack
  obtain ⟨unit?, hrecord⟩ := exists_stack_record scope hstack c?
  rw [hrecord, hstack, package?_unit]

/-- **Visiting the children of an element adds its units**, and nothing else but the unit of the
innermost open element changes. -/
theorem foldl_visit_children (scope : UnitScope) (e : ReportElement) {w : Walk}
    (hstack : w.stack ≠ []) :
    ∃ unit?, e.children.foldl (visit scope) (w.enter e) =
      ⟨⟨e.name, e.value? "name", unit?⟩ :: w.stack,
        (w.add (e.units scope (package? w.stack))).report⟩ := by
  have hpackage := package?_cons e w.stack
  rw [ReportElement.units_eq]
  by_cases hunit : e.name = scope.element.toList
  · obtain ⟨unit?, hnew⟩ := @foldl_visit_new scope ⟨e.name, e.value? "name", none⟩ w.stack
      w.report.totals w.report.units hstack hunit rfl e.children
    refine ⟨unit?, hnew.trans ?_⟩
    rw [if_pos hunit, hpackage, packageWithin_of_unit hunit, recordCounters_eq_lastPerMetric]
    rfl
  · refine ⟨none, ?_⟩
    rw [if_neg hunit, ← hpackage]
    exact foldl_visit_plain hstack hunit e.children

end Walk

end QualityGate
