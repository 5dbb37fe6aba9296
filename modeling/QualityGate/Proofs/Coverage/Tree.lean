import QualityGate.Coverage.Reader
import Mathlib.Tactic

/-!
Coverage reports as trees of elements, and what a tree reports. An element has a name, attributes
and children; nothing is said here about how it is written.

* `ReportElement.counter?`: the counter that an element is.
* `lastPerMetric`: of the counters of one element, the last one for each metric.
* `ReportElement.units`: the units among an element and the elements inside it.
* `ReportElement.Readable`: every counter that is looked at can be read.
-/

namespace QualityGate

/-- Where no key comes twice, an entry is the one that is found for its key. -/
lemma find?_key_of_mem {α β : Type} [BEq β] [LawfulBEq β] {key : α → β} {as : List α}
    (has : (as.map key).Nodup) {a : α} (ha : a ∈ as) :
    as.find? (fun b => key b == key a) = some a := by
  induction as with
  | nil => cases ha
  | cons b bs ih =>
      rw [List.map_cons, List.nodup_cons] at has
      rcases List.mem_cons.1 ha with rfl | ha
      · exact List.find?_cons_of_pos (by simp)
      · have hne : key b ≠ key a := fun h => has.1 (h ▸ List.mem_map_of_mem ha)
        rw [List.find?_cons_of_neg (by simpa using hne)]
        exact ih has.2 ha

/-- An element of a report with its name, its attributes and its children. -/
inductive ReportElement where
  | node (name : List Char) (attributes : List (List Char × List Char))
      (children : List ReportElement)

namespace ReportElement

def name : ReportElement → List Char
  | node name _ _ => name

def attributes : ReportElement → List (List Char × List Char)
  | node _ attributes _ => attributes

def children : ReportElement → List ReportElement
  | node _ _ children => children

mutual

/-- The element and all elements inside it. -/
def elements : ReportElement → List ReportElement
  | node name attributes children => node name attributes children :: elementsOfEach children

/-- Elements and all elements inside them. -/
def elementsOfEach : List ReportElement → List ReportElement
  | [] => []
  | e :: es => e.elements ++ elementsOfEach es

end

/-- An element is one of its own elements. -/
lemma self_mem_elements (e : ReportElement) : e ∈ e.elements := by
  cases e with
  | node name attributes children => exact List.mem_cons_self

/-- What is inside one of the elements is inside all of them. -/
lemma mem_elementsOfEach {x c : ReportElement} {es : List ReportElement} (hc : c ∈ es)
    (hx : x ∈ c.elements) : x ∈ elementsOfEach es := by
  induction es with
  | nil => cases hc
  | cons e es ih =>
      rw [elementsOfEach, List.mem_append]
      rcases List.mem_cons.1 hc with rfl | hc
      · exact .inl hx
      · exact .inr (ih hc)

/-- What is inside a child is inside the element. -/
lemma mem_elements_of_mem_children {x c e : ReportElement} (hc : c ∈ e.children)
    (hx : x ∈ c.elements) : x ∈ e.elements := by
  cases e with
  | node name attributes children => exact List.mem_cons_of_mem _ (mem_elementsOfEach hc hx)

/-! ### Counters -/

/-- The value of an attribute. -/
def value? (e : ReportElement) (key : String) : Option (List Char) :=
  (e.attributes.find? fun a => a.1 == key.toList).map Prod.snd

/-- The metric that an element counts, if it is a counter and its metric is evaluated. -/
def metric? (e : ReportElement) : Option Metric :=
  if e.name = "counter".toList then
    (e.value? "type").bind fun type => Metric.ofTag? (String.ofList type)
  else none

/-- A count given by an attribute. -/
def count? (e : ReportElement) (key : String) : Option ℕ :=
  (e.value? key).bind fun value => Text.natural? maxCount (Text.trim value)

/-- The counter that an element is, if its metric is evaluated. -/
def counter? (e : ReportElement) : Option Counter :=
  e.metric?.bind fun metric => (e.count? "missed").bind fun missed =>
    (e.count? "covered").map fun covered => ⟨metric, missed, covered⟩

/-- Only counters count. -/
lemma counter?_of_name_ne {e : ReportElement} (h : e.name ≠ "counter".toList) :
    e.counter? = none := by
  rw [counter?, metric?, if_neg h]
  rfl

/-- The counters right below an element. -/
def counters (e : ReportElement) : List Counter := e.children.filterMap counter?

/-- The counter has one of the types that reports use. -/
def HasKnownType (e : ReportElement) : Prop :=
  ∃ type ∈ e.value? "type",
    (Metric.ofTag? (String.ofList type)).isSome ∨ String.ofList type ∈ ignoredCounterTypes

/-- If the element is a counter whose metric is evaluated, its counts can be read. -/
def HasCounts (e : ReportElement) : Prop := e.metric?.isSome → e.counter?.isSome

/-- Every counter inside the element has a known type, and those right below units have counts. -/
def Readable (scope : UnitScope) (e : ReportElement) : Prop :=
  ∀ x ∈ e.elements, (x.name = "counter".toList → x.HasKnownType) ∧
    (x.name = scope.element.toList → ∀ c ∈ x.children, c.HasCounts)

instance (e : ReportElement) : Decidable e.HasKnownType :=
  inferInstanceAs (Decidable (∃ type ∈ e.value? "type", _))

instance (e : ReportElement) : Decidable e.HasCounts :=
  inferInstanceAs (Decidable (e.metric?.isSome → e.counter?.isSome))

instance (scope : UnitScope) (e : ReportElement) : Decidable (e.Readable scope) :=
  inferInstanceAs (Decidable (∀ x ∈ e.elements, (x.name = "counter".toList → x.HasKnownType) ∧
    (x.name = scope.element.toList → ∀ c ∈ x.children, c.HasCounts)))

/-- Children of readable elements are readable. -/
lemma Readable.of_mem {scope : UnitScope} {e c : ReportElement} (h : e.Readable scope)
    (hc : c ∈ e.children) : c.Readable scope :=
  fun x hx => h x (mem_elements_of_mem_children hc hx)

end ReportElement

/-- The last counter of each metric, in the order in which the metrics come first. -/
def lastPerMetric (cs : List Counter) : List Counter :=
  (cs.map Counter.metric).eraseDups.filterMap fun m => cs.reverse.find? fun c => c.metric == m

/-- Counters of different metrics are known from their metrics and the counter of each metric. -/
lemma eq_filterMap_counterOf? {cs : List Counter} (hcs : (cs.map Counter.metric).Nodup) :
    cs = (cs.map Counter.metric).filterMap fun m => counterOf? m cs := by
  have hself : ∀ c ∈ cs, ((fun m => counterOf? m cs) ∘ Counter.metric) c = some c :=
    fun c hc => find?_key_of_mem hcs hc
  rw [List.filterMap_map, List.filterMap_congr hself, List.filterMap_some]

/-- The last counter is recorded last. -/
lemma recordCounters_concat (cs : List Counter) (c : Counter) :
    recordCounters (cs ++ [c]) = recordCounter c (recordCounters cs) := by
  simp [recordCounters]

/-- No metric comes twice among recorded counters. -/
lemma nodup_metric_recordCounters (cs : List Counter) :
    ((recordCounters cs).map Counter.metric).Nodup := by
  induction cs using List.reverseRecOn with
  | nil => exact List.nodup_nil
  | append_singleton cs c ih =>
      rw [recordCounters_concat, map_metric_recordCounter]
      split_ifs with hmem
      · exact ih
      · exact List.nodup_append.2 ⟨ih, List.nodup_singleton _, by
          rintro m hm n hn rfl
          exact hmem (List.mem_singleton.1 hn ▸ hm)⟩

/-- Recorded counters have their metrics in the order in which they come first. -/
lemma map_metric_recordCounters (cs : List Counter) :
    (recordCounters cs).map Counter.metric = (cs.map Counter.metric).eraseDups := by
  induction cs using List.reverseRecOn with
  | nil => rfl
  | append_singleton cs c ih =>
      rw [recordCounters_concat, map_metric_recordCounter, ih, List.map_append,
        List.eraseDups_append, List.map_singleton]
      by_cases hmem : c.metric ∈ cs.map Counter.metric
      · have hremoved : [c.metric].removeAll (cs.map Counter.metric) = [] :=
          List.filter_eq_nil_iff.2 fun m hm => by simpa [List.mem_singleton.1 hm] using hmem
        rw [if_pos (List.mem_eraseDups.2 hmem), hremoved, List.eraseDups_nil, List.append_nil]
      · have hkept : [c.metric].removeAll (cs.map Counter.metric) = [c.metric] :=
          List.filter_eq_self.2 fun m hm => by simpa [List.mem_singleton.1 hm] using hmem
        rw [if_neg fun h => hmem (List.mem_eraseDups.1 h), hkept]
        rfl

/-- Of the counters of a metric the last one is recorded. -/
lemma counterOf?_recordCounters (m : Metric) (cs : List Counter) :
    counterOf? m (recordCounters cs) = cs.reverse.find? fun c => c.metric == m := by
  induction cs using List.reverseRecOn with
  | nil => rfl
  | append_singleton cs c ih =>
      rw [recordCounters_concat, counterOf?_recordCounter, ih, List.reverse_append,
        List.reverse_singleton, List.singleton_append, List.find?_cons]
      by_cases hm : c.metric = m
      · simp [hm]
      · simp [hm, beq_eq_false_iff_ne.2 hm]

/-- **Recording counters one after the other** keeps the last one of each metric. -/
theorem recordCounters_eq_lastPerMetric (cs : List Counter) :
    recordCounters cs = lastPerMetric cs := by
  rw [eq_filterMap_counterOf? (nodup_metric_recordCounters cs), map_metric_recordCounters,
    lastPerMetric]
  exact List.filterMap_congr fun m _ => counterOf?_recordCounters m cs

/-! ### Units -/

/-- The name of a unit: it stands in the innermost package around it, unless its own name has a
package already. -/
def qualifiedName (package? : Option (List Char)) (own : List Char) : List Char :=
  match package? with
  | some package => if '/' ∈ own ∨ package = [] then own else package ++ '/' :: own
  | none => own

namespace ReportElement

/-- The name of the innermost package around the children of an element. -/
def packageWithin (package? : Option (List Char)) (e : ReportElement) : Option (List Char) :=
  if e.name = "package".toList then e.value? "name" else package?

/-- The unit that an element is, if there are counters right below it. -/
def unit? (package? : Option (List Char)) (e : ReportElement) : Option CoverageUnit :=
  if e.counters = [] then none
  else some ⟨String.ofList (qualifiedName package? ((e.value? "name").getD [])),
    lastPerMetric e.counters⟩

/-- The units inside the children of an element together with the unit that the element is, which
comes after the units inside the children before its first counter. -/
def insertUnit (unit? : Option CoverageUnit) (children : List ReportElement)
    (inside : List (List CoverageUnit)) : List CoverageUnit :=
  let first := children.findIdx fun c => c.counter?.isSome
  (inside.take first).flatten ++ unit?.toList ++ (inside.drop first).flatten

mutual

/-- The units among an element and the elements inside it, in the order of their first counters. -/
def units (scope : UnitScope) (package? : Option (List Char)) : ReportElement → List CoverageUnit
  | node name attributes children =>
    let e := node name attributes children
    let inside := unitsOfEach scope (e.packageWithin package?) children
    if name = scope.element.toList then insertUnit (e.unit? package?) children inside
    else inside.flatten

/-- The units among each of some elements and the elements inside it. -/
def unitsOfEach (scope : UnitScope) (package? : Option (List Char)) :
    List ReportElement → List (List CoverageUnit)
  | [] => []
  | e :: es => e.units scope package? :: unitsOfEach scope package? es

end

/-- The units of an element in terms of its children. -/
lemma units_eq (scope : UnitScope) (package? : Option (List Char)) (e : ReportElement) :
    e.units scope package? =
      if e.name = scope.element.toList then
        insertUnit (e.unit? package?) e.children
          (unitsOfEach scope (e.packageWithin package?) e.children)
      else (unitsOfEach scope (e.packageWithin package?) e.children).flatten := by
  cases e with
  | node name attributes children => rw [units]; rfl

/-- An element without children has no units. -/
lemma units_of_children_eq_nil (scope : UnitScope) (package? : Option (List Char))
    {e : ReportElement} (h : e.children = []) : e.units scope package? = [] := by
  rw [units_eq, h, unitsOfEach]
  simp [insertUnit, unit?, counters, h]

/-- The report that a root element with its children makes. The root is no unit. -/
def report (scope : UnitScope) (root : ReportElement) : CoverageReport where
  totals := lastPerMetric root.counters
  units := (unitsOfEach scope (root.packageWithin none) root.children).flatten

end ReportElement

end QualityGate
