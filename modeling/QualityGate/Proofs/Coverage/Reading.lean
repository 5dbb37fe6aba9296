import QualityGate.Proofs.Coverage.Markup
import QualityGate.Proofs.Coverage.Visit
import Mathlib.Tactic

/-!
Reading a written report. Whatever text is written for a tree of elements, walking over the tags of
the text does what visiting the elements does, and so the report that is read is the one that the
tree makes.

* `valueOf?_eq_value?`: the order in which attributes are written does not matter.
* `count_eq_record`: a counter tag records the counter that its element is.
* `WalksLike`, `walksLikeEach_of_written`: the tags of a text that is written for elements do what
  visiting the elements does.
* **`ofText_written`**: a report is read back from every text that is written for it.
-/

namespace QualityGate

/-! ### Counter tags -/

/-- An attribute has the same value in whatever order attributes are written. -/
lemma valueOf?_eq_value? {e : ReportElement} {written : List (List Char × List Char)}
    (hdistinct : (e.attributes.map Prod.fst).Nodup) (hperm : written.Perm e.attributes)
    (key : String) : Tag.valueOf? written key = e.value? key := by
  have hperm : written.reverse.Perm e.attributes := (List.reverse_perm written).trans hperm
  have hnodup : (written.reverse.map Prod.fst).Nodup := (hperm.map Prod.fst).nodup_iff.2 hdistinct
  refine congrArg (Option.map Prod.snd) (Option.ext fun a => ?_)
  have hfound {as : List (List Char × List Char)} (has : (as.map Prod.fst).Nodup) :
      as.find? (fun a => a.1 == key.toList) = some a ↔ a ∈ as ∧ a.1 = key.toList := by
    refine ⟨fun h => ⟨List.mem_of_find?_eq_some h, by simpa using List.find?_some h⟩, ?_⟩
    rintro ⟨ha, hkey⟩
    rw [← hkey]
    exact find?_key_of_mem has ha
  rw [hfound hnodup, hfound hdistinct, hperm.mem_iff]

section Counter

variable {e : ReportElement} {written : List (List Char × List Char)}

/-- The count that is read is the one of the element. -/
lemma readCount_of_count? (hvalue : ∀ key, Tag.valueOf? written key = e.value? key) {key : String}
    {n : ℕ} (hn : e.count? key = some n) (metric : Metric) :
    readCount metric written key = .ok n := by
  obtain ⟨value, hkey, hvalueRead⟩ := Option.bind_eq_some_iff.1 hn
  simp only [readCount, hvalue, hkey, hvalueRead]

/-- The counter that is read is the one of the element. -/
lemma readCounter_of_counter? (hvalue : ∀ key, Tag.valueOf? written key = e.value? key)
    {metric : Metric} (hmetric : e.metric? = some metric) {c : Counter}
    (hc : e.counter? = some c) : readCounter metric written = .ok c := by
  rw [ReportElement.counter?, hmetric, Option.bind_some] at hc
  obtain ⟨missed, hmissed, hc⟩ := Option.bind_eq_some_iff.1 hc
  obtain ⟨covered, hcovered, rfl⟩ := Option.map_eq_some_iff.1 hc
  simp only [readCounter, readCount_of_count? hvalue hmissed, readCount_of_count? hvalue hcovered]

/-- The metric that is read is the one of the element. -/
lemma readMetric_of_hasKnownType (hvalue : ∀ key, Tag.valueOf? written key = e.value? key)
    (hcounter : e.name = "counter".toList) (hknown : e.HasKnownType) :
    readMetric written = .ok e.metric? := by
  obtain ⟨type, htype, hkind⟩ := hknown
  rw [Option.mem_def] at htype
  rw [ReportElement.metric?, if_pos hcounter, htype, Option.bind_some]
  simp only [readMetric, hvalue, htype]
  cases hmetric : Metric.ofTag? (String.ofList type) with
  | some metric => rfl
  | none =>
      have hignored : String.ofList type ∈ ignoredCounterTypes := by simpa [hmetric] using hkind
      simp [hignored]

/-- **A counter tag** records the counter that its element is. -/
theorem count_eq_record {scope : UnitScope} {w : Walk}
    (hvalue : ∀ key, Tag.valueOf? written key = e.value? key)
    (hcounter : e.name = "counter".toList) (hknown : e.HasKnownType)
    (hcounts : w.Counts scope → e.HasCounts) :
    Walk.count scope written w = .ok (w.record scope e.counter?) := by
  rw [Walk.count, readMetric_of_hasKnownType hvalue hcounter hknown]
  cases hmetric : e.metric? with
  | none =>
      have hnone : e.counter? = none := by rw [ReportElement.counter?, hmetric]; rfl
      rw [hnone]
      rfl
  | some metric =>
      have hread (hcounted : w.Counts scope) :
          ∃ c, e.counter? = some c ∧ readCounter metric written = .ok c := by
        obtain ⟨c, hc⟩ := Option.isSome_iff_exists.1 (hcounts hcounted (by rw [hmetric]; rfl))
        exact ⟨c, hc, readCounter_of_counter? hvalue hmetric hc⟩
      by_cases hroot : w.stack.length = 1
      · obtain ⟨c, hc, hread⟩ := hread (.inl hroot)
        simp only [hc, hread, Walk.record, if_pos hroot]
        rfl
      · by_cases hunit : w.stack.head?.any fun s => s.element == scope.element.toList
        · obtain ⟨c, hc, hread⟩ := hread (.inr hunit)
          simp only [hc, hread, Walk.record, if_neg hroot, if_pos hunit]
          rfl
        · simp only [if_neg hroot, if_neg hunit]
          cases e.counter? with
          | none => rfl
          | some c => rw [Walk.record, if_neg hroot, if_neg hunit]

end Counter

/-! ### Written texts -/

/-- An opening tag records the counter that its element is, and opens the element unless the tag
closes it as well. -/
lemma steps_openingTag {scope : UnitScope} {w : Walk} {e : ReportElement} {text blanks : List Char}
    {written : List (List Char × List Char)} (hopens : OpensWith e written text blanks)
    (hreadable : e.Readable scope) (hcounts : w.Counts scope → e.HasCounts) (isEmpty : Bool)
    (rest : List Char) :
    Walk.steps scope w (Tag.read (openingTag e.name text blanks isEmpty ++ rest)) =
      Walk.steps scope
        (if isEmpty then w.record scope e.counter? else (w.record scope e.counter?).enter e)
        (Tag.read rest) := by
  have hvalue := valueOf?_eq_value? hopens.distinct hopens.perm
  rw [Tag.read_openingTag hopens.isName hopens.writes hopens.blank, Walk.steps, Walk.step]
  by_cases hcounter : e.name = "counter".toList
  · have hknown := (hreadable e e.self_mem_elements).1 hcounter
    rw [if_pos hcounter, count_eq_record hvalue hcounter hknown hcounts]
    cases isEmpty <;> simp [Walk.push, Walk.enter, hvalue, Except.map]
  · rw [if_neg hcounter, ReportElement.counter?_of_name_ne hcounter]
    cases isEmpty <;> simp [Walk.push, Walk.enter, hvalue]

/-- An element with an opening and a closing tag is opened, its children are walked over, and it is
closed again. -/
lemma steps_paired {scope : UnitScope} {w : Walk} {e : ReportElement}
    {text blanks inner blanks' : List Char} {written : List (List Char × List Char)}
    {outer : List OpenElement} {report : CoverageReport} (unit? : Option ℕ)
    (hopens : OpensWith e written text blanks) (hblanks' : IsBlankText blanks')
    (hreadable : e.Readable scope) (hcounts : w.Counts scope → e.HasCounts)
    (hinside : ∀ rest, Walk.steps scope ((w.record scope e.counter?).enter e)
        (Tag.read (inner ++ rest)) =
      Walk.steps scope ⟨⟨e.name, e.value? "name", unit?⟩ :: outer, report⟩ (Tag.read rest))
    (rest : List Char) :
    Walk.steps scope w (Tag.read (openingTag e.name text blanks false ++
        (inner ++ closingTag e.name blanks') ++ rest)) =
      Walk.steps scope ⟨outer, report⟩ (Tag.read rest) := by
  have hclose : Walk.close e.name (⟨e.name, e.value? "name", unit?⟩ :: outer) = outer := by
    simp [Walk.close]
  rw [List.append_assoc, List.append_assoc, steps_openingTag hopens hreadable hcounts,
    if_neg (by simp), hinside, Tag.read_closingTag hopens.isName hblanks', Walk.steps,
    Walk.step_closing, hclose]

/-- The tags of a text do what visiting an element inside another one does. -/
def WalksLike (scope : UnitScope) (e : ReportElement) (text : List Char) : Prop :=
  ∀ (w : Walk) (rest : List Char), w.stack ≠ [] → e.Readable scope →
    (w.Counts scope → e.HasCounts) →
    Walk.steps scope w (Tag.read (text ++ rest)) =
      Walk.steps scope (w.visit scope e) (Tag.read rest)

/-- The tags of a text do what visiting elements inside another one does. -/
def WalksLikeEach (scope : UnitScope) (es : List ReportElement) (text : List Char) : Prop :=
  ∀ (w : Walk) (rest : List Char), w.stack ≠ [] → (∀ e ∈ es, e.Readable scope) →
    (w.Counts scope → ∀ e ∈ es, e.HasCounts) →
    Walk.steps scope w (Tag.read (text ++ rest)) =
      Walk.steps scope (es.foldl (Walk.visit scope) w) (Tag.read rest)

section Walks

variable {scope : UnitScope} {e : ReportElement} {written : List (List Char × List Char)}
  {text blanks : List Char}

lemma walksLike_selfClosed (hopens : OpensWith e written text blanks)
    (hchildren : e.children = []) :
    WalksLike scope e (openingTag e.name text blanks true) := by
  intro w rest hstack hreadable hcounts
  rw [steps_openingTag hopens hreadable hcounts, if_pos rfl, Walk.visit,
    ReportElement.units_of_children_eq_nil scope _ hchildren, Walk.add_nil]

lemma walksLike_paired {inner blanks' : List Char} (hopens : OpensWith e written text blanks)
    (hchildren : WalksLikeEach scope e.children inner) (hblanks' : IsBlankText blanks') :
    WalksLike scope e
      (openingTag e.name text blanks false ++ (inner ++ closingTag e.name blanks')) := by
  intro w rest hstack hreadable hcounts
  have hrecorded := Walk.stack_record_ne_nil scope hstack e.counter?
  have hunit (h : ((w.record scope e.counter?).enter e).Counts scope) :=
    (hreadable e e.self_mem_elements).2 (Walk.name_of_counts_enter hrecorded h)
  obtain ⟨unit?, hvisited⟩ := Walk.foldl_visit_children scope e hrecorded
  have hinside (rest : List Char) := hchildren ((w.record scope e.counter?).enter e) rest
    (List.cons_ne_nil _ _) (fun c hc => hreadable.of_mem hc) hunit
  rw [hvisited, Walk.package?_record scope hstack] at hinside
  exact steps_paired unit? hopens hblanks' hreadable hcounts hinside rest

lemma walksLikeEach_nil {filler : List Char} (hfiller : Filler filler) :
    WalksLikeEach scope [] filler := by
  intro w rest _ _ _
  rw [Tag.read_filler hfiller]
  rfl

lemma walksLikeEach_cons {es : List ReportElement} {filler more : List Char}
    (hfiller : Filler filler) (he : WalksLike scope e text) (hes : WalksLikeEach scope es more) :
    WalksLikeEach scope (e :: es) (filler ++ (text ++ more)) := by
  intro w rest hstack hreadable hcounts
  have hvisited : (w.visit scope e).stack ≠ [] := Walk.stack_record_ne_nil scope hstack _
  rw [List.append_assoc, Tag.read_filler hfiller, List.append_assoc,
    he w _ hstack (hreadable e List.mem_cons_self) fun h => hcounts h e List.mem_cons_self,
    hes _ _ hvisited (fun x hx => hreadable x (List.mem_cons_of_mem e hx))
      fun h x hx => hcounts (Walk.counts_of_visit h hstack) x (List.mem_cons_of_mem e hx)]
  rfl

/-- **The tags of written elements** do what visiting the elements in order does. -/
theorem walksLikeEach_of_written {es : List ReportElement} (h : WrittenEach es text) :
    WalksLikeEach scope es text :=
  @WrittenEach.rec (fun e text _ => WalksLike scope e text)
    (fun es text _ => WalksLikeEach scope es text)
    (fun hopens hchildren => walksLike_selfClosed hopens hchildren)
    (fun hopens _ hblanks' hchildren => walksLike_paired hopens hchildren hblanks')
    (fun hfiller => walksLikeEach_nil hfiller)
    (fun hfiller _ _ he hes => walksLikeEach_cons hfiller he hes) es text h

end Walks

/-! ### Reports -/

/-- A root element whose report can be read: no counter itself, with counters that can be read and
at least one total. -/
structure ReportElement.IsReport (scope : UnitScope) (root : ReportElement) : Prop where
  name_ne : root.name ≠ "counter".toList
  readable : root.Readable scope
  counts : ∀ c ∈ root.children, c.HasCounts
  total : ∃ c ∈ root.children, c.metric?.isSome

instance (scope : UnitScope) (root : ReportElement) : Decidable (root.IsReport scope) :=
  decidable_of_iff
    (root.name ≠ "counter".toList ∧ root.Readable scope ∧ (∀ c ∈ root.children, c.HasCounts) ∧
      ∃ c ∈ root.children, c.metric?.isSome)
    ⟨fun ⟨h₁, h₂, h₃, h₄⟩ => ⟨h₁, h₂, h₃, h₄⟩, fun ⟨h₁, h₂, h₃, h₄⟩ => ⟨h₁, h₂, h₃, h₄⟩⟩

/-- There is a total in the report. -/
lemma ReportElement.IsReport.totals_ne_nil {scope : UnitScope} {root : ReportElement}
    (h : root.IsReport scope) : lastPerMetric root.counters ≠ [] := by
  obtain ⟨e, he, hmetric⟩ := h.total
  obtain ⟨c, hc⟩ := Option.isSome_iff_exists.1 (h.counts e he hmetric)
  have hmem : c.metric ∈ (lastPerMetric root.counters).map Counter.metric := by
    rw [← recordCounters_eq_lastPerMetric, map_metric_recordCounters, List.mem_eraseDups]
    exact List.mem_map_of_mem (List.mem_filterMap.2 ⟨e, he, hc⟩)
  intro hnil
  rw [hnil] at hmem
  cases hmem

/-- The root is visited by recording its totals and adding the units inside it. -/
lemma foldl_visit_enter_root (scope : UnitScope) (root : ReportElement) :
    root.children.foldl (Walk.visit scope) (Walk.start.enter root) =
      ⟨[⟨root.name, root.value? "name", none⟩], root.report scope⟩ := by
  have hroot := @Walk.foldl_visit_root scope ⟨root.name, root.value? "name", none⟩ [] []
    root.children
  rw [Walk.package?_cons, List.nil_append] at hroot
  refine hroot.trans ?_
  rw [ReportElement.report, ← recordCounters_eq_lastPerMetric]
  rfl

/-- The tags of the root leave nothing open and the report of the root. -/
lemma steps_root {scope : UnitScope} {root : ReportElement} {text : List Char}
    (hwritten : Written root text) (hroot : root.IsReport scope) (rest : List Char) :
    Walk.steps scope .start (Tag.read (text ++ rest)) =
      Walk.steps scope ⟨[], root.report scope⟩ (Tag.read rest) := by
  cases hwritten with
  | selfClosed hopens hchildren =>
      obtain ⟨c, hc, -⟩ := hroot.total
      rw [hchildren] at hc
      cases hc
  | paired hopens hchildren hblanks' =>
      have hstart : ¬ Walk.start.Counts scope := by simp [Walk.Counts, Walk.start]
      refine steps_paired none hopens hblanks' hroot.readable (fun h => absurd h hstart)
        (fun rest => ?_) rest
      rw [ReportElement.counter?_of_name_ne hroot.name_ne, Walk.record_none,
        walksLikeEach_of_written hchildren _ _ (List.cons_ne_nil _ _)
          (fun c hc => hroot.readable.of_mem hc) fun _ => hroot.counts, foldl_visit_enter_root]

/-- The text after the last tag has no tags. -/
lemma steps_filler (scope : UnitScope) (w : Walk) {filler : List Char} (h : Filler filler) :
    Walk.steps scope w (Tag.read filler) = .ok w := by
  have hread := Tag.read_filler h []
  rw [List.append_nil] at hread
  rw [hread, Tag.read, Tag.withoutComments, Tag.tags]
  rfl

/-- **A report is read back from every text that is written for it.** -/
theorem CoverageReport.ofText_written {scope : UnitScope} {root : ReportElement} {text : List Char}
    (hwritten : WrittenEach [root] text) (hroot : root.IsReport scope) :
    CoverageReport.ofText scope text = .ok (root.report scope) := by
  have hsteps : Walk.steps scope .start (Tag.read text) = .ok ⟨[], root.report scope⟩ := by
    cases hwritten with
    | @cons filler text rest _ _ hfiller hdocument hrest =>
        cases hrest with
        | nil hend =>
            rw [Tag.read_filler hfiller, steps_root hdocument hroot, steps_filler scope _ hend]
  have htotals : (root.report scope).totals.isEmpty = false :=
    List.isEmpty_eq_false_iff.2 hroot.totals_ne_nil
  have hread : ofText scope text = ofTags scope (Tag.read text) := rfl
  rw [hread, ofTags, hsteps]
  exact if_neg (by rw [htotals]; simp)

/-- A class in a class, both with counters, in a package that is the root. The unit of the inner
class comes first, and of two counters of a metric the last one counts. -/
theorem CoverageReport.ofText_written_nestedClasses :
    let counter (missed covered : Char) : ReportElement := .node "counter".toList
      [("type".toList, "LINE".toList), ("missed".toList, [missed]),
        ("covered".toList, [covered])] []
    let inner : ReportElement :=
      .node "class".toList [("name".toList, "q/B".toList)] [counter '0' '1']
    let outer : ReportElement := .node "class".toList [("name".toList, "A".toList)]
      [inner, counter '2' '3', counter '4' '5']
    let root : ReportElement := .node "package".toList [("name".toList, "p".toList)]
      [outer, counter '6' '7']
    let text : List Char :=
      "<!-- <a> -->\n<package name='p'>".toList ++ "<class name = \"A\">".toList ++
        "<class name='q/B' >".toList ++ "<counter covered='1' type='LINE'\n missed='0'/>".toList ++
        "</class>, ".toList ++ "<counter type='LINE' missed='2' covered='3'></counter >".toList ++
        "<counter type='LINE' missed='4' covered='5'/></class>".toList ++
        "<counter type='LINE' missed='6' covered='7'/></package>".toList
    WrittenEach [root] text ∧ root.IsReport .type ∧
      CoverageReport.ofText .type text = .ok ⟨[⟨.line, 6, 7⟩],
        [⟨"q/B", [⟨.line, 0, 1⟩]⟩, ⟨"p/A", [⟨.line, 4, 5⟩]⟩]⟩ := by
  intro counter inner outer root text
  have hroot : root.IsReport .type := by decide +kernel
  have hnone : Filler [] := .nil
  have hblanks : IsBlankText [] := by decide
  have htype : IsAttribute "type".toList "LINE".toList [' '] [] [] '\'' := by decide
  have hcounter (missed covered : Char)
      (hm : IsAttribute "missed".toList [missed] [' '] [] [] '\'')
      (hc : IsAttribute "covered".toList [covered] [' '] [] [] '\'') :
      OpensWith (counter missed covered) (counter missed covered).attributes _ [] :=
    ⟨(by decide : IsElementName "counter".toList),
      (by decide : ["type".toList, "missed".toList, "covered".toList].Nodup), .refl _,
      .cons htype (.cons hm (.cons hc .nil)), hblanks⟩
  have hpermuted : OpensWith (counter '0' '1')
      [("covered".toList, ['1']), ("type".toList, "LINE".toList), ("missed".toList, ['0'])] _ [] :=
    ⟨by decide, by decide, by decide, .cons (by decide : IsAttribute _ _ [' '] [] [] '\'')
      (.cons htype (.cons (by decide : IsAttribute _ _ ['\n', ' '] [] [] '\'') .nil)), hblanks⟩
  have hinnerOpens : OpensWith inner inner.attributes _ [' '] :=
    ⟨by decide, by decide, .refl _, .cons (by decide : IsAttribute _ _ [' '] [] [] '\'') .nil,
      by decide⟩
  have hinner : Written inner _ :=
    .paired hinnerOpens (.cons hnone (.selfClosed hpermuted rfl) (.nil hnone)) hblanks
  have hcomma : Filler [',', ' '] := .char (by decide) (.char (by decide) hnone)
  have hpaired : Written (counter '2' '3') _ :=
    .paired (hcounter '2' '3' (by decide) (by decide)) (.nil hnone) (by decide : IsBlankText [' '])
  have hselfClosed : Written (counter '4' '5') _ :=
    .selfClosed (hcounter '4' '5' (by decide) (by decide)) rfl
  have houterOpens : OpensWith outer outer.attributes _ [] :=
    ⟨by decide, by decide, .refl _, .cons (by decide : IsAttribute _ _ [' '] [' '] [' '] '"') .nil,
      hblanks⟩
  have houter : Written outer _ :=
    .paired houterOpens (.cons hnone hinner (.cons hcomma hpaired (.cons hnone hselfClosed
      (.nil hnone)))) hblanks
  have htotal : Written (counter '6' '7') _ :=
    .selfClosed (hcounter '6' '7' (by decide) (by decide)) rfl
  have hrootOpens : OpensWith root root.attributes _ [] :=
    ⟨by decide, by decide, .refl _, .cons (by decide : IsAttribute _ _ [' '] [] [] '\'') .nil,
      hblanks⟩
  have hpackage : Written root _ :=
    .paired hrootOpens (.cons hnone houter (.cons hnone htotal (.nil hnone))) hblanks
  have hcomment : Filler ("<!--".toList ++ (" <a> ".toList ++ ("-->".toList ++ ['\n']))) :=
    .comment (by decide) (.char (by decide) hnone)
  have hwritten : WrittenEach [root] text := by
    have hdocument := WrittenEach.cons hcomment hpackage (.nil hnone)
    convert hdocument using 1
    decide +kernel
  refine ⟨hwritten, hroot, ?_⟩
  rw [CoverageReport.ofText_written hwritten hroot]
  decide +kernel

end QualityGate
