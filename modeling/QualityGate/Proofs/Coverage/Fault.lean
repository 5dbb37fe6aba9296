import QualityGate.Error
import QualityGate.Proofs.Text.Numeral
import Mathlib.Data.List.TakeWhile
import Mathlib.Tactic

/-!
What is wrong with a report. Tags are looked at in order, each with the elements that are open
before it. A tag offends if it is a counter without a known type, or a counter of a metric right
below the root or a unit that has no counts; the first tag that offends makes the error. The walk
over a report keeps more about an element than its name, but whether a tag offends depends on the
names alone, and so does what the tag leaves open.

* `Tag.nest`, `Tag.openElements`: the elements that are open after some tags.
* `Tag.Offends`: a tag offends, and how.
* `Walk.step_eq_error_iff`, `Walk.of_step_eq_ok`: what one tag does to a walk.
* `Walk.steps_start`: what tags do one after the other, by induction from the last tag backwards.
* `CoverageReport.ofText_eq_error_iff`: **a text is no report** exactly if a tag offends, the first
  one of which is the error, or if no tag offends and there are no totals.
-/

namespace QualityGate

namespace Tag

/-! ### Open elements -/

/-- The names of the open elements, innermost first, after a tag. A closing tag closes the innermost
element of its name with all inside it, or nothing. -/
def nest (names : List (List Char)) : Tag → List (List Char)
  | .opening element _ isEmpty => if isEmpty then names else element :: names
  | .closing element =>
    if element ∈ names then (names.dropWhile fun name => name != element).tail else names

/-- The names of the elements that are open after tags, innermost first. -/
def openElements (tags : List Tag) : List (List Char) := tags.foldl nest []

lemma openElements_concat (tags : List Tag) (last : Tag) :
    openElements (tags ++ [last]) = last.nest (openElements tags) := by
  rw [openElements, List.foldl_append]
  rfl

/-! ### Faults -/

/-- The value of an attribute is a count: a decimal number of 64 bits, possibly after a plus sign
and with white space around it. -/
def IsCount (value : List Char) : Prop :=
  ∃ digits, (Text.trim value = digits ∨ Text.trim value = '+' :: digits) ∧ digits ≠ [] ∧
    (∀ c ∈ digits, Text.IsDigit c) ∧ Text.decimal digits < 2 ^ 64

section Fault

variable (scope : UnitScope) (names : List (List Char))

/-- A count is missing or is none, and the error that says so. -/
inductive LacksCount (metric : Metric) (attributes : List (List Char × List Char)) (key : String) :
    ReportError → Prop where
  | missing (h : valueOf? attributes key = none) :
      LacksCount metric attributes key (.missingCount metric key)
  | bad {value : List Char} (h : valueOf? attributes key = some value)
      (hvalue : ¬IsCount value) :
      LacksCount metric attributes key (.badCount metric key (String.ofList value))

/-- The counts of a counter are missing or are none. The missed ones come first. -/
inductive LacksCounts (metric : Metric) (attributes : List (List Char × List Char)) :
    ReportError → Prop where
  | missed {e : ReportError} (h : LacksCount metric attributes "missed" e) :
      LacksCounts metric attributes e
  | covered {e : ReportError} {value : List Char}
      (hmissed : valueOf? attributes "missed" = some value) (hvalue : IsCount value)
      (h : LacksCount metric attributes "covered" e) : LacksCounts metric attributes e

/-- The counters right below the innermost open element have to have counts: it is the root, or a
unit. -/
def Counted : Prop := names.length = 1 ∨ names.head? = some scope.element.toList

/-- A tag offends where some elements are open: it is a counter without a type, with a type that is
not known, or with the type of a metric and without counts where those have to be. -/
inductive Offends : Tag → ReportError → Prop where
  | missingType {attributes : List (List Char × List Char)} {isEmpty : Bool}
      (h : valueOf? attributes "type" = none) :
      Offends (.opening "counter".toList attributes isEmpty) .missingType
  | unknownType {attributes : List (List Char × List Char)} {isEmpty : Bool} {type : List Char}
      (h : valueOf? attributes "type" = some type) (hmetric : ∀ m : Metric, type ≠ m.tag.toList)
      (hinstruction : type ≠ "INSTRUCTION".toList) (hcomplexity : type ≠ "COMPLEXITY".toList) :
      Offends (.opening "counter".toList attributes isEmpty) (.unknownType (String.ofList type))
  | counts {attributes : List (List Char × List Char)} {isEmpty : Bool} {m : Metric}
      {e : ReportError} (h : valueOf? attributes "type" = some m.tag.toList)
      (hcounted : Counted scope names) (hcounts : LacksCounts m attributes e) :
      Offends (.opening "counter".toList attributes isEmpty) e

/-- A tag is a total where some elements are open: a counter of a metric right below the root. -/
def IsTotal (tag : Tag) : Prop :=
  ∃ attributes isEmpty, tag = .opening "counter".toList attributes isEmpty ∧ names.length = 1 ∧
    ∃ m : Metric, valueOf? attributes "type" = some m.tag.toList

/-- A counter is a total right below the root, if it has the type of a metric. -/
lemma isTotal_counter_iff {names : List (List Char)} {attributes : List (List Char × List Char)}
    {isEmpty : Bool} : IsTotal names (.opening "counter".toList attributes isEmpty) ↔
      names.length = 1 ∧ ∃ m : Metric, valueOf? attributes "type" = some m.tag.toList := by
  constructor
  · rintro ⟨_, _, ⟨⟩, h⟩
    exact h
  · intro h
    exact ⟨_, _, rfl, h⟩

end Fault

/-- Some tag has a property that the tags before it have a part in. -/
def SomeTag (P : List Tag → Tag → Prop) (tags : List Tag) : Prop :=
  ∃ before tag after, tags = before ++ tag :: after ∧ P before tag

/-- No tag offends. -/
def Sound (scope : UnitScope) (tags : List Tag) : Prop :=
  ¬SomeTag (fun before tag => ∃ e, tag.Offends scope (openElements before) e) tags

/-- A tag offends, and none before it. -/
def FirstOffends (scope : UnitScope) (tags : List Tag) (e : ReportError) : Prop :=
  SomeTag (fun before tag => Sound scope before ∧ tag.Offends scope (openElements before) e) tags

/-- There is a total among tags. -/
def HasTotal (tags : List Tag) : Prop :=
  SomeTag (fun before tag => tag.IsTotal (openElements before)) tags

lemma not_someTag_nil (P : List Tag → Tag → Prop) : ¬SomeTag P [] := by
  rintro ⟨before, tag, after, htags, -⟩
  simp at htags

/-- Of tags and one more, some tag has a property if one of the tags has it or the last one. -/
lemma someTag_concat {P : List Tag → Tag → Prop} {tags : List Tag} {last : Tag} :
    SomeTag P (tags ++ [last]) ↔ SomeTag P tags ∨ P tags last := by
  constructor
  · rintro ⟨before, tag, after, htags, h⟩
    cases after using List.reverseRecOn with
    | nil =>
        obtain ⟨rfl, hlast⟩ := List.append_inj' htags rfl
        cases hlast
        exact .inr h
    | append_singleton after last' =>
        rw [← List.cons_append, ← List.append_assoc] at htags
        exact .inl ⟨before, tag, after, (List.append_inj' htags rfl).1, h⟩
  · rintro (⟨before, tag, after, rfl, h⟩ | h)
    · exact ⟨before, tag, after ++ [last], by simp, h⟩
    · exact ⟨tags, last, [], rfl, h⟩

section Concat

variable {scope : UnitScope} {tags : List Tag} {last : Tag} {e : ReportError}

lemma sound_concat : Sound scope (tags ++ [last]) ↔
    Sound scope tags ∧ ∀ e, ¬last.Offends scope (openElements tags) e := by
  rw [Sound, someTag_concat, not_or, not_exists]
  rfl

lemma firstOffends_concat : FirstOffends scope (tags ++ [last]) e ↔
    FirstOffends scope tags e ∨ Sound scope tags ∧ last.Offends scope (openElements tags) e :=
  someTag_concat

lemma hasTotal_concat :
    HasTotal (tags ++ [last]) ↔ HasTotal tags ∨ last.IsTotal (openElements tags) :=
  someTag_concat

end Concat

/-- Where a tag offends, not all are sound. -/
lemma FirstOffends.not_sound {scope : UnitScope} {tags : List Tag} {e : ReportError}
    (h : FirstOffends scope tags e) : ¬Sound scope tags := by
  obtain ⟨before, tag, after, htags, -, hoffends⟩ := h
  exact fun hsound => hsound ⟨before, tag, after, htags, e, hoffends⟩

end Tag

open Tag

/-! ### Reading the attributes of a counter -/

section Read

variable {metric : Metric} {attributes : List (List Char × List Char)} {key : String}
  {e : ReportError}

/-- A value is read exactly if it is a count. -/
lemma isSome_natural?_iff {value : List Char} :
    (Text.natural? maxCount (Text.trim value)).isSome = true ↔ IsCount value := by
  have hmost (n : ℕ) : n ≤ maxCount ↔ n < 2 ^ 64 := by
    have hmax : maxCount = 2 ^ 64 - 1 := rfl
    omega
  simp only [Option.isSome_iff_exists, Text.natural?_eq_some_iff, hmost]
  constructor
  · rintro ⟨_, digits, hs, hne, hdigits, rfl, hlt⟩
    exact ⟨digits, hs, hne, hdigits, hlt⟩
  · rintro ⟨digits, hs, hne, hdigits, hlt⟩
    exact ⟨_, digits, hs, hne, hdigits, rfl, hlt⟩

lemma readCount_eq_error_iff :
    readCount metric attributes key = .error e ↔ LacksCount metric attributes key e := by
  unfold readCount
  constructor
  · intro h
    split at h
    · next hvalue =>
      cases h
      exact .missing hvalue
    · next value hvalue =>
      split at h
      · next hnone =>
        cases h
        exact .bad hvalue fun hcount => by simpa [hnone] using isSome_natural?_iff.2 hcount
      · cases h
  · intro h
    cases h with
    | missing h => simp only [h]
    | bad h hvalue =>
        rw [← isSome_natural?_iff, Option.not_isSome_iff_eq_none] at hvalue
        simp only [h, hvalue]

/-- A count that is read is there. -/
lemma exists_count_of_readCount {n : ℕ} (h : readCount metric attributes key = .ok n) :
    ∃ value, Tag.valueOf? attributes key = some value ∧ IsCount value := by
  unfold readCount at h
  split at h
  · cases h
  · next value hvalue =>
    split at h
    · cases h
    · next n hn => exact ⟨value, hvalue, isSome_natural?_iff.1 (by rw [hn]; rfl)⟩

lemma not_lacksCount_of_isCount {value : List Char} (h : Tag.valueOf? attributes key = some value)
    (hvalue : IsCount value) : ¬LacksCount metric attributes key e := by
  rintro (hmissing | ⟨hother, hbad⟩)
  · rw [h] at hmissing
    cases hmissing
  · rw [h, Option.some.injEq] at hother
    exact hbad (hother ▸ hvalue)

lemma readCounter_eq_error_iff :
    readCounter metric attributes = .error e ↔ LacksCounts metric attributes e := by
  unfold readCounter
  cases hmissed : readCount metric attributes "missed" with
  | error e' =>
      have hlacks := readCount_eq_error_iff.1 hmissed
      constructor
      · rintro ⟨⟩
        exact .missed hlacks
      · rintro (h | ⟨hvalue, hcount, -⟩)
        · exact congrArg Except.error (Except.error.inj
            (hmissed.symm.trans (readCount_eq_error_iff.2 h)))
        · exact absurd hlacks (not_lacksCount_of_isCount hvalue hcount)
  | ok missed =>
      obtain ⟨value, hvalue, hcount⟩ := exists_count_of_readCount hmissed
      have hcovered :
          LacksCounts metric attributes e ↔ LacksCount metric attributes "covered" e := by
        constructor
        · rintro (h | ⟨-, -, h⟩)
          · exact absurd h (not_lacksCount_of_isCount hvalue hcount)
          · exact h
        · exact .covered hvalue hcount
      rw [hcovered, ← readCount_eq_error_iff]
      cases readCount metric attributes "covered" <;> simp

/-- A metric is found by its name in reports and by no other. -/
lemma ofTag?_eq_some_iff {type : List Char} {m : Metric} :
    Metric.ofTag? (String.ofList type) = some m ↔ type = m.tag.toList := by
  constructor
  · intro h
    have htag : m.tag = String.ofList type := by simpa using List.find?_some h
    rw [htag, String.toList_ofList]
  · rintro rfl
    rw [String.ofList_toList, Metric.ofTag?_tag]

/-- A metric is read from its name in reports and from no other type. -/
lemma readMetric_eq_some_iff :
    readMetric attributes = .ok (some metric) ↔
      Tag.valueOf? attributes "type" = some metric.tag.toList := by
  unfold readMetric
  cases htype : Tag.valueOf? attributes "type" with
  | none => simp
  | some type =>
      dsimp only
      rw [Option.some.injEq, ← ofTag?_eq_some_iff]
      cases hmetric : Metric.ofTag? (String.ofList type) with
      | some m => simp
      | none => split_ifs <;> simp

/-- A type that is evaluated, or known and not evaluated, is read without an error. -/
lemma readMetric_eq_error_iff :
    readMetric attributes = .error e ↔
      (Tag.valueOf? attributes "type" = none ∧ e = .missingType) ∨
      ∃ type, Tag.valueOf? attributes "type" = some type ∧ (∀ m : Metric, type ≠ m.tag.toList) ∧
        type ≠ "INSTRUCTION".toList ∧ type ≠ "COMPLEXITY".toList ∧
        e = .unknownType (String.ofList type) := by
  unfold readMetric
  cases htype : Tag.valueOf? attributes "type" with
  | none => simp [eq_comm]
  | some type =>
      have hignored : ignoredCounterTypes.contains (String.ofList type) = true ↔
          type = "INSTRUCTION".toList ∨ type = "COMPLEXITY".toList := by
        simp [ignoredCounterTypes, ← String.toList_inj]
      dsimp only
      cases hmetric : Metric.ofTag? (String.ofList type) with
      | some m =>
          have htag := ofTag?_eq_some_iff.1 hmetric
          constructor
          · rintro ⟨⟩
          · rintro (⟨⟨⟩, -⟩ | ⟨_, ⟨⟩, hnone, -⟩)
            exact absurd htag (hnone m)
      | none =>
          have hunknown : ∀ m : Metric, type ≠ m.tag.toList := fun m htag => by
            rw [ofTag?_eq_some_iff.2 htag] at hmetric
            cases hmetric
          simp only [hignored]
          split_ifs with hknown
          · constructor
            · rintro ⟨⟩
            · rintro (⟨⟨⟩, -⟩ | ⟨_, ⟨⟩, -, hinstruction, hcomplexity, -⟩)
              exact (hknown.elim hinstruction hcomplexity).elim
          · obtain ⟨hinstruction, hcomplexity⟩ := not_or.1 hknown
            constructor
            · rintro ⟨⟩
              exact .inr ⟨type, rfl, hunknown, hinstruction, hcomplexity, rfl⟩
            · rintro (⟨⟨⟩, -⟩ | ⟨_, ⟨⟩, -, -, -, rfl⟩)
              rfl

end Read

/-! ### Tags one after the other -/

namespace Walk

/-- The names of the open elements, innermost first. -/
def names (w : Walk) : List (List Char) := w.stack.map OpenElement.element

section Step

variable {scope : UnitScope} {w w' : Walk} {tag : Tag} {e : ReportError}
  {attributes : List (List Char × List Char)}

/-- What is done with a value that is read changes no error, and needs the value. -/
lemma map_eq_error_iff {α β : Type} {f : α → β} {read : Except ReportError α} :
    read.map f = .error e ↔ read = .error e := by
  cases read <;> simp [Except.map]

lemma exists_of_map_eq_ok {α β : Type} {f : α → β} {read : Except ReportError α} {b : β}
    (h : read.map f = .ok b) : ∃ a, read = .ok a ∧ f a = b := by
  cases read with
  | error e => cases h
  | ok a => exact ⟨a, rfl, Except.ok.inj h⟩

lemma counted_names_iff :
    Counted scope w.names ↔
      w.stack.length = 1 ∨
        (w.stack.head?.any fun s => s.element == scope.element.toList) = true := by
  rw [Counted, names, List.length_map, List.head?_map]
  cases w.stack.head? <;> simp

/-- Recording a counter opens and closes nothing. -/
@[simp] lemma names_recordTotal (c : Counter) : (w.recordTotal c).names = w.names := rfl

@[simp] lemma names_recordUnit (c : Counter) : (w.recordUnit c).names = w.names := by
  unfold recordUnit
  split
  · rfl
  · next top outer hstack =>
    split
    · rfl
    · rw [names, names, hstack]
      rfl

/-- Only what is recorded right below the root makes a total. -/
@[simp] lemma totals_recordUnit (c : Counter) :
    (w.recordUnit c).report.totals = w.report.totals := by
  unfold recordUnit
  split
  · rfl
  · split <;> rfl

lemma totals_recordTotal_ne_nil (c : Counter) : (w.recordTotal c).report.totals ≠ [] := by
  show recordCounter c w.report.totals ≠ []
  cases w.report.totals with
  | nil => exact List.cons_ne_nil _ _
  | cons d ds =>
      rw [recordCounter]
      split_ifs <;> exact List.cons_ne_nil _ _

/-- Closing an element closes it among the names. -/
lemma names_close (element : List Char) (stack : List OpenElement) :
    (close element stack).map OpenElement.element =
      Tag.nest (stack.map OpenElement.element) (.closing element) := by
  have hdrop : (stack.map OpenElement.element).dropWhile (fun name => name != element) =
      (stack.dropWhile fun s => s.element != element).map OpenElement.element :=
    List.dropWhile_map ..
  rw [Tag.nest, hdrop, close]
  split
  · next hnil =>
    rw [if_neg]
    intro hmem
    obtain ⟨s, hs, hname⟩ := List.mem_map.1 hmem
    rw [List.dropWhile_eq_nil_iff] at hnil
    simpa [hname] using hnil s hs
  · next s outer hcons =>
    have hs : s ∈ stack :=
      (List.dropWhile_sublist _).subset (hcons ▸ List.mem_cons_self)
    have hname : s.element = element := by
      have hfirst := List.head?_dropWhile_not (fun s : OpenElement => s.element != element) stack
      rw [hcons] at hfirst
      simpa using hfirst
    rw [if_pos (List.mem_map.2 ⟨s, hs, hname⟩), hcons]
    rfl

/-- A counter offends by its type, or by its counts where they are counted. -/
lemma offends_counter_iff {names : List (List Char)} {isEmpty : Bool} :
    Tag.Offends scope names (.opening "counter".toList attributes isEmpty) e ↔
      readMetric attributes = .error e ∨ ∃ m, readMetric attributes = .ok (some m) ∧
        Counted scope names ∧ readCounter m attributes = .error e := by
  simp only [readMetric_eq_error_iff, readMetric_eq_some_iff, readCounter_eq_error_iff]
  constructor
  · rintro (h | ⟨h, hmetric, hinstruction, hcomplexity⟩ | ⟨h, hcounted, hcounts⟩)
    · exact .inl (.inl ⟨h, rfl⟩)
    · exact .inl (.inr ⟨_, h, hmetric, hinstruction, hcomplexity, rfl⟩)
    · exact .inr ⟨_, h, hcounted, hcounts⟩
  · rintro ((⟨h, rfl⟩ | ⟨type, h, hmetric, hinstruction, hcomplexity, rfl⟩) |
      ⟨m, h, hcounted, hcounts⟩)
    · exact .missingType h
    · exact .unknownType h hmetric hinstruction hcomplexity
    · exact .counts h hcounted hcounts

/-- **A counter is refused** exactly if its tag offends. -/
lemma count_eq_error_iff {isEmpty : Bool} :
    count scope attributes w = .error e ↔
      Tag.Offends scope w.names (.opening "counter".toList attributes isEmpty) e := by
  rw [offends_counter_iff, counted_names_iff, count]
  cases readMetric attributes with
  | error e' => simp
  | ok metric? =>
      cases metric? with
      | none => simp
      | some m =>
          simp only [reduceCtorEq, Except.ok.injEq, Option.some.injEq, exists_eq_left', false_or]
          split_ifs with hroot hunit
          · simp [hroot, map_eq_error_iff]
          · simp [hunit, map_eq_error_iff]
          · simp [hroot, hunit]

/-- A counter that is taken opens and closes nothing, and it is a total right below the root. -/
lemma of_count_eq_ok (h : count scope attributes w = .ok w') :
    w'.names = w.names ∧ (w'.report.totals ≠ [] ↔ w.report.totals ≠ [] ∨
      (w.names.length = 1 ∧ ∃ m : Metric, Tag.valueOf? attributes "type" = some m.tag.toList)) := by
  have hlength : w.names.length = w.stack.length := List.length_map ..
  simp only [hlength, ← readMetric_eq_some_iff]
  rw [count] at h
  cases hmetric : readMetric attributes with
  | error e => simp [hmetric] at h
  | ok metric? =>
      cases metric? with
      | none =>
          rw [hmetric, Except.ok.injEq] at h
          simp [h]
      | some m =>
          simp only [hmetric] at h
          split_ifs at h with hroot hunit
          · obtain ⟨c, -, rfl⟩ := exists_of_map_eq_ok h
            simp [totals_recordTotal_ne_nil, hroot]
          · obtain ⟨c, -, rfl⟩ := exists_of_map_eq_ok h
            simp [hroot]
          · cases h
            simp [hroot]

/-- Opening an element puts its name in front, unless its tag closes it as well. -/
lemma names_enter {element : List Char} {isEmpty : Bool} :
    (if isEmpty then w else w.push element attributes).names =
      Tag.nest w.names (.opening element attributes isEmpty) := by
  cases isEmpty <;> rfl

lemma totals_enter {element : List Char} {isEmpty : Bool} :
    (if isEmpty then w else w.push element attributes).report.totals = w.report.totals := by
  cases isEmpty <;> rfl

/-- **A tag is refused** exactly if it offends. -/
theorem step_eq_error_iff : step scope w tag = .error e ↔ tag.Offends scope w.names e := by
  cases tag with
  | closing element =>
      constructor <;> rintro ⟨⟩
  | opening element attributes isEmpty =>
      by_cases hcounter : element = "counter".toList
      · subst hcounter
        rw [step, if_pos rfl, map_eq_error_iff]
        exact count_eq_error_iff
      · rw [step, if_neg hcounter]
        constructor
        · rintro ⟨⟩
        · rintro (_ | _ | _) <;> exact absurd rfl hcounter

/-- **What a tag leaves** if it is not refused: the elements that it leaves open, and totals if
there were some or the tag is one. -/
theorem of_step_eq_ok (h : step scope w tag = .ok w') :
    w'.names = tag.nest w.names ∧
      (w'.report.totals ≠ [] ↔ w.report.totals ≠ [] ∨ tag.IsTotal w.names) := by
  cases tag with
  | closing element =>
      cases h
      exact ⟨names_close element w.stack, by simp [Tag.IsTotal]⟩
  | opening element attributes isEmpty =>
      by_cases hcounter : element = "counter".toList
      · subst hcounter
        rw [step, if_pos rfl] at h
        obtain ⟨w'', hcount, rfl⟩ := exists_of_map_eq_ok h
        obtain ⟨hnames, htotals⟩ := of_count_eq_ok hcount
        rw [names_enter, totals_enter, hnames, htotals, isTotal_counter_iff]
        exact ⟨rfl, Iff.rfl⟩
      · rw [step, if_neg hcounter, Except.ok.injEq] at h
        subst h
        have htotal : ¬(Tag.opening element attributes isEmpty).IsTotal w.names := by
          rintro ⟨_, _, ⟨⟩, -⟩
          exact hcounter rfl
        rw [names_enter, totals_enter]
        simp [htotal]

/-- **A run over tags**: it is refused by the first tag that offends. If none does, it goes through
and leaves the elements that the tags leave open, and totals if there are some among the tags. -/
theorem steps_start (scope : UnitScope) (tags : List Tag) :
    (∀ e, steps scope .start tags = .error e ↔ FirstOffends scope tags e) ∧
      ∀ w, steps scope .start tags = .ok w → Sound scope tags ∧ w.names = openElements tags ∧
        (w.report.totals ≠ [] ↔ HasTotal tags) := by
  induction tags using List.reverseRecOn with
  | nil =>
      refine ⟨fun e => ⟨by rintro ⟨⟩, fun h => absurd h (not_someTag_nil _)⟩, ?_⟩
      rintro _ ⟨⟩
      exact ⟨not_someTag_nil _, rfl, fun h => absurd rfl h, fun h => absurd h (not_someTag_nil _)⟩
  | append_singleton tags last ih =>
      obtain ⟨herror, hok⟩ := ih
      have hsteps (w : Walk) : steps scope w [last] = step scope w last := by
        rw [steps]
        cases step scope w last <;> rfl
      rw [steps_append, openElements_concat, sound_concat, hasTotal_concat]
      simp only [firstOffends_concat]
      cases hrun : steps scope .start tags with
      | error e =>
          have hbad := ((herror e).1 hrun).not_sound
          refine ⟨fun e' => ?_, by rintro _ ⟨⟩⟩
          rw [← herror e', hrun, or_iff_left fun h => hbad h.1]
          rfl
      | ok w =>
          obtain ⟨hsound, hnames, htotals⟩ := hok w hrun
          simp only [Except.bind, hsteps, ← hnames]
          refine ⟨fun e => ?_, fun w' hlast => ?_⟩
          · rw [step_eq_error_iff, or_iff_right fun h => h.not_sound hsound, and_iff_right hsound]
          · have hnone : ∀ e, ¬last.Offends scope w.names e := fun e hoffends => by
              rw [step_eq_error_iff.2 hoffends] at hlast
              cases hlast
            obtain ⟨hnest, htotals'⟩ := of_step_eq_ok hlast
            rw [htotals', htotals]
            exact ⟨⟨hsound, hnone⟩, hnest, Iff.rfl⟩

/-- A closing tag without an open element of its name changes nothing. -/
lemma step_closing_of_not_mem {element : List Char} (h : element ∉ w.names) :
    step scope w (.closing element) = .ok w := by
  have hnone : ∀ s ∈ w.stack, (s.element != element) = true := fun s hs => by
    rw [bne_iff_ne]
    rintro rfl
    exact h (List.mem_map_of_mem hs)
  have hclose : close element w.stack = w.stack := by
    rw [close, List.dropWhile_eq_nil_iff.2 hnone]
  rw [step_closing, hclose]

/-- A stray closing tag changes nothing. -/
lemma steps_stray {before : List Tag} {element : List Char} (h : element ∉ openElements before)
    (after : List Tag) :
    steps scope .start (before ++ .closing element :: after) =
      steps scope .start (before ++ after) := by
  rw [steps_append, steps_append]
  cases hrun : steps scope .start before with
  | error e => rfl
  | ok w =>
      obtain ⟨-, hnames, -⟩ := (steps_start scope before).2 w hrun
      simp only [Except.bind, steps]
      rw [step_closing_of_not_mem (hnames ▸ h)]

end Step

end Walk

/-! ### Reports -/

section Report

variable {scope : UnitScope} {tags : List Tag} {e : ReportError}

/-- Tags hold no report if one of them offends, or if they have no total. -/
lemma ofTags_eq_error_iff :
    CoverageReport.ofTags scope tags = .error e ↔
      FirstOffends scope tags e ∨ e = .noTotals ∧ Sound scope tags ∧ ¬HasTotal tags := by
  obtain ⟨herror, hok⟩ := Walk.steps_start scope tags
  unfold CoverageReport.ofTags
  split
  · next e' hrun =>
    have hbad := ((herror e').1 hrun).not_sound
    rw [or_iff_left fun h => hbad h.2.1, ← herror e, hrun, Except.error.injEq, Except.error.injEq]
  · next w hrun =>
    obtain ⟨hsound, -, htotals⟩ := hok w hrun
    rw [or_iff_right fun h => h.not_sound hsound, ← htotals]
    split_ifs with hnone
    · simp [List.isEmpty_iff.1 hnone, hsound, eq_comm]
    · rw [List.isEmpty_iff] at hnone
      simp [hnone]

/-- Unless all tags are sound there is a first one that offends. -/
lemma not_sound_iff : ¬Sound scope tags ↔ ∃ e, FirstOffends scope tags e := by
  constructor
  · intro hbad
    obtain ⟨herror, hok⟩ := Walk.steps_start scope tags
    cases hrun : Walk.steps scope .start tags with
    | error e => exact ⟨e, (herror e).1 hrun⟩
    | ok w => exact absurd (hok w hrun).1 hbad
  · rintro ⟨e, h⟩
    exact h.not_sound

end Report

/-- **What makes a text no report.** The error of a text is about the format of a report. It is the
one of the first tag that offends; and if no tag offends, it is that there are no totals, when there
is no total among the tags. So a text is no report exactly if a tag offends or there is no total.
Counters of metrics elsewhere than right below the root or a unit never offend, whatever their
counts, and closing tags without an open element of their name could as well be left out. -/
theorem CoverageReport.ofText_eq_error_iff (scope : UnitScope) (text : List Char) :
    let tags := Tag.tags (Tag.withoutComments text)
    let read := (ofText scope text).mapError GateError.reportFormat
    (∀ error, read = .error error ↔ ∃ e, error = .reportFormat e ∧
      (FirstOffends scope tags e ∨ e = .noTotals ∧ Sound scope tags ∧ ¬HasTotal tags)) ∧
    ((∃ error, read = .error error) ↔
      ¬Sound scope tags ∨ (Sound scope tags ∧ ¬HasTotal tags)) ∧
    (∀ names attributes isEmpty, ∀ m : Metric,
      Tag.valueOf? attributes "type" = some m.tag.toList → ¬Counted scope names →
        ∀ e, ¬Tag.Offends scope names (.opening "counter".toList attributes isEmpty) e) ∧
    ∀ before element after, tags = before ++ .closing element :: after →
      element ∉ openElements before → ofText scope text = ofTags scope (before ++ after) := by
  intro tags read
  have hread (error : GateError) : read = .error error ↔
      ∃ e, error = .reportFormat e ∧ ofTags scope tags = .error e := by
    show (ofTags scope tags).mapError GateError.reportFormat = .error error ↔ _
    cases ofTags scope tags <;> simp [Except.mapError, eq_comm]
  simp only [ofTags_eq_error_iff] at hread
  refine ⟨hread, ?_, ?_, ?_⟩
  · simp only [hread, not_sound_iff]
    constructor
    · rintro ⟨_, e, -, hfirst | ⟨-, hnone⟩⟩
      · exact .inl ⟨e, hfirst⟩
      · exact .inr hnone
    · rintro (⟨e, hfirst⟩ | hnone)
      · exact ⟨_, e, rfl, .inl hfirst⟩
      · exact ⟨_, _, rfl, .inr ⟨rfl, hnone⟩⟩
  · rintro names attributes isEmpty m htype hcounted e (h | ⟨h, hmetric, -, -⟩ | ⟨-, h, -⟩)
    · rw [htype] at h
      cases h
    · rw [htype, Option.some.injEq] at h
      exact hmetric m h.symm
    · exact hcounted h
  · intro before element after htags hstray
    show ofTags scope tags = _
    rw [htags, ofTags, ofTags, Walk.steps_stray hstray]

end QualityGate
