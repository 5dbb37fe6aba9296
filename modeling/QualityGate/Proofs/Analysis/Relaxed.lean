import QualityGate.Analysis
import QualityGate.Proofs.Documentation.Budget
import Mathlib.Tactic

/-!
Checks that ask for less. An analysis relaxes another one when its limits and budgets are at least
as large, it wants the documentation of no further visibility, and it bans no further call. Its
settings for remarks can be any: remarks never fail the gate.

* `Violation.StandsFor`, `CoveredBy`: findings on the same line by the same rule, whatever they say.
* `LineRule.Relaxes`, `Analysis.Relaxes`: to ask for no more than another rule or analysis.
* `Analysis.violations_coveredBy`: **whatever a relaxed analysis finds** beside remarks, the other
  one finds too.
-/

namespace QualityGate

/-- A violation stands for another one: the same rule, on the same line of the same file, with the
same severity. What it says may differ. -/
structure Violation.StandsFor (v w : Violation) : Prop where
  path : v.path = w.path
  line : v.line = w.line
  rule : v.rule = w.rule
  severity : v.severity = w.severity

/-- A violation stands for itself. -/
@[refl]
lemma Violation.StandsFor.refl (v : Violation) : v.StandsFor v := ⟨rfl, rfl, rfl, rfl⟩

/-- Every violation of the first list is a remark, or one of the second list stands for it. -/
def CoveredBy (ws vs : List Violation) : Prop :=
  ∀ w ∈ ws, w.severity ≠ .info → ∃ v ∈ vs, v.StandsFor w

namespace CoveredBy

variable {ws ws' vs vs' : List Violation}

/-- Lists that are covered part by part are covered. -/
lemma append (h : CoveredBy ws vs) (h' : CoveredBy ws' vs') :
    CoveredBy (ws ++ ws') (vs ++ vs') := by
  intro w hw hinfo
  rcases List.mem_append.1 hw with hw | hw
  · obtain ⟨v, hv, hvw⟩ := h w hw hinfo
    exact ⟨v, List.mem_append_left _ hv, hvw⟩
  · obtain ⟨v, hv, hvw⟩ := h' w hw hinfo
    exact ⟨v, List.mem_append_right _ hv, hvw⟩

/-- The order of the lists does not matter. -/
lemma perm (h : CoveredBy ws vs) (hw : ws'.Perm ws) (hv : vs'.Perm vs) : CoveredBy ws' vs' := by
  intro w hmem hinfo
  obtain ⟨v, hmem', hvw⟩ := h w (hw.mem_iff.1 hmem) hinfo
  exact ⟨v, hv.mem_iff.2 hmem', hvw⟩

/-- Lists that are covered file by file are covered. -/
lemma flatMap {α : Type} {f g : α → List Violation} {xs : List α}
    (h : ∀ x ∈ xs, CoveredBy (f x) (g x)) : CoveredBy (xs.flatMap f) (xs.flatMap g) := by
  intro w hw hinfo
  obtain ⟨x, hx, hwx⟩ := List.mem_flatMap.1 hw
  obtain ⟨v, hv, hvw⟩ := h x hx w hwx hinfo
  exact ⟨v, List.mem_flatMap.2 ⟨x, hx, hv⟩, hvw⟩

end CoveredBy

/-! ### Methods and documentation -/

/-- A method over the larger limit is over the smaller one. -/
lemma longMethods_coveredBy (path : Path) {limit limit' : ℕ} (h : limit ≤ limit')
    (ls : List LexedLine) :
    CoveredBy (longMethods path limit' ls) (longMethods path limit ls) := by
  intro w hw _
  obtain ⟨m, hm, rfl⟩ := List.mem_map.1 hw
  obtain ⟨hspan, hover⟩ := List.mem_filter.1 hm
  have hover' : limit < m.lineCount := h.trans_lt (of_decide_eq_true hover)
  exact ⟨longMethod path limit m,
    List.mem_map_of_mem (List.mem_filter.2 ⟨hspan, decide_eq_true hover'⟩), ⟨rfl, rfl, rfl, rfl⟩⟩

/-- A declaration of one of fewer visibilities is one of more visibilities. -/
lemma requiredDeclaration?_of_subset {visibilities visibilities' : List Visibility}
    (h : visibilities' ⊆ visibilities) {l : LexedLine} {d : Declaration}
    (hd : requiredDeclaration? visibilities' l = some d) :
    requiredDeclaration? visibilities l = some d := by
  unfold requiredDeclaration? at hd ⊢
  split at hd
  · cases hd
  · next hline =>
    rw [if_neg hline]
    obtain ⟨hdecl, hmem⟩ := Option.filter_eq_some_iff.1 hd
    exact Option.filter_eq_some_iff.2
      ⟨hdecl, List.contains_iff_mem.2 (h (List.contains_iff_mem.1 hmem))⟩

/-- Documentation that is missing within larger budgets is missing within smaller ones. -/
lemma missingDocsFrom_subset (path : Path) {window window' cap cap' : ℕ}
    (hwindow : window ≤ window') (hcap : cap ≤ cap') {visibilities visibilities' : List Visibility}
    (hvisibilities : visibilities' ⊆ visibilities) (above ls : List LexedLine) :
    missingDocsFrom path window' cap' visibilities' above ls ⊆
      missingDocsFrom path window cap visibilities above ls := by
  induction ls generalizing above with
  | nil => exact List.Subset.refl _
  | cons l ls ih =>
      -- whatever the line below reports, it stays reported
      have hrest : missingDocsFrom path window' cap' visibilities' (l :: above) ls ⊆
          missingDocsFrom path window cap visibilities above (l :: ls) := by
        refine List.Subset.trans (ih (l :: above)) ?_
        rw [missingDocsFrom]
        split
        · exact List.Subset.refl _
        · split
          · exact List.Subset.refl _
          · exact List.subset_cons_self _ _
      rw [missingDocsFrom]
      split
      · exact hrest
      · next d hd =>
        split
        · exact hrest
        · next hundocumented =>
          refine List.cons_subset.2 ⟨?_, hrest⟩
          have hd' := requiredDeclaration?_of_subset hvisibilities hd
          have hundocumented' : ¬ documentedBy window cap above = true :=
            fun h => hundocumented (documentedBy_mono hwindow hcap h)
          rw [missingDocsFrom]
          simp only [hd', if_neg hundocumented']
          exact List.mem_cons_self

/-! ### Line rules -/

/-- A rule asks for no more than another one of its kind. Rules that only give remarks ask for
nothing. -/
inductive LineRule.Relaxes : LineRule → LineRule → Prop where
  | bannedCall {expressions expressions' : List Regex} (h : expressions' ⊆ expressions)
      (facility facility' : String) :
      Relaxes (.bannedCall expressions' facility') (.bannedCall expressions facility)
  | hardcodedLiteral : Relaxes .hardcodedLiteral .hardcodedLiteral
  | longLine {limit limit' : ℕ} (h : limit ≤ limit') : Relaxes (.longLine limit') (.longLine limit)
  | blankRun (limit limit' : ℕ) : Relaxes (.blankRun limit') (.blankRun limit)
  | wildcardImport : Relaxes .wildcardImport .wildcardImport
  | indent (disallowed disallowed' : IndentChar) :
      Relaxes (.indent disallowed') (.indent disallowed)

/-- A call that one of fewer expressions finds is found by one of more expressions. -/
lemma bannedCall?_of_subset {expressions expressions' : List Regex}
    (h : expressions' ⊆ expressions) (facility facility' : String) {ctx : LineContext}
    {w : Violation} (hw : bannedCall? expressions' facility' ctx = some w) :
    ∃ v, bannedCall? expressions facility ctx = some v ∧ v.StandsFor w := by
  obtain ⟨matched', hmatched', rfl⟩ := Option.map_eq_some_iff.1 hw
  obtain ⟨r, hr, hfound⟩ := List.exists_of_findSome?_eq_some hmatched'
  have hsome : (expressions.findSome? fun r => r.find? ctx.line.code).isSome = true :=
    List.findSome?_isSome_iff.2 ⟨r, h hr, by rw [hfound]; rfl⟩
  obtain ⟨matched, hmatched⟩ := Option.isSome_iff_exists.1 hsome
  have hv : bannedCall? expressions facility ctx = some _ :=
    Option.map_eq_some_iff.2 ⟨matched, hmatched, rfl⟩
  exact ⟨_, hv, ⟨rfl, rfl, rfl, rfl⟩⟩

/-- What a relaxed rule finds on a line is a remark, or the other rule finds it too. -/
lemma LineRule.Relaxes.inspect? {r r' : LineRule} (h : r'.Relaxes r) {ctx : LineContext}
    {w : Violation} (hw : r'.inspect? ctx = some w) (hinfo : w.severity ≠ .info) :
    ∃ v, r.inspect? ctx = some v ∧ v.StandsFor w := by
  cases h with
  | bannedCall hsub facility facility' => exact bannedCall?_of_subset hsub facility facility' hw
  | hardcodedLiteral | wildcardImport => exact ⟨w, hw, .refl w⟩
  | longLine hlimit =>
      simp only [LineRule.inspect?, longLine?] at hw ⊢
      split at hw
      · next hlong =>
        cases hw
        exact ⟨_, if_pos (hlimit.trans_lt hlong), ⟨rfl, rfl, rfl, rfl⟩⟩
      · cases hw
  | blankRun limit limit' =>
      simp only [LineRule.inspect?, blankRun?] at hw
      split at hw <;> cases hw
      exact absurd rfl hinfo
  | indent disallowed disallowed' =>
      simp only [LineRule.inspect?, indent?] at hw
      split at hw
      · cases hw
      · split at hw <;> cases hw
        exact absurd rfl hinfo

/-- What relaxed rules find on a line is covered by what the other rules find on it. -/
lemma filterMap_inspect?_coveredBy {rules rules' : List LineRule}
    (h : List.Forall₂ LineRule.Relaxes rules' rules) (ctx : LineContext) :
    CoveredBy (rules'.filterMap fun r => r.inspect? ctx)
      (rules.filterMap fun r => r.inspect? ctx) := by
  intro w hw hinfo
  obtain ⟨r', hr', hw⟩ := List.mem_filterMap.1 hw
  obtain ⟨i, hi, rfl⟩ := List.mem_iff_getElem.1 hr'
  have hi' : i < rules.length := h.length_eq ▸ hi
  have hrelaxes : rules'[i].Relaxes rules[i] := h.get hi hi'
  obtain ⟨v, hv, hvw⟩ := hrelaxes.inspect? hw hinfo
  exact ⟨v, List.mem_filterMap.2 ⟨rules[i], List.getElem_mem hi', hv⟩, hvw⟩

/-- What relaxed rules find on lines is covered by what the other rules find on them. -/
lemma ruleViolationsFrom_coveredBy (path : Path) {rules rules' : List LineRule}
    (h : List.Forall₂ LineRule.Relaxes rules' rules) (blanks : ℕ) (ls : List LexedLine) :
    CoveredBy (ruleViolationsFrom path rules' blanks ls)
      (ruleViolationsFrom path rules blanks ls) := by
  induction ls generalizing blanks with
  | nil => intro w hw; cases hw
  | cons l ls ih => exact (filterMap_inspect?_coveredBy h _).append (ih _)

/-! ### All checks -/

namespace Analysis

/-- An analysis asks for no more than another one. -/
structure Relaxes (a' a : Analysis) : Prop where
  methodLimit : a.methodLimit ≤ a'.methodLimit
  window : a.docs.window ≤ a'.docs.window
  cap : a.docs.cap ≤ a'.docs.cap
  visibilities : a'.docs.visibilities ⊆ a.docs.visibilities
  rules : List.Forall₂ LineRule.Relaxes a'.rules a.rules

/-- **Whatever a relaxed analysis finds** in a source text is a remark, or the other analysis finds
it too. -/
theorem violations_coveredBy {a a' : Analysis} (h : a'.Relaxes a) (path : Path)
    (text : List Char) : CoveredBy (a'.violations path text) (a.violations path text) := by
  have hdocs : CoveredBy
      (missingDocs path a'.docs.window a'.docs.cap a'.docs.visibilities (lex text))
      (missingDocs path a.docs.window a.docs.cap a.docs.visibilities (lex text)) :=
    fun w hw _ => ⟨w, missingDocsFrom_subset path h.window h.cap h.visibilities [] _ hw, .refl w⟩
  have hfound : CoveredBy (a'.found path (lex text)) (a.found path (lex text)) :=
    ((longMethods_coveredBy path h.methodLimit _).append hdocs).append
      (ruleViolationsFrom_coveredBy path h.rules 0 _)
  exact hfound.perm (a'.violations_perm path text) (a.violations_perm path text)

end Analysis

end QualityGate
