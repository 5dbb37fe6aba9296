import QualityGate.Path.Basic
import QualityGate.Proofs.Text.Split
import Mathlib.Tactic

/-!
What the spelling of a path keeps and what it hides. A path has the same components as another one
exactly if both begin in the same way, at the root, with a dot or with neither, and take the same
steps after that; slashes and further dots do not count.

* `front`, `steps`, `components_eq`: the components of a path are how it begins and its steps.
* `Climbs`: a path goes up somewhere.
* `exists_parts_join`: the parts of a path below another one.
* `front_join`, `steps_join`, `climbs_join`: what a path below another one takes over from it.
-/

namespace QualityGate.Path

/-- How a path begins: at the root, with a dot, or with neither. -/
def front (p : Path) : List Component :=
  if p.isAbsolute then [.root] else if p.parts.head? = some ['.'] then [.here] else []

/-- The steps of a path, each of them a name or two dots. -/
def steps (p : Path) : List (List Char) := p.parts.filter fun part => !isSilentPart part

/-- The path goes up somewhere. -/
def Climbs (p : Path) : Prop := ['.', '.'] ∈ p.parts

instance (p : Path) : Decidable p.Climbs := inferInstanceAs (Decidable (_ ∈ p.parts))

variable {p dir child : Path}

lemma parts_ne_nil (p : Path) : p.parts ≠ [] := Text.splitAt_ne_nil _ _

/-- A path starts at the root if there is nothing before its first slash. -/
lemma isAbsolute_iff (p : Path) :
    p.isAbsolute = true ↔ ∃ rest, p.parts = [] :: rest ∧ rest ≠ [] := by
  rw [isAbsolute, parts]
  cases htext : p.text.toList with
  | nil => simp [Text.splitAt]
  | cons c s =>
      by_cases hc : c = '/'
      · subst hc
        simp [Text.splitAt, Text.splitAt_ne_nil, List.isPrefixOf]
      · obtain ⟨q, qs, hs⟩ := List.exists_cons_of_ne_nil (Text.splitAt_ne_nil '/' s)
        simp [Text.splitAt, hc, hs, List.isPrefixOf, Ne.symm hc]

/-- **The components of a path** are how it begins and its steps. -/
theorem components_eq (p : Path) : p.components = p.front ++ p.steps.map Component.ofPart := by
  have habsolute := p.isAbsolute_iff
  rw [components, front, steps]
  obtain ⟨first, rest, hparts⟩ := List.exists_cons_of_ne_nil p.parts_ne_nil
  rw [hparts] at habsolute ⊢
  by_cases hnil : first = []
  · subst hnil
    by_cases hrest : rest = []
    · have hrelative : p.isAbsolute = false := by simpa [hrest] using habsolute
      simp [componentsOfParts, hrest, hrelative, isSilentPart]
    · have hroot : p.isAbsolute = true := habsolute.2 ⟨rest, rfl, hrest⟩
      simp [componentsOfParts, hrest, hroot, isSilentPart]
  · have hrelative : p.isAbsolute = false := by simpa [hnil] using habsolute
    by_cases hdot : first = ['.']
    · simp [componentsOfParts, hdot, hrelative, isSilentPart]
    · simp [componentsOfParts, hdot, hnil, hrelative, isSilentPart]

/-- Different parts of paths are different components. -/
lemma Component.ofPart_injective {part part' : List Char}
    (h : Component.ofPart part = Component.ofPart part') : part = part' := by
  unfold ofPart at h
  split_ifs at h with hup hup' hup'
  · rw [hup, hup']
  · exact Component.name.inj h

/-- A path starts at the root exactly if another one that begins in the same way does. -/
lemma isAbsolute_of_front {q : Path} (h : p.front = q.front) : p.isAbsolute = q.isAbsolute := by
  unfold front at h
  split_ifs at h <;> simp_all

/-! ### Paths below a path -/

/-- The parts of a path below another one: of a slash at the end of that one nothing is left. -/
lemma exists_parts_join (hdir : dir.text.isEmpty = false) (hchild : child.isAbsolute = false) :
    ∃ above, above ≠ [] ∧ (dir.parts = above ∨ dir.parts = above ++ [[]]) ∧
      (dir.join child).parts = above ++ child.parts := by
  rw [join, hchild, hdir]
  by_cases hslash : ['/'].isSuffixOf dir.text.toList = true
  · obtain ⟨s, hs⟩ := List.isSuffixOf_iff_suffix.1 hslash
    refine ⟨Text.splitAt '/' s, Text.splitAt_ne_nil _ _, .inr ?_, ?_⟩
    · rw [parts, ← hs, Text.splitAt_append]
      rfl
    · rw [if_neg (by simp), if_pos hslash, parts, String.toList_append, ← hs, List.append_assoc]
      exact Text.splitAt_append s child.text.toList
  · refine ⟨dir.parts, dir.parts_ne_nil, .inl rfl, ?_⟩
    rw [if_neg (by simp), if_neg hslash, parts, String.toList_append, String.toList_append,
      List.append_assoc]
    exact Text.splitAt_append dir.text.toList child.text.toList

section Join

variable (hdir : dir.text.isEmpty = false) (hchild : child.isAbsolute = false)

include hdir hchild

/-- A path below another one begins as that one does. -/
lemma front_join : (dir.join child).front = dir.front := by
  obtain ⟨above, hne, hparts, hjoin⟩ := exists_parts_join hdir hchild
  obtain ⟨first, rest, rfl⟩ := List.exists_cons_of_ne_nil hne
  have hhead : (dir.join child).parts.head? = dir.parts.head? := by
    rcases hparts with hparts | hparts <;> rw [hparts, hjoin] <;> rfl
  have habsolute : (dir.join child).isAbsolute = dir.isAbsolute := by
    have hne : dir.text.toList ≠ [] := by simpa using hdir
    obtain ⟨c, s, hs⟩ := List.exists_cons_of_ne_nil hne
    rw [isAbsolute, isAbsolute, join, hchild, hdir]
    split_ifs <;> simp_all [List.isPrefixOf]
  rw [front, front, hhead, habsolute]

/-- It takes the steps of that one and then its own. -/
lemma steps_join : (dir.join child).steps = dir.steps ++ child.steps := by
  obtain ⟨above, -, hparts, hjoin⟩ := exists_parts_join hdir hchild
  rw [steps, steps, steps, hjoin, List.filter_append]
  rcases hparts with hparts | hparts
  · rw [hparts]
  · rw [hparts, List.filter_append]
    simp [isSilentPart]

/-- It goes up if that one does or it does so itself. -/
lemma climbs_join : (dir.join child).Climbs ↔ dir.Climbs ∨ child.Climbs := by
  obtain ⟨above, -, hparts, hjoin⟩ := exists_parts_join hdir hchild
  rw [Climbs, Climbs, Climbs, hjoin, List.mem_append]
  rcases hparts with hparts | hparts
  · rw [hparts]
  · rw [hparts, List.mem_append]
    simp

end Join

end QualityGate.Path
