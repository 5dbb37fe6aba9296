/-!
Reading a list of texts. Each text stands for a value, or for nothing, and the first one that stands
for nothing is reported.

* `readEach_eq`: the values of all texts, or the first text that stands for nothing.
* `exists_readEach_iff`: all texts are read exactly if each of them stands for a value.
* `mem_readEach`: the values that are read are those that the texts stand for.
-/

namespace QualityGate.Text

variable {α : Type} {read? : List Char → Option α} {ts : List String}

/-- The values that texts stand for, or else the first text that stands for none. -/
def readEach (read? : List Char → Option α) : List String → Except String (List α)
  | [] => .ok []
  | t :: ts =>
    match read? t.toList with
    | none => .error t
    | some a => (readEach read? ts).map (a :: ·)

/-- The values of all texts, or the first text that stands for nothing. -/
theorem readEach_eq (read? : List Char → Option α) (ts : List String) :
    readEach read? ts =
      match ts.find? fun t => (read? t.toList).isNone with
      | some t => .error t
      | none => .ok (ts.filterMap fun t => read? t.toList) := by
  induction ts with
  | nil => rfl
  | cons t ts ih =>
    rw [readEach, List.find?_cons, List.filterMap_cons]
    cases read? t.toList with
    | none => rfl
    | some a =>
      simp only [Option.isNone_some, ih]
      cases ts.find? fun t => (read? t.toList).isNone <;> rfl

/-- All texts are read exactly if each of them stands for a value. -/
theorem exists_readEach_iff :
    (∃ as, readEach read? ts = .ok as) ↔ ∀ t ∈ ts, (read? t.toList).isSome = true := by
  rw [readEach_eq]
  cases h : ts.find? fun t => (read? t.toList).isNone with
  | none => simpa [List.find?_eq_none, Option.isSome_iff_ne_none] using h
  | some t =>
    have hmem := List.mem_of_find?_eq_some h
    have hnone := List.find?_some h
    simp only [reduceCtorEq, exists_const, false_iff]
    intro hall
    have hsome := hall t hmem
    simp_all

/-- The values that are read are those that the texts stand for. -/
theorem mem_readEach {as : List α} (h : readEach read? ts = .ok as) {a : α} :
    a ∈ as ↔ ∃ t ∈ ts, read? t.toList = some a := by
  rw [readEach_eq] at h
  split at h
  · cases h
  · cases h
    exact List.mem_filterMap

end QualityGate.Text
