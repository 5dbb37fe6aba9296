import QualityGate.Text.Numeral
import Mathlib.Data.Nat.Digits.Defs
import Mathlib.Tactic

/-!
What decimal numerals stand for. A numeral is a row of digits that is not empty, and its value is
the one that its digits have in base ten, the last digit being the lowest.

* `decimal`: the value of digits.
* `valueFrom?_eq_some_iff`: what digits after others are read as.
* `natural?_eq_some_iff`: **a number that is read** is the value of digits, up to the bound, and a
  plus sign in front of them makes no difference.
* `toList_toString`, `isDigit_of_mem_toString`: a number is written as a row of digits.
-/

namespace QualityGate.Text

/-- The decimal digits. -/
def IsDigit (c : Char) : Prop := '0' ≤ c ∧ c ≤ '9'

instance (c : Char) : Decidable (IsDigit c) := inferInstanceAs (Decidable ('0' ≤ c ∧ c ≤ '9'))

lemma digitValue?_eq_some_iff {c : Char} {d : ℕ} :
    digitValue? c = some d ↔ IsDigit c ∧ d = c.toNat - '0'.toNat := by
  rw [digitValue?, Option.ite_none_right_eq_some, Option.some.injEq, eq_comm (a := d)]
  rfl

/-- The value of digits in base ten. -/
def decimal (digits : List Char) : ℕ :=
  Nat.ofDigits 10 (digits.reverse.map fun c => c.toNat - '0'.toNat)

/-- A digit in front of others counts as often as its place says. -/
lemma decimal_cons (c : Char) (digits : List Char) :
    decimal (c :: digits) = (c.toNat - '0'.toNat) * 10 ^ digits.length + decimal digits := by
  simp [decimal, Nat.ofDigits_append, Nat.mul_comm, Nat.add_comm]

/-- Digits are read as their value, after what was read before. -/
lemma valueFrom?_eq_some_iff {before n : ℕ} {digits : List Char} :
    valueFrom? before digits = some n ↔
      (∀ c ∈ digits, IsDigit c) ∧ n = before * 10 ^ digits.length + decimal digits := by
  induction digits generalizing before with
  | nil => simp [valueFrom?, decimal, eq_comm]
  | cons c digits ih =>
      have hvalue : (before * 10 + (c.toNat - '0'.toNat)) * 10 ^ digits.length + decimal digits =
          before * 10 ^ (c :: digits).length + decimal (c :: digits) := by
        rw [decimal_cons, List.length_cons]
        ring
      rw [valueFrom?, Option.bind_eq_some_iff, List.forall_mem_cons, ← hvalue]
      simp only [digitValue?_eq_some_iff, ih]
      constructor
      · rintro ⟨_, ⟨hc, rfl⟩, hdigits, hn⟩
        exact ⟨⟨hc, hdigits⟩, hn⟩
      · rintro ⟨⟨hc, hdigits⟩, hn⟩
        exact ⟨_, ⟨hc, rfl⟩, hdigits, hn⟩

/-- **A number that is read** is the value of digits, possibly after a plus sign. -/
theorem natural?_eq_some_iff {most n : ℕ} {s : List Char} :
    natural? most s = some n ↔
      ∃ digits, (s = digits ∨ s = '+' :: digits) ∧ digits ≠ [] ∧ (∀ c ∈ digits, IsDigit c) ∧
        n = decimal digits ∧ n ≤ most := by
  have hdigits (digits : List Char) : ((value? digits).filter (· ≤ most)) = some n ↔
      digits ≠ [] ∧ (∀ c ∈ digits, IsDigit c) ∧ n = decimal digits ∧ n ≤ most := by
    rw [Option.filter_eq_some_iff, value?]
    cases digits with
    | nil => simp
    | cons c digits =>
        rw [List.isEmpty_cons, if_neg Bool.false_ne_true, valueFrom?_eq_some_iff]
        simp [and_assoc]
  have hplus : ¬IsDigit '+' := by decide
  unfold natural?
  split
  · next rest =>
    rw [hdigits]
    constructor
    · intro h
      exact ⟨rest, .inr rfl, h⟩
    · rintro ⟨digits, rfl | hrest, h⟩
      · exact absurd (h.2.1 '+' List.mem_cons_self) hplus
      · rw [(List.cons.inj hrest).2]
        exact h
  · next hnot =>
    rw [hdigits]
    constructor
    · intro h
      exact ⟨s, .inl rfl, h⟩
    · rintro ⟨digits, rfl | rfl, h⟩
      · exact h
      · exact absurd rfl (hnot digits)

/-! ### Numbers as they are written -/

/-- A number is written with its digits in base ten. -/
lemma toList_toString (n : ℕ) : (toString n).toList = Nat.toDigits 10 n := by
  rw [Nat.toString_eq_ofList_toDigits, String.toList_ofList]

/-- The text of a number has digits and nothing else. -/
lemma isDigit_of_mem_toString {n : ℕ} {c : Char} (hc : c ∈ (toString n).toList) :
    c.isDigit = true := by
  rw [toList_toString] at hc
  exact Nat.isDigit_of_mem_toDigits (by decide) (by decide) hc

/-- The text of a number is not empty. -/
lemma toList_toString_ne_nil (n : ℕ) : (toString n).toList ≠ [] := by
  rw [toList_toString]
  exact Nat.toDigits_ne_nil

end QualityGate.Text
