/-!
Decimal numerals. A numeral is a sign and digits; its value is bounded by the type it is read for.

* `valueFrom?_append`: reading digits after digits goes on from their value.
* `natural?_le`: a number that is read is within its bound.
-/

namespace QualityGate.Text

/-- The value of an ASCII digit. -/
def digitValue? (c : Char) : Option Nat :=
  if '0' ≤ c ∧ c ≤ '9' then some (c.toNat - '0'.toNat) else none

/-- The value of digits that follow digits of a given value. -/
def valueFrom? (before : Nat) : List Char → Option Nat
  | [] => some before
  | c :: rest => (digitValue? c).bind fun d => valueFrom? (before * 10 + d) rest

/-- The value of digits, of which there has to be one. -/
def value? (digits : List Char) : Option Nat :=
  if digits.isEmpty then none else valueFrom? 0 digits

/-- A number up to a bound: digits, possibly after a plus sign. -/
def natural? (most : Nat) (s : List Char) : Option Nat :=
  let digits := match s with
    | '+' :: rest => rest
    | _ => s
  (value? digits).filter (· ≤ most)

/-- The greatest signed number of 64 bits. -/
def maxInteger : Nat := Nat.pow 2 63 - 1

/-- A signed number of 64 bits: digits, possibly after a sign. -/
def integer? (s : List Char) : Option Int :=
  match s with
  | '-' :: rest => ((value? rest).filter (· ≤ maxInteger + 1)).map fun n => -(n : Int)
  | _ => (natural? maxInteger s).map fun n => (n : Int)

/-- The value of digits that follow other digits is found by going on. -/
theorem valueFrom?_append (n : Nat) (s t : List Char) :
    valueFrom? n (s ++ t) = (valueFrom? n s).bind fun m => valueFrom? m t := by
  induction s generalizing n with
  | nil => rfl
  | cons c s ih =>
    simp only [List.cons_append, valueFrom?]
    cases digitValue? c with
    | none => rfl
    | some d => exact ih _

/-- A number that is read is within its bound. -/
theorem natural?_le {most n : Nat} {s : List Char} (h : natural? most s = some n) : n ≤ most := by
  simpa using (Option.filter_eq_some_iff.1 h).2

end QualityGate.Text
