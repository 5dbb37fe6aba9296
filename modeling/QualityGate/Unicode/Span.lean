/-!
Sets of characters given by arithmetic spans, the form in which character properties are listed.
-/

namespace QualityGate.Unicode

/-- The code points `first`, `first + step`, `first + 2 * step` and so on up to `last`. -/
structure Span where
  first : Nat
  last : Nat
  step : Nat
  deriving DecidableEq, Repr

namespace Span

/-- Membership of a character in a span. -/
def contains (s : Span) (c : Char) : Bool :=
  s.first ≤ c.toNat && c.toNat ≤ s.last && (c.toNat - s.first) % s.step == 0

end Span

/-- Membership of a character in one of some spans. -/
def inSpans (spans : List Span) (c : Char) : Bool := spans.any fun s => s.contains c

/-- A character is in one list of spans or in another exactly if it is in both put together. -/
theorem inSpans_append (s t : List Span) (c : Char) :
    inSpans (s ++ t) c = (inSpans s c || inSpans t c) := by
  simp [inSpans]

end QualityGate.Unicode
