/-!
Columns. A text is filled up with blanks to a width; a text that is wider stays as it is.

* `length_padRight`, `length_padLeft`: the width of the result.
-/

namespace QualityGate.Text

/-- A text at the left of a column. -/
def padRight (width : Nat) (s : String) : String :=
  String.ofList (s.toList ++ List.replicate (width - s.toList.length) ' ')

/-- A text at the right of a column. -/
def padLeft (width : Nat) (s : String) : String :=
  String.ofList (List.replicate (width - s.toList.length) ' ' ++ s.toList)

/-- The width of a column. -/
theorem length_padRight (width : Nat) (s : String) :
    (padRight width s).toList.length = max width s.toList.length := by
  simp only [padRight, String.toList_ofList, List.length_append, List.length_replicate]
  omega

/-- The width of a column. -/
theorem length_padLeft (width : Nat) (s : String) :
    (padLeft width s).toList.length = max width s.toList.length := by
  simp only [padLeft, String.toList_ofList, List.length_append, List.length_replicate]
  omega

end QualityGate.Text
