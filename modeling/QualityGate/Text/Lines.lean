/-!
Splitting a text into lines. A line ends at a line feed, a carriage return right before that line
feed belongs to the line end, and a last line needs no line end.

* `flatten_pieces`: the pieces, line ends included, put the text together again.
-/

namespace QualityGate.Text

/-- A text cut after each line feed. The line feeds stay at the ends of the pieces. -/
def pieces : List Char → List (List Char)
  | [] => []
  | c :: rest =>
    if c = '\n' then [c] :: pieces rest
    else match pieces rest with
      | [] => [[c]]
      | p :: ps => (c :: p) :: ps

/-- A piece without its line end: a line feed, and a carriage return before it. -/
def withoutLineEnd : List Char → List Char
  | [] => []
  | ['\n'] => []
  | ['\r', '\n'] => []
  | c :: rest => c :: withoutLineEnd rest

/-- The lines of a text. -/
def lines (s : List Char) : List (List Char) := (pieces s).map withoutLineEnd

/-- No character is lost by cutting. -/
theorem flatten_pieces (s : List Char) : (pieces s).flatten = s := by
  induction s with
  | nil => rfl
  | cons c s ih =>
    rw [pieces]
    split
    · simp [ih]
    · split
      · next h => rw [h] at ih; simp [← ih]
      · next h => rw [h] at ih; simp only [List.flatten_cons, List.cons_append] at ih ⊢; rw [ih]

end QualityGate.Text
