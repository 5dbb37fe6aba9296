/-!
Text with colours. A styled text is a list of runs; it is shown in colour, with the control
sequences of terminals around each painted run, or plain.

* `Styled.render_append`: texts are shown one after the other.
* `Styled.render_false`: without colour only the texts are shown.
-/

namespace QualityGate.Text

/-- How a run of text is painted. -/
inductive Style where
  | red
  | green
  | yellow
  | cyan
  | boldRed
  | boldGreen
  deriving DecidableEq, Repr

/-- The numbers of the control sequences that switch a style on. -/
def Style.codes : Style → List Nat
  | red => [31]
  | green => [32]
  | yellow => [33]
  | cyan => [36]
  | boldRed => [1, 31]
  | boldGreen => [1, 32]

/-- A run of text in one style. -/
inductive Run where
  | plain (text : String)
  | painted (style : Style) (text : String)
  deriving DecidableEq, Repr

/-- The control sequence with a number. -/
def controlSequence (code : Nat) : List Char := '\x1b' :: '[' :: (toString code).toList ++ ['m']

namespace Run

/-- The text of a run. -/
def text : Run → String
  | plain text | painted _ text => text

/-- A run as it is shown. -/
def render (colour : Bool) : Run → List Char
  | plain text => text.toList
  | painted style text =>
    if colour then style.codes.flatMap controlSequence ++ text.toList ++ controlSequence 0
    else text.toList

end Run

/-- A text with colours. -/
abbrev Styled := List Run

namespace Styled

/-- A text as it is shown. -/
def render (colour : Bool) (s : Styled) : List Char := s.flatMap (Run.render colour)

/-- Texts are shown one after the other. -/
theorem render_append (colour : Bool) (s t : Styled) :
    render colour (s ++ t) = render colour s ++ render colour t := by
  simp [render]

/-- Without colour only the texts of the runs are shown. -/
theorem render_false (s : Styled) : render false s = s.flatMap fun r => r.text.toList := by
  unfold render
  congr 1
  funext r
  cases r <;> rfl

end Styled

end QualityGate.Text
