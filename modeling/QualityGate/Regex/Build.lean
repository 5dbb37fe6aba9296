import QualityGate.Regex.Basic

/-!
Building regular expressions from parts.

* `ends_char`: the expression of a character matches that character and nothing else.
-/

namespace QualityGate.Regex

/-- One given character. -/
def char (c : Char) : Regex := .chars (.single c)

/-- One of some characters. -/
def oneOf (cs : List Char) : Regex := .chars (.ofList cs)

/-- A character that is none of the given ones. -/
def noneOf (cs : List Char) : Regex := .chars (.not (.ofList cs))

/-- Any character but a line feed. -/
def dot : Regex := .chars (.allBut '\n')

/-- White space, if there is any. -/
def blanks : Regex := .run (.ofClass .blank) 0 none true

/-- Decimal digits, at least one. -/
def digits : Regex := .run (.ofClass .digit) 1 none true

/-- One expression after the other. -/
def seqAll : List Regex → Regex
  | [] => .empty
  | [r] => r
  | r :: rs => .seq r (seqAll rs)

/-- One of some expressions, the earlier one preferred. -/
def altAll : List Regex → Regex
  | [] => .chars .empty
  | [r] => r
  | r :: rs => .alt r (altAll rs)

/-- A given text. -/
def word (w : String) : Regex := seqAll (w.toList.map char)

/-- The expression or nothing. -/
def opt (r : Regex) : Regex := .loop r 0 (some 1) true

/-- The expression any number of times. -/
def star (r : Regex) : Regex := .loop r 0 none true

/-- One given character matches only where it stands. -/
theorem ends_char (c : Char) (p : Cursor) :
    (char c).ends p = match p.next? with
      | some (d, q) => if d = c then [q] else []
      | none => [] := by
  cases h : p.next? <;> simp [char, ends, h]

end QualityGate.Regex
