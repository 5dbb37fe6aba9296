import QualityGate.Unicode.Class

/-!
Texts in quotes. Quotes, backslashes and characters that cannot be seen are escaped; the latter by
their number, except the usual line and tab characters.

* `visible_of_isPrintable`: characters that can be seen are written as they are.
-/

namespace QualityGate.Text

/-- Hexadecimal digits. -/
def hexDigits (n : Nat) : List Char := Nat.toDigits 16 n

/-- A character as it is written between quotes. -/
def visible (c : Char) : List Char :=
  if c = '\x00' then ['\\', '0']
  else if c = '\t' then ['\\', 't']
  else if c = '\n' then ['\\', 'n']
  else if c = '\r' then ['\\', 'r']
  else if c = '"' then ['\\', '"']
  else if c = '\\' then ['\\', '\\']
  else if !Unicode.isGraphemeExtend c && Unicode.isPrintable c then [c]
  else '\\' :: 'u' :: '\x7b' :: hexDigits c.toNat ++ ['\x7d']

/-- A text in quotes. -/
def quote (s : String) : String := String.ofList ('"' :: s.toList.flatMap visible ++ ['"'])

/-- Texts in quotes, with commas between them and brackets around them. -/
def quoteList (ss : List String) : String := "[" ++ ", ".intercalate (ss.map quote) ++ "]"

/-- Characters that can be seen are written as they are, quotes and backslashes apart. -/
theorem visible_of_isPrintable {c : Char} (hp : Unicode.isPrintable c = true)
    (hg : Unicode.isGraphemeExtend c = false) (hq : c ≠ '"') (hb : c ≠ '\\') :
    visible c = [c] := by
  unfold visible
  repeat' split
  all_goals first
    | (subst_vars; revert hp; decide)
    | simp_all

end QualityGate.Text
