/-!
JSON values and their text. Values are written over several lines with two blanks for each level;
empty arrays and objects stay on one line. In strings, quotes, backslashes and control characters
are escaped.

* `JsonValue.render`: the text of a value.
* `mem_escape_ge`: an escaped text has no control character.
-/

namespace QualityGate

/-- A JSON value. Objects keep the order of their members. -/
inductive JsonValue where
  | null
  | bool (b : Bool)
  | number (n : Int)
  | string (s : String)
  | array (items : List JsonValue)
  | object (members : List (String × JsonValue))
  deriving Repr, Inhabited

namespace JsonValue

/-! ### Strings -/

/-- The hexadecimal digit of a number below sixteen. -/
def hexDigit (n : Nat) : Char :=
  if n < 10 then Char.ofNat ('0'.toNat + n) else Char.ofNat ('a'.toNat + (n - 10))

/-- The letter that stands for a character after a backslash. -/
def escapeLetter? (c : Char) : Option Char :=
  if c = '"' then some '"'
  else if c = '\\' then some '\\'
  else if c = '\x08' then some 'b'
  else if c = '\t' then some 't'
  else if c = '\n' then some 'n'
  else if c = '\x0c' then some 'f'
  else if c = '\r' then some 'r'
  else none

/-- A character as it is written inside a string. -/
def escapeChar (c : Char) : List Char :=
  match escapeLetter? c with
  | some letter => ['\\', letter]
  | none =>
    if c.toNat < 0x20 then
      ['\\', 'u', '0', '0', hexDigit (c.toNat / 16), hexDigit (c.toNat % 16)]
    else [c]

/-- A text as it is written inside a string. -/
def escape (s : List Char) : List Char := s.flatMap escapeChar

/-- A string with its quotes. -/
def quote (s : String) : List Char := '"' :: escape s.toList ++ ['"']

/-! ### Layout -/

/-- A line end and the blanks in front of a line. -/
def newLine (level : Nat) : List Char := '\n' :: List.replicate (2 * level) ' '

mutual

/-- The text of a value that stands on a level. -/
def renderAt (level : Nat) : JsonValue → List Char
  | null => "null".toList
  | bool b => (if b then "true" else "false").toList
  | number n => (toString n).toList
  | string s => quote s
  | array [] => ['[', ']']
  | array (v :: vs) =>
    '[' :: newLine (level + 1) ++ renderAt (level + 1) v ++ renderItems (level + 1) vs ++
      newLine level ++ [']']
  | object [] => ['{', '}']
  | object ((key, v) :: ms) =>
    '{' :: newLine (level + 1) ++ quote key ++ ':' :: ' ' :: renderAt (level + 1) v ++
      renderMembers (level + 1) ms ++ newLine level ++ ['}']

/-- The text of the items after the first one. -/
def renderItems (level : Nat) : List JsonValue → List Char
  | [] => []
  | v :: vs => ',' :: newLine level ++ renderAt level v ++ renderItems level vs

/-- The text of the members after the first one. -/
def renderMembers (level : Nat) : List (String × JsonValue) → List Char
  | [] => []
  | (key, v) :: ms =>
    ',' :: newLine level ++ quote key ++ ':' :: ' ' :: renderAt level v ++ renderMembers level ms

end

/-- The text of a value. -/
def render (v : JsonValue) : String := String.ofList (renderAt 0 v)

/-- A number without a sign. -/
def ofNat (n : Nat) : JsonValue := number n

/-- An array of strings. -/
def strings (ss : List String) : JsonValue := array (ss.map string)

/-- An array of the values of some things. -/
def arrayOf {α : Type} (f : α → JsonValue) (xs : List α) : JsonValue := array (xs.map f)

/-- An object with the members that are there. -/
def objectOf (members : List (Option (String × JsonValue))) : JsonValue :=
  object (members.filterMap id)

/-- The digits of small numbers are ordinary characters. -/
theorem hexDigit_ge {n : Nat} (h : n < 16) : 0x20 ≤ (hexDigit n).toNat := by
  revert n
  decide

/-- The letters of escapes are ordinary characters. -/
theorem escapeLetter?_ge {c d : Char} (h : escapeLetter? c = some d) : 0x20 ≤ d.toNat := by
  unfold escapeLetter? at h
  repeat' split at h
  all_goals cases h
  all_goals decide

/-- An escaped character has no control character. -/
theorem mem_escapeChar_ge {c d : Char} (h : d ∈ escapeChar c) : 0x20 ≤ d.toNat := by
  unfold escapeChar at h
  split at h
  · next letter hl =>
    rcases List.mem_cons.1 h with rfl | h
    · decide
    · rw [List.mem_singleton.1 h]
      exact escapeLetter?_ge hl
  · split at h
    · simp only [List.mem_cons, List.not_mem_nil, or_false] at h
      rcases h with rfl | rfl | rfl | rfl | rfl | rfl
      · decide
      · decide
      · decide
      · decide
      · exact hexDigit_ge (by omega)
      · exact hexDigit_ge (by omega)
    · rw [List.mem_singleton.1 h]
      omega

/-- An escaped text has no control character. -/
theorem mem_escape_ge {s : List Char} {d : Char} (h : d ∈ escape s) : 0x20 ≤ d.toNat := by
  obtain ⟨c, _, hd⟩ := List.mem_flatMap.1 h
  exact mem_escapeChar_ge hd

end JsonValue

end QualityGate
