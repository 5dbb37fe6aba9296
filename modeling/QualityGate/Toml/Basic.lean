/-!
The values of a TOML document.

* `member?_cons_self`: the first member with a key is the one that is found.
-/

namespace QualityGate

/-- A TOML value. Floating-point numbers and points in time are told apart from other values and not
evaluated. -/
inductive TomlValue where
  | string (s : List Char)
  | integer (n : Int)
  | float
  | boolean (b : Bool)
  | dateTime
  | array (items : List TomlValue)
  | table (members : List (List Char × TomlValue))
  deriving Repr, Inhabited

namespace TomlValue

/-- The member of a table with the given key. -/
def member? (members : List (List Char × TomlValue)) (key : String) : Option TomlValue :=
  (members.find? fun m => m.1 == key.toList).map Prod.snd

/-- The first member with a key is the one that is found. -/
theorem member?_cons_self (key : String) (v : TomlValue) (ms : List (List Char × TomlValue)) :
    member? ((key.toList, v) :: ms) key = some v := by
  simp [member?]

end TomlValue

end QualityGate
