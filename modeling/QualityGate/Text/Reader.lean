import QualityGate.Text.Blank

/-!
Readers with a preference. A reader lists the ways to read the front of a text: each way is a value
and the text that it leaves, and the preferred way comes first. Putting readers together keeps the
preference of the first one above that of the second, so the head of the list is the reading that
tries the choices in order and takes back the latest one that fails.

* `mem_andThen`: a way to read two things is a way to read the first and a way to read the second.
* `mem_orElse`: a way of a choice is a way of one side.
-/

namespace QualityGate.Text

/-- The ways to read the front of a text, the preferred one first. -/
abbrev Reader (α : Type) := List Char → List (α × List Char)

namespace Reader

variable {α β : Type}

/-- The reader that reads nothing. -/
def value (a : α) : Reader α := fun s => [(a, s)]

/-- One thing and then another. -/
def andThen (r : Reader α) (f : α → Reader β) : Reader β :=
  fun s => (r s).flatMap fun w => f w.1 w.2

/-- The same ways with other values. -/
def map (f : α → β) (r : Reader α) : Reader β := fun s => (r s).map fun w => (f w.1, w.2)

/-- Two readers in order of preference. -/
def orElse (r t : Reader α) : Reader α := fun s => r s ++ t s

/-- The given thing if possible, else nothing. -/
def optional (r : Reader α) : Reader (Option α) := orElse (map some r) (value none)

/-- Exactly the given text. -/
def literal (w : List Char) : Reader Unit :=
  fun s => if w.isPrefixOf s then [((), s.drop w.length)] else []

/-- One of some words, in order of preference. -/
def oneOf (words : List (List Char)) : Reader (List Char) :=
  fun s => words.flatMap fun w => map (fun _ => w) (literal w) s

/-- One character of a class. -/
def char (p : Char → Bool) : Reader Char
  | [] => []
  | c :: rest => if p c then [(c, rest)] else []

/-- The longest run of characters of a class, which may be empty. -/
def run (p : Char → Bool) : Reader (List Char) := fun s => [(s.takeWhile p, s.dropWhile p)]

/-- The longest run of characters of a class, which may not be empty. -/
def run1 (p : Char → Bool) : Reader (List Char) :=
  andThen (char p) fun c => map (c :: ·) (run p)

/-- White space, at least one character. -/
def blanks1 : Reader (List Char) := run1 isBlank

/-- White space, if there is any. -/
def blanks : Reader (List Char) := run isBlank

/-- Any number of things, as many as possible first. Each of them has to use up some text. -/
def many (r : Reader α) (s : List Char) : List (List α × List Char) :=
  ((r s).flatMap fun w =>
    if _h : w.2.length < s.length then (many r w.2).map fun v => (w.1 :: v.1, v.2) else []) ++
      [([], s)]
  termination_by s.length

/-- The first way, if there is one. -/
def first? (r : Reader α) (s : List Char) : Option α := (r s).head?.map Prod.fst

/-- A way to read two things is a way to read the first and then a way to read the second. -/
theorem mem_andThen {r : Reader α} {f : α → Reader β} {s t : List Char} {b : β} :
    (b, t) ∈ andThen r f s ↔ ∃ a u, (a, u) ∈ r s ∧ (b, t) ∈ f a u := by
  simp only [andThen, List.mem_flatMap, Prod.exists]

/-- A way of a choice is a way of one side. -/
theorem mem_orElse {r t : Reader α} {s u : List Char} {a : α} :
    (a, u) ∈ orElse r t s ↔ (a, u) ∈ r s ∨ (a, u) ∈ t s := by
  simp [orElse]

/-- Reading nothing is always possible, in one way. -/
theorem mem_value {a b : α} {s t : List Char} : (b, t) ∈ value a s ↔ b = a ∧ t = s := by
  simp [value]

end Reader

end QualityGate.Text
