import QualityGate.Regex.CharSet

/-!
Regular expressions and where they match. A `Cursor` is a place in a text. `Regex.ends` lists the
places at which a match that starts at a given place can end, the preferred one first, each place
once: the earlier side of a choice is preferred, and a greedy loop prefers to go on. The preferred
match from the first place that has one is the match that is found.

* `mem_map_index_distinct`, `joinAll_eq_nil_iff`: dropping repetitions loses no place.
* `distinct_eq_nil_iff`: it leaves nothing only of nothing.
-/

namespace QualityGate.Regex

/-! ### Places in a text -/

/-- A place in a text. -/
structure Cursor where
  /-- The number of characters before it. -/
  index : Nat
  /-- The character right before it. -/
  before : Option Char
  /-- The text after it. -/
  after : List Char
  deriving DecidableEq, Repr, Inhabited

namespace Cursor

/-- The start of a text. -/
def start (s : List Char) : Cursor := ⟨0, none, s⟩

/-- The place after the next character, and that character. -/
def next? (p : Cursor) : Option (Char × Cursor) :=
  match p.after with
  | [] => none
  | c :: rest => some (c, ⟨p.index + 1, some c, rest⟩)

end Cursor

/-- A list of places without those that stand further to the front already. -/
def distinct : List Cursor → List Cursor
  | [] => []
  | p :: ps => p :: (distinct ps).filter fun q => q.index != p.index

/-- Lists of places put together, each place once. The lists have no repetitions of their own. -/
def joinAll : List (List Cursor) → List Cursor
  | [] => []
  | [ps] => ps
  | lists => distinct lists.flatten

/-! ### Expressions -/

/-- Conditions on the place between two characters. -/
inductive Look where
  | textStart
  | textEnd
  | lineStart
  | lineEnd
  /-- Like `lineStart`, where a carriage return, a line feed and the pair end a line. -/
  | lineStartCRLF
  | lineEndCRLF
  /-- The conditions on words have the class of their characters. -/
  | wordBoundary (word : CharSet)
  | notWordBoundary (word : CharSet)
  | wordStart (word : CharSet)
  | wordEnd (word : CharSet)
  | wordStartHalf (word : CharSet)
  | wordEndHalf (word : CharSet)
  deriving DecidableEq, Repr

/-- The condition holds at a place. -/
def Look.holds (l : Look) (p : Cursor) : Bool :=
  let wordBefore (w : CharSet) : Bool := p.before.any w.contains
  let wordAfter (w : CharSet) : Bool := p.after.head?.any w.contains
  match l with
  | textStart => p.before.isNone
  | textEnd => p.after.isEmpty
  | lineStart => p.before.all (· == '\n')
  | lineEnd => p.after.head?.all (· == '\n')
  | lineStartCRLF =>
    p.before.all (· == '\n') || (p.before == some '\r' && p.after.head? != some '\n')
  | lineEndCRLF =>
    p.after.head?.all (· == '\r') || (p.after.head? == some '\n' && p.before != some '\r')
  | wordBoundary w => wordBefore w != wordAfter w
  | notWordBoundary w => wordBefore w == wordAfter w
  | wordStart w => !wordBefore w && wordAfter w
  | wordEnd w => wordBefore w && !wordAfter w
  | wordStartHalf w => !wordBefore w
  | wordEndHalf w => !wordAfter w

end Regex

/-- A regular expression. -/
inductive Regex where
  /-- Matches the empty text. -/
  | empty
  /-- One character of a set. -/
  | chars (set : Regex.CharSet)
  /-- As many characters of a set as the limits allow. -/
  | run (set : Regex.CharSet) (least : Nat) (most : Option Nat) (greedy : Bool)
  | look (l : Regex.Look)
  | seq (a b : Regex)
  /-- A choice, the first one preferred. -/
  | alt (a b : Regex)
  /-- As many matches in a row as the limits allow. -/
  | loop (r : Regex) (least : Nat) (most : Option Nat) (greedy : Bool)
  deriving DecidableEq, Repr, Inhabited

namespace Regex

/-! ### Loops -/

/-- The places after zero, one, two and more characters of a set, at most as many as given. -/
def runPlaces (set : CharSet) (index : Nat) (before : Option Char) :
    Option Nat → List Char → List Cursor
  | some 0, after => [⟨index, before, after⟩]
  | _, [] => [⟨index, before, []⟩]
  | most, c :: rest =>
    ⟨index, before, c :: rest⟩ ::
      if set.contains c then runPlaces set (index + 1) (some c) (most.map (· - 1)) rest else []

/-- The places at which a run of characters of a set can end. -/
def runEnds (set : CharSet) (least : Nat) (most : Option Nat) (greedy : Bool) (p : Cursor) :
    List Cursor :=
  let places := (runPlaces set p.index p.before most p.after).drop least
  if greedy then places.reverse else places

/-- The place itself before or after the places that a loop reaches when it goes on. -/
def stopOr (greedy : Bool) (p : Cursor) (more : List Cursor) : List Cursor :=
  if greedy then (if more.any fun q => q.index == p.index then more else more ++ [p])
  else p :: more.filter fun q => q.index != p.index

/-- For each place from the given one on: where a loop can end that starts there. `step` gives the
ends of one round. A round that uses up no text is the last one. -/
def starTable (step : Cursor → List Cursor) (greedy : Bool) (index : Nat)
    (before : Option Char) : List Char → List (List Cursor)
  | [] =>
    let p : Cursor := ⟨index, before, []⟩
    [stopOr greedy p (joinAll ((step p).map fun q => [q]))]
  | c :: rest =>
    let p : Cursor := ⟨index, before, c :: rest⟩
    let later := starTable step greedy (index + 1) (some c) rest
    stopOr greedy p (joinAll ((step p).map fun q =>
      if q.index ≤ index then [q] else later.getD (q.index - index - 1) [])) :: later

/-- The values of a function at each place from the given one on. -/
def table (f : Cursor → List Cursor) (index : Nat) (before : Option Char) :
    List Char → List (List Cursor)
  | [] => [f ⟨index, before, []⟩]
  | c :: rest => f ⟨index, before, c :: rest⟩ :: table f (index + 1) (some c) rest

/-- For each place from the given one on: where a loop of at most so many rounds can end that starts
there. -/
def upToTable (step : Cursor → List Cursor) (greedy : Bool) (index : Nat)
    (before : Option Char) (after : List Char) : Nat → List (List Cursor)
  | 0 => table (fun p => [p]) index before after
  | rounds + 1 =>
    let fewer := upToTable step greedy index before after rounds
    table (fun p => stopOr greedy p
      (joinAll ((step p).map fun q => fewer.getD (q.index - index) []))) index before after

/-- The ends of exactly so many rounds, from any of the given places. -/
def exactly (step : Cursor → List Cursor) : Nat → List Cursor → List Cursor
  | 0, ps => ps
  | n + 1, ps => exactly step n (joinAll (ps.map step))

/-- Where a loop can end. -/
def loopEnds (step : Cursor → List Cursor) (least : Nat) (most : Option Nat) (greedy : Bool)
    (p : Cursor) : List Cursor :=
  let further (q : Cursor) : List Cursor :=
    match most with
    | none => (starTable step greedy q.index q.before q.after).headD []
    | some m => (upToTable step greedy q.index q.before q.after (m - least)).headD []
  joinAll ((exactly step least [p]).map further)

/-! ### Matching -/

/-- The places at which a match that starts at a place can end, the preferred one first. -/
def ends : Regex → Cursor → List Cursor
  | empty, p => [p]
  | chars set, p =>
    match p.next? with
    | some (c, q) => if set.contains c then [q] else []
    | none => []
  | run set least most greedy, p => runEnds set least most greedy p
  | look l, p => if l.holds p then [p] else []
  | seq a b, p => joinAll ((ends a p).map (ends b))
  | alt a b, p => joinAll [ends a p, ends b p]
  | loop r least most greedy, p => loopEnds (ends r) least most greedy p

/-- The first place from a given one on at which a match starts, and its preferred end. -/
def foundFrom? (r : Regex) (index : Nat) (before : Option Char) :
    List Char → Option (Cursor × Cursor)
  | [] => (r.ends ⟨index, before, []⟩).head?.map fun e => (⟨index, before, []⟩, e)
  | c :: rest =>
    match r.ends ⟨index, before, c :: rest⟩ with
    | e :: _ => some (⟨index, before, c :: rest⟩, e)
    | [] => foundFrom? r (index + 1) (some c) rest

/-- The text of the match that is found in a text. -/
def find? (r : Regex) (s : List Char) : Option (List Char) :=
  (foundFrom? r 0 none s).map fun (p, e) => p.after.take (e.index - p.index)

/-- The expression matches all of a text. -/
def matchesAll (r : Regex) (s : List Char) : Bool :=
  (r.ends (.start s)).any fun e => e.after.isEmpty

/-! ### Membership -/

/-- Dropping repetitions keeps the indices. -/
theorem mem_map_index_distinct {ps : List Cursor} {i : Nat} :
    i ∈ (distinct ps).map Cursor.index ↔ i ∈ ps.map Cursor.index := by
  induction ps with
  | nil => simp [distinct]
  | cons p ps ih =>
    simp only [distinct, List.map_cons, List.mem_cons]
    constructor
    · rintro (h | h)
      · exact Or.inl h
      · obtain ⟨q, hq, rfl⟩ := List.mem_map.1 h
        exact Or.inr (ih.1 (List.mem_map_of_mem (List.mem_filter.1 hq).1))
    · rintro (h | h)
      · exact Or.inl h
      · by_cases hp : i = p.index
        · exact Or.inl hp
        · obtain ⟨q, hq, rfl⟩ := List.mem_map.1 (ih.2 h)
          exact Or.inr (List.mem_map_of_mem (List.mem_filter.2 ⟨hq, by simpa using hp⟩))

/-- What is left after dropping repetitions was there before. -/
theorem mem_of_mem_distinct {ps : List Cursor} {p : Cursor} (h : p ∈ distinct ps) : p ∈ ps := by
  induction ps with
  | nil => simp [distinct] at h
  | cons q ps ih =>
    rcases List.mem_cons.1 h with rfl | h
    · exact List.mem_cons_self
    · exact List.mem_cons_of_mem _ (ih (List.mem_filter.1 h).1)

/-- Nothing is left only of nothing. -/
theorem distinct_eq_nil_iff {ps : List Cursor} : distinct ps = [] ↔ ps = [] := by
  cases ps <;> simp [distinct]

/-- Putting lists together gives nothing only if all of them are empty. -/
theorem joinAll_eq_nil_iff {lists : List (List Cursor)} :
    joinAll lists = [] ↔ ∀ ps ∈ lists, ps = [] := by
  match lists with
  | [] => simp [joinAll]
  | [ps] => simp [joinAll]
  | ps :: qs :: more => simp [joinAll, distinct_eq_nil_iff, List.flatten_eq_nil_iff]

end Regex

end QualityGate
