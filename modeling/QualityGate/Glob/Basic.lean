/-!
Globs. A glob is a list of tokens: characters, wildcards, classes of characters, and choices between
lists of tokens. Two stars between slashes reach over any number of directories.

* `Glob.ofText?`: the tokens of a written glob, if it is one.
* `ClassReading`: what can become of an opening bracket.
-/

namespace QualityGate

/-- A part of a glob. -/
inductive GlobToken where
  | literal (c : Char)
  /-- One byte. -/
  | any
  /-- Any number of bytes. -/
  | many
  /-- Two stars and a slash at the front: any directories, or none. -/
  | deepFront
  /-- A slash and two stars at the end: everything below. -/
  | deepEnd
  /-- Two stars between slashes: any directories in between, or none. -/
  | deepMiddle
  /-- One byte of a class, or of none of it. -/
  | oneOf (negated : Bool) (ranges : List (Char × Char))
  | choice (branches : List (List GlobToken))
  deriving Repr, Inhabited

/-- How globs are read and matched. -/
structure GlobStyle where
  /-- Wildcards do not match a slash. -/
  keepsSlashes : Bool
  /-- A bracket that is not closed stands for itself. -/
  allowsOpenBracket : Bool
  deriving DecidableEq, Repr

namespace Glob

/-! ### Classes -/

/-- What can become of an opening bracket. -/
inductive ClassReading where
  | closed (ranges : List (Char × Char)) (rest : List Char)
  | unclosed
  /-- A range that ends before it starts. -/
  | reversed

/-- The state inside a class. -/
inductive ClassPlace where
  /-- Nothing has been read. -/
  | front
  /-- A range may begin at the latest character. -/
  | between
  /-- A range has begun. -/
  | inRange

/-- The ranges with the latest one ended at a character. -/
def endRange? (c : Char) : List (Char × Char) → Option (List (Char × Char))
  | (first, _) :: earlier => if c.toNat < first.toNat then none else some ((first, c) :: earlier)
  | [] => none

/-- The rest of a class, given its ranges so far, the latest first. -/
def readClass (place : ClassPlace) (ranges : List (Char × Char)) : List Char → ClassReading
  | [] => .unclosed
  | c :: rest =>
    match place with
    | .front => readClass .between ((c, c) :: ranges) rest
    | .between =>
      if c = ']' then .closed ranges.reverse rest
      else if c = '-' then readClass .inRange ranges rest
      else readClass .between ((c, c) :: ranges) rest
    | .inRange =>
      if c = ']' then .closed (('-', '-') :: ranges).reverse rest
      else match endRange? c ranges with
        | some ranges => readClass .between ranges rest
        | none => .reversed

/-- The class after an opening bracket, and whether it is negated. -/
def classAt (s : List Char) : Bool × ClassReading :=
  match s with
  | '!' :: rest | '^' :: rest => (true, readClass .front [] rest)
  | _ => (false, readClass .front [] s)

/-- The text after a class is shorter than the text after its bracket. -/
theorem length_lt_of_readClass {place : ClassPlace} {ranges result : List (Char × Char)}
    {s rest : List Char} (h : readClass place ranges s = .closed result rest) :
    rest.length < s.length := by
  induction s generalizing place ranges with
  | nil => simp [readClass] at h
  | cons c s ih =>
    simp only [List.length_cons]
    cases place with
    | front =>
      have := ih (by simpa [readClass] using h)
      omega
    | between =>
      simp only [readClass] at h
      split at h
      · cases h; omega
      · split at h <;> exact Nat.lt_succ_of_lt (ih h)
    | inRange =>
      simp only [readClass] at h
      split at h
      · cases h; omega
      · split at h
        · have := ih h; omega
        · cases h

/-- The text after a class is shorter than the text after its bracket. -/
theorem length_lt_of_classAt {s rest : List Char} {negated : Bool} {ranges : List (Char × Char)}
    (h : classAt s = (negated, .closed ranges rest)) : rest.length < s.length := by
  unfold classAt at h
  split at h
  · have := length_lt_of_readClass (congrArg Prod.snd h); simp only [List.length_cons]; omega
  · have := length_lt_of_readClass (congrArg Prod.snd h); simp only [List.length_cons]; omega
  · exact length_lt_of_readClass (congrArg Prod.snd h)

/-! ### Reading -/

/-- A list of tokens in the making, and the branches before it in its choice; all lists have the
latest item first. -/
structure Branching where
  earlier : List (List GlobToken)
  current : List GlobToken

/-- What has been read of a glob: the innermost choice, and the ones around it. -/
structure Reading where
  inner : Branching
  outer : List Branching

namespace Reading

/-- Nothing has been read. -/
def start : Reading := ⟨⟨[], []⟩, []⟩

/-- One token more. -/
def push (r : Reading) (t : GlobToken) : Reading :=
  { r with inner.current := t :: r.inner.current }

/-- Some tokens more. -/
def pushAll (r : Reading) (ts : List GlobToken) : Reading := ts.foldl push r

/-- The latest token replaced. -/
def replace (r : Reading) (f : GlobToken → GlobToken) : Reading :=
  match r.inner.current with
  | [] => r
  | t :: ts => { r with inner.current := f t :: ts }

/-- A choice is open. -/
def inChoice (r : Reading) : Bool := !r.outer.isEmpty

/-- A choice opened. -/
def openChoice (r : Reading) : Reading := ⟨⟨[], []⟩, r.inner :: r.outer⟩

/-- The next branch of a choice; outside of choices a comma stands for itself. -/
def comma (r : Reading) : Reading :=
  if r.inChoice then { r with inner := ⟨r.inner.current.reverse :: r.inner.earlier, []⟩ }
  else r.push (.literal ',')

/-- The innermost choice closed. -/
def closeChoice? (r : Reading) : Option Reading :=
  match r.outer with
  | [] => none
  | around :: outer =>
    let branches := (r.inner.current.reverse :: r.inner.earlier).reverse
    some (push ⟨around, outer⟩ (.choice branches))

/-- The tokens, if no choice is open. -/
def finish? (r : Reading) : Option (List GlobToken) :=
  if r.inChoice then none else some r.inner.current.reverse

end Reading

/-- Two stars after a slash take the place of that slash, unless they already reach everywhere. -/
def deepen (t : GlobToken) : GlobToken → GlobToken
  | .deepFront => .deepFront
  | .deepEnd => .deepEnd
  | _ => t

/-- What two stars mean, given what was read, the character before them, and the text after them:
the new reading, and whether they use up the slash after them. -/
def twoStars (r : Reading) (before : Option Char) (rest : List Char) : Reading × Bool :=
  let plain := (r.pushAll [.many, .many], false)
  if r.inner.current.isEmpty then
    match rest with
    | [] => (r.push .deepFront, false)
    | '/' :: _ => (r.push .deepFront, true)
    | _ => plain
  else if before != some '/' then plain
  else match rest with
    | [] => (r.replace (deepen .deepEnd), false)
    | '/' :: _ => (r.replace (deepen .deepMiddle), true)
    | c :: _ =>
      if r.inChoice && (c == ',' || c == '\x7d') then (r.replace (deepen .deepEnd), false)
      else plain

/-- The tokens of a text after what has been read. `before` is the character right before the text,
and `brackets` says that brackets open classes. -/
def readFrom (style : GlobStyle) (r : Reading) (before : Option Char) (brackets : Bool) :
    List Char → Option (List GlobToken)
  | [] => r.finish?
  | '?' :: rest => readFrom style (r.push .any) (some '?') brackets rest
  | '*' :: '*' :: rest =>
    let (r, usesSlash) := twoStars r before rest
    if usesSlash then readFrom style r (some '/') brackets (rest.drop 1)
    else readFrom style r (some '*') brackets rest
  | '*' :: rest => readFrom style (r.push .many) (some '*') brackets rest
  | '\x7b' :: rest => readFrom style r.openChoice (some '\x7b') brackets rest
  | '\x7d' :: rest => r.closeChoice?.bind fun r => readFrom style r (some '\x7d') brackets rest
  | ['\\'] => none
  | '\\' :: c :: rest => readFrom style (r.push (.literal c)) (some c) brackets rest
  | ',' :: rest => readFrom style r.comma (some ',') brackets rest
  | c :: rest =>
    if c = '[' ∧ brackets then
      match _h : classAt rest with
      | (negated, .closed ranges after) =>
        readFrom style (r.push (.oneOf negated ranges)) (some ']') brackets after
      | (_, .unclosed) =>
        if style.allowsOpenBracket then
          readFrom style (r.push (.literal '[')) (some '[') false rest
        else none
      | (_, .reversed) => none
    else readFrom style (r.push (.literal c)) (some c) brackets rest
  termination_by s => s.length
  decreasing_by
    all_goals simp only [List.length_cons, List.length_drop]
    all_goals first
      | omega
      | exact Nat.lt_succ_of_lt (length_lt_of_classAt _h)

end Glob

/-- A glob that can be matched. -/
structure Glob where
  style : GlobStyle
  tokens : List GlobToken

/-- The glob that a text stands for. -/
def Glob.ofText? (style : GlobStyle) (s : List Char) : Option Glob :=
  (readFrom style .start none true s).map fun tokens => ⟨style, tokens⟩

end QualityGate
