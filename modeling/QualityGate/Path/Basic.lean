import QualityGate.Text.Split

/-!
File paths. A path is kept as it is spelled. What it says is its list of components: repeated
slashes, a slash at the end and a dot inside do not count. Paths are compared component by
component.

Paths are texts here. The bytes of a path that is no text are not kept; what depends on them is told
apart by `Surroundings.isText`.

* `order_self`, `order_eq_iff`: two paths are equal in the order exactly if they have the same
  components.
-/

namespace QualityGate

/-- A path as it is spelled, in Unicode characters. -/
structure Path where
  text : String
  deriving DecidableEq, Repr, Inhabited

namespace Path

/-- What a path is made of. -/
inductive Component where
  | root
  /-- A dot at the front of a relative path. -/
  | here
  /-- Two dots. -/
  | up
  | name (text : List Char)
  deriving DecidableEq, Repr

/-- The part of a path between two slashes. -/
def Component.ofPart (part : List Char) : Component :=
  if part = ['.', '.'] then .up else .name part

/-- A part of a path that says nothing. -/
def isSilentPart (part : List Char) : Bool := part.isEmpty || part == ['.']

/-- The components of a path, given its parts between slashes. -/
def componentsOfParts : List (List Char) → List Component
  | [] => []
  | first :: rest =>
    let front : List Component :=
      if first = ['.'] then [.here]
      else if first.isEmpty then (if rest.isEmpty then [] else [.root])
      else [.ofPart first]
    front ++ (rest.filter fun p => !isSilentPart p).map Component.ofPart

/-- The parts of a path between its slashes. -/
def parts (p : Path) : List (List Char) := Text.splitAt '/' p.text.toList

/-- The components of a path. -/
def components (p : Path) : List Component := componentsOfParts p.parts

/-- A code that puts components in order: the root, the dot, the two dots, and then names by their
characters. -/
def Component.code : Component → List Nat
  | root => [0]
  | here => [1]
  | up => [2]
  | name text => 3 :: text.map Char.toNat

/-- The order of paths. -/
def order (p q : Path) : Ordering :=
  compare (p.components.map Component.code) (q.components.map Component.code)

/-- The path starts at the root. -/
def isAbsolute (p : Path) : Bool := ['/'].isPrefixOf p.text.toList

/-- The name at the end of a path, if it ends in one. -/
def fileName? (p : Path) : Option (List Char) :=
  match p.components.getLast? with
  | some (.name n) => some n
  | _ => none

/-- The text after the last dot of a text, and the text before it. -/
def splitLastDot? (s : List Char) : Option (List Char × List Char) :=
  if s.contains '.' then
    let tail := (s.reverse.takeWhile (· != '.')).reverse
    some (s.take (s.length - tail.length - 1), tail)
  else none

/-- The extension of the name at the end of a path: what follows its last dot, unless that dot
starts the name. -/
def extension? (p : Path) : Option (List Char) :=
  (p.fileName?.bind splitLastDot?).bind fun (stem, ext) => if stem.isEmpty then none else some ext

/-- The path of an entry of a directory. -/
def join (dir child : Path) : Path :=
  if child.isAbsolute || dir.text.isEmpty then child
  else if ['/'].isSuffixOf dir.text.toList then ⟨dir.text ++ child.text⟩
  else ⟨dir.text ++ "/" ++ child.text⟩

/-- A path without its last component. -/
def parent? (p : Path) : Option Path :=
  let dropSilent (ps : List (List Char)) : List (List Char) :=
    match ps.reverse.dropWhile isSilentPart with
    | [] => ps.take 1
    | kept => kept.reverse
  match p.components.getLast? with
  | none | some .root => none
  | some _ =>
    let front := (dropSilent p.parts).dropLast
    if front.isEmpty then some ⟨""⟩
    else
      let kept := ['/'].intercalate (dropSilent front)
      some ⟨if kept.isEmpty then (if p.isAbsolute then "/" else "") else String.ofList kept⟩

/-- Components with the same code are the same. -/
theorem Component.code_injective {a b : Component} (h : a.code = b.code) : a = b := by
  have inj : ∀ s t : List Char, s.map Char.toNat = t.map Char.toNat → s = t := by
    intro s
    induction s with
    | nil => intro t ht; cases t with
      | nil => rfl
      | cons d t => cases ht
    | cons c s ih =>
      intro t ht
      cases t with
      | nil => cases ht
      | cons d t =>
        simp only [List.map_cons, List.cons.injEq] at ht
        rw [Char.toNat_inj.1 ht.1, ih t ht.2]
  cases a <;> cases b <;> simp [code] at h ⊢
  exact inj _ _ h

/-- A path is equal to itself in the order. -/
theorem order_self (p : Path) : order p p = .eq := by
  unfold order
  exact Std.ReflCmp.compare_self

/-- Two paths are equal in the order exactly if they have the same components. -/
theorem order_eq_iff {p q : Path} : order p q = .eq ↔ p.components = q.components := by
  constructor
  · intro h
    unfold order at h
    have hcodes := Std.LawfulEqCmp.eq_of_compare h
    have inj : ∀ cs ds : List Component,
        cs.map Component.code = ds.map Component.code → cs = ds := by
      intro cs
      induction cs with
      | nil => intro ds hds; cases ds with
        | nil => rfl
        | cons d ds => cases hds
      | cons c cs ih =>
        intro ds hds
        cases ds with
        | nil => cases hds
        | cons d ds =>
          simp only [List.map_cons, List.cons.injEq] at hds
          rw [Component.code_injective hds.1, ih ds hds.2]
    exact inj _ _ hcodes
  · intro h
    rw [order, h]
    exact Std.ReflCmp.compare_self

end Path

end QualityGate
