import QualityGate.Text.Blank
import QualityGate.Unicode.Class

/-!
Annotations before a declaration on its line. An annotation is an `@`, a name, and possibly an
argument list in parentheses.

* `splitArguments?_append`: an argument list is a front part of the text.
* `withoutAnnotations` drops the annotations in front of a piece of code. It stops at an `@` without
  a name and at an argument list that stays open.
-/

namespace QualityGate

/-- Splits off the text up to the parenthesis that brings the number of open parentheses to zero,
given how many are open and, inside a literal, its quote. Parentheses in literals do not count, and
a backslash in a literal takes the next character along. -/
def splitAtClosing? : Nat → Option Char → List Char → Option (List Char × List Char)
  | _, _, [] => none
  | _, some _, ['\\'] => none
  | depth, some q, '\\' :: c :: rest =>
    (splitAtClosing? depth (some q) rest).map fun (a, b) => ('\\' :: c :: a, b)
  | depth, some q, c :: rest =>
    (splitAtClosing? depth (if c = q then none else some q) rest).map fun (a, b) => (c :: a, b)
  | depth, none, c :: rest =>
    if c = '"' ∨ c = '\'' then
      (splitAtClosing? depth (some c) rest).map fun (a, b) => (c :: a, b)
    else if c = '(' then
      (splitAtClosing? (depth + 1) none rest).map fun (a, b) => (c :: a, b)
    else if c = ')' then
      if depth ≤ 1 then some ([c], rest)
      else (splitAtClosing? (depth - 1) none rest).map fun (a, b) => (c :: a, b)
    else (splitAtClosing? depth none rest).map fun (a, b) => (c :: a, b)

/-- For a text that starts with an opening parenthesis: the text through the parenthesis that
closes it, and the rest. -/
def splitArguments? (s : List Char) : Option (List Char × List Char) := splitAtClosing? 0 none s

/-- Splitting off loses nothing. -/
theorem splitAtClosing?_append (depth : Nat) (quote : Option Char) (s a b : List Char)
    (h : splitAtClosing? depth quote s = some (a, b)) : a ++ b = s := by
  fun_induction splitAtClosing? depth quote s generalizing a b with
  | case1 | case2 => cases h
  | case7 => cases h; rfl
  | case3 _ _ _ _ ih | case4 _ _ _ _ _ _ ih | case5 _ _ _ _ ih | case6 _ _ _ ih
  | case8 _ _ _ _ _ ih | case9 _ _ _ _ _ _ ih =>
    obtain ⟨⟨a', b'⟩, h', heq⟩ := Option.map_eq_some_iff.1 h
    cases heq
    simp [ih _ _ h']

/-- An argument list is a front part of the text. -/
theorem splitArguments?_append {s a b : List Char} (h : splitArguments? s = some (a, b)) :
    a ++ b = s :=
  splitAtClosing?_append 0 none s a b h

/-- The characters of annotation names. -/
def isAnnotationNameChar (c : Char) : Bool :=
  Unicode.isAlphanumeric c || c == '_' || c == '$' || c == '.'

/-- What follows the argument list in front of a text, if there is one, or else the text. -/
def afterArguments? (s : List Char) : Option (List Char) :=
  if ['('].isPrefixOf s then (splitArguments? s).map Prod.snd else some s

/-- What follows the annotation in front of a text, white space after it dropped. -/
def afterAnnotation? : List Char → Option (List Char)
  | '@' :: rest =>
    if (rest.takeWhile isAnnotationNameChar).isEmpty then none
    else (afterArguments? (Text.trimStart (rest.dropWhile isAnnotationNameChar))).map Text.trimStart
  | _ => none

/-- An argument list takes nothing but text away. -/
theorem afterArguments?_length_le {s t : List Char} (h : afterArguments? s = some t) :
    t.length ≤ s.length := by
  unfold afterArguments? at h
  split at h
  · obtain ⟨⟨a, b⟩, hab, rfl⟩ := Option.map_eq_some_iff.1 h
    have hlen := congrArg List.length (splitArguments?_append hab)
    rw [List.length_append] at hlen
    show b.length ≤ s.length
    omega
  · cases h
    exact Nat.le_refl _

/-- An annotation takes up some of the text. -/
theorem afterAnnotation?_length {s t : List Char} (h : afterAnnotation? s = some t) :
    t.length < s.length := by
  unfold afterAnnotation? at h
  split at h
  · next rest =>
    split at h
    · cases h
    · obtain ⟨u, hu, rfl⟩ := Option.map_eq_some_iff.1 h
      have h1 := (List.dropWhile_sublist Text.isBlank (l := u)).length_le
      have h2 := afterArguments?_length_le hu
      have h3 := (List.dropWhile_sublist Text.isBlank
        (l := rest.dropWhile isAnnotationNameChar)).length_le
      have h4 := (List.dropWhile_sublist isAnnotationNameChar (l := rest)).length_le
      unfold Text.trimStart at h2 ⊢
      rw [List.length_cons]
      omega
  · cases h

/-- A text without the annotations in front of it. -/
def dropAnnotations (s : List Char) : List Char :=
  match _h : afterAnnotation? s with
  | some t => dropAnnotations t
  | none => s
  termination_by s.length
  decreasing_by exact afterAnnotation?_length _h

/-- Code without the annotations in front of it. The declaration of an annotation type is no
annotation. -/
def withoutAnnotations (code : List Char) : List Char :=
  if "@interface".toList.isPrefixOf code then code else dropAnnotations code

end QualityGate
