import QualityGate.Proofs.Declaration.Reading
import Mathlib.Tactic

/-!
Members as they are written. A written member has an access modifier, modifiers, type parameters, a
type and a name, of which all but the name may be missing.

* `WrittenMember.text`: the text of a member up to its parameter list.
* `WrittenMember.declaration?`: what the member declares.
* `WrittenType.WellFormed.mem_typeName`: a written type can be read.
-/

namespace QualityGate

open Text (Reader isBlank)
open Text.Reader

/-! ### Written members -/

/-- A type as it is written. -/
structure WrittenType where
  /-- The qualified name. -/
  name : List Char
  /-- What stands between the angle brackets, if there are any. -/
  arguments : Option (List Char)
  /-- For each pair of square brackets the white space before it and the white space in it. -/
  arrays : List (List Char × List Char)
  deriving DecidableEq, Repr

namespace WrittenType

/-- Angle brackets around a text. -/
def bracketed (inside : List Char) : List Char := '<' :: (inside ++ ['>'])

/-- What follows the name of a type. -/
def suffix (t : WrittenType) : List Char :=
  (t.arguments.map bracketed).getD [] ++ t.arrays.flatMap fun b => b.1 ++ '[' :: (b.2 ++ [']'])

/-- The text of a type. -/
def text (t : WrittenType) : List Char := t.name ++ t.suffix

/-- The parts of a type are what they stand for. -/
structure WellFormed (t : WrittenType) : Prop where
  name_ne : t.name ≠ []
  name_head : ∀ c ∈ t.name.head?, isNameChar c = true
  name_chars : ∀ c ∈ t.name, isQualifiedChar c = true
  arguments : ∀ a ∈ t.arguments, '(' ∉ a ∧ ')' ∉ a
  arrays : ∀ b ∈ t.arrays, (∀ c ∈ b.1, isBlank c = true) ∧ ∀ c ∈ b.2, isBlank c = true

end WrittenType

/-- A member as it is written, up to its parameter list. Each part comes with the white space after
it. -/
structure WrittenMember where
  visibility : Option (Visibility × List Char)
  modifiers : List (List Char × List Char)
  /-- What stands between the angle brackets of the type parameters, and white space. -/
  typeParameters : Option (List Char × List Char)
  type : Option (WrittenType × List Char)
  name : List Char
  /-- The white space between the name and the parameter list. -/
  gap : List Char
  deriving DecidableEq, Repr

/-- No closing angle bracket in the text has a name after it. In a list of type parameters a comma,
an ampersand, a dot or another bracket follows what a bracket closes. -/
def NoNameAfterBracket : List Char → Prop
  | [] => True
  | c :: rest => (c = '>' → ∀ d ∈ (Text.trimStart rest).head?, isNameChar d = false) ∧
      NoNameAfterBracket rest

instance decidableNoNameAfterBracket : DecidablePred NoNameAfterBracket
  | [] => inferInstanceAs (Decidable True)
  | c :: rest =>
    have := decidableNoNameAfterBracket rest
    have : Decidable (∀ d ∈ (Text.trimStart rest).head?, isNameChar d = false) :=
      Option.decidableForallMem _
    inferInstanceAs (Decidable ((c = '>' → ∀ d ∈ (Text.trimStart rest).head?, isNameChar d = false) ∧
      NoNameAfterBracket rest))

/-- The words that can stand in front of the type and the name of a member. -/
def leadingWords : List (List Char) :=
  (Visibility.modifiers.map Visibility.name ++ memberModifiers).map String.toList

namespace WrittenMember

/-- The type and the name. -/
def core (m : WrittenMember) : List Char :=
  (m.type.map fun t => t.1.text ++ t.2).getD [] ++ (m.name ++ m.gap)

/-- All from the type parameters on. -/
def tail (m : WrittenMember) : List Char :=
  (m.typeParameters.map fun p => WrittenType.bracketed p.1 ++ p.2).getD [] ++ m.core

/-- The text of a member up to its parameter list. -/
def text (m : WrittenMember) : List Char :=
  (m.visibility.map fun v => v.1.name.toList ++ v.2).getD [] ++
    ((m.modifiers.flatMap fun w => w.1 ++ w.2) ++ m.tail)

/-- The parts of a member are what they stand for. -/
structure WellFormed (m : WrittenMember) : Prop where
  visibility : ∀ v ∈ m.visibility, v.1 ∈ Visibility.modifiers ∧ IsGap v.2
  modifiers : ∀ w ∈ m.modifiers, w.1 ∈ memberModifiers.map String.toList ∧ IsGap w.2
  typeParameters : ∀ p ∈ m.typeParameters, ('(' ∉ p.1 ∧ ')' ∉ p.1) ∧ ∀ c ∈ p.2, isBlank c = true
  type : ∀ t ∈ m.type, t.1.WellFormed ∧ IsGap t.2 ∧ t.1.text ∉ leadingWords
  name_ne : m.name ≠ []
  name_head : ∀ c ∈ m.name.head?, isNameStart c = true
  name_chars : ∀ c ∈ m.name, isNameChar c = true
  name_word : m.name ∉ leadingWords
  gap : ∀ c ∈ m.gap, isBlank c = true

/-- If there is no type, the type parameters show by themselves where they end. Otherwise the text
can also be that of a member with a type: in `<a> b<x> c` the brackets can stand around `a` or
around `a> b<x`. -/
def Unambiguous (m : WrittenMember) : Prop :=
  m.type = none → ∀ p ∈ m.typeParameters, NoNameAfterBracket p.1

/-- The first word, the type and the name of a member are none of the given words. -/
structure Avoids (m : WrittenMember) (words : List String) : Prop where
  first : (m.text ++ ['(']).takeWhile isLeadingWordChar ∉ words.map String.toList
  type : ∀ t ∈ m.type, t.1.text ∉ words.map String.toList
  name : m.name ∉ words.map String.toList

/-- What a member declares: a method if it has a type, else a constructor if it has an access
modifier. -/
def declaration? (m : WrittenMember) : Option Declaration :=
  match m.type, m.visibility with
  | some _, v => some ⟨m.name, (v.map Prod.fst).getD .package, .method⟩
  | none, some v => some ⟨m.name, v.1, .constructor⟩
  | none, none => none

end WrittenMember

/-! ### Where nothing can be read -/

/-- A member starts with a name from its type on. -/
lemma typedMember_eq_nil (v : Option Visibility) {c : Char} (hc : isNameChar c = false)
    (s : List Char) : typedMember v (c :: s) = [] := by
  have hstart : isNameStart c = false := by
    cases h : isNameStart c with
    | false => rfl
    | true => rw [isNameChar_of_isNameStart h] at hc; cases hc
  simp [typedMember, typePart, typeName, namedMember, namePart, Text.Reader.optional, orElse, andThen, map,
    char,
    value, hc, hstart]

/-- Type parameters start with an angle bracket. -/
lemma parametrizedMember_of_ne (v : Option Visibility) {s : List Char}
    (hs : ∀ c ∈ s.head?, c ≠ '<') : parametrizedMember v s = typedMember v s := by
  cases s with
  | nil => simp [parametrizedMember, typeParametersPart, angle, Text.Reader.optional, orElse, andThen, map, char,
      value]
  | cons c s =>
      have hc : c ≠ '<' := hs c rfl
      simp [parametrizedMember, typeParametersPart, angle, Text.Reader.optional, orElse, andThen, map, char,
        value, hc]

/-- A square bracket starts no member. -/
lemma modifiedMember_bracket (v : Option Visibility) (s : List Char) :
    modifiedMember v ('[' :: s) = [] := by
  have hword : ∀ w ∈ memberModifiers.map String.toList, ∀ c ∈ w.head?, c ≠ '[' := by decide
  have hne : ∀ w ∈ memberModifiers.map String.toList, w ≠ [] := by decide
  have hnone : parametrizedMember v ('[' :: s) = [] := by
    rw [parametrizedMember_of_ne v (by simp), typedMember_eq_nil v (by decide)]
  refine (andThen_many_of_forall fun w hw => ?_).trans hnone
  obtain ⟨hmem, hspaced⟩ := (mem_modifier (by decide)).1 hw
  obtain ⟨gap, -, heq⟩ := hspaced.exists_gap
  obtain ⟨c, u, hcu⟩ := List.exists_cons_of_ne_nil (hne _ hmem)
  rw [hcu] at heq
  have hfirst := hword _ hmem c (by rw [hcu]; rfl)
  exact absurd (List.cons.inj heq).1.symm hfirst

/-! ### Reading a written type -/

/-- The readings up to a closing angle bracket: those that close earlier, and then the one that
closes at the given place. -/
lemma exists_closeAngle {inside : List Char} (hinside : '(' ∉ inside ∧ ')' ∉ inside)
    (s : List Char) :
    ∃ pre post, closeAngle (inside ++ '>' :: s) = pre ++ (inside ++ ['>'], s) :: post ∧
      ∀ w ∈ pre, ∃ a b, inside = a ++ '>' :: b ∧ w.2 = b ++ '>' :: s := by
  induction inside with
  | nil => exact ⟨[], _, rfl, by simp⟩
  | cons c inside ih =>
      obtain ⟨hopen, hclose⟩ := hinside
      rw [List.mem_cons, not_or] at hopen hclose
      obtain ⟨pre, post, hread, hpre⟩ := ih ⟨hopen.2, hclose.2⟩
      have hparen : ¬ (c = '(' ∨ c = ')') := not_or.2 ⟨fun h => hopen.1 h.symm, fun h => hclose.1 h.symm⟩
      refine ⟨(if c = '>' then [(['>'], inside ++ '>' :: s)] else []) ++
        pre.map fun w => (c :: w.1, w.2), post.map fun w => (c :: w.1, w.2), ?_, ?_⟩
      · rw [List.cons_append, closeAngle, if_neg hparen, hread, List.map_append, List.map_cons,
          List.append_assoc]
        rfl
      · intro w hw
        rcases List.mem_append.1 hw with hw | hw
        · split at hw
          · next hc =>
              cases List.mem_singleton.1 hw
              exact ⟨[], inside, by rw [hc]; rfl, rfl⟩
          · cases hw
        · obtain ⟨x, hx, rfl⟩ := List.mem_map.1 hw
          obtain ⟨a, b, rfl, hb⟩ := hpre x hx
          exact ⟨c :: a, b, rfl, hb⟩

lemma mem_angle {inside : List Char} (hinside : '(' ∉ inside ∧ ')' ∉ inside) (s : List Char) :
    (WrittenType.bracketed inside, s) ∈ angle (WrittenType.bracketed inside ++ s) := by
  obtain ⟨pre, post, hread, -⟩ := exists_closeAngle hinside s
  have hbracket : WrittenType.bracketed inside ++ s = '<' :: (inside ++ '>' :: s) := by
    simp [WrittenType.bracketed]
  rw [hbracket]
  refine mem_andThen.2 ⟨'<', inside ++ '>' :: s, by simp [char], List.mem_map.2 ⟨(inside ++ ['>'], s), ?_, rfl⟩⟩
  rw [hread]
  simp

/-- Pairs of square brackets are read as often as they are there. -/
lemma mem_many_arrayBrackets {bs : List (List Char × List Char)}
    (hbs : ∀ b ∈ bs, (∀ c ∈ b.1, isBlank c = true) ∧ ∀ c ∈ b.2, isBlank c = true) (s : List Char) :
    (bs.map fun b => b.1 ++ '[' :: (b.2 ++ [']']), s) ∈
      many arrayBrackets ((bs.flatMap fun b => b.1 ++ '[' :: (b.2 ++ [']'])) ++ s) := by
  induction bs with
  | nil =>
      rw [many]
      exact List.mem_append_right _ (List.mem_singleton_self _)
  | cons b bs ih =>
      obtain ⟨⟨hbefore, hin⟩, hbs⟩ := List.forall_mem_cons.1 hbs
      have ih := ih hbs
      generalize hrest : (bs.flatMap fun b => b.1 ++ '[' :: (b.2 ++ [']'])) ++ s = rest at ih
      have htext : ((b :: bs).flatMap fun b => b.1 ++ '[' :: (b.2 ++ [']'])) ++ s =
          b.1 ++ ('[' :: (b.2 ++ (']' :: rest))) := by
        rw [← hrest]
        simp
      have hfirst := takeWhile_append_of_head (v := '[' :: (b.2 ++ (']' :: rest))) hbefore
        (by simp; decide)
      have hsecond := takeWhile_append_of_head (v := ']' :: rest) hin (by simp; decide)
      have hread : (b.1 ++ '[' :: (b.2 ++ [']']), rest) ∈
          arrayBrackets (b.1 ++ ('[' :: (b.2 ++ (']' :: rest)))) := by
        simp [arrayBrackets, andThen, blanks, run, char, map, hfirst, hsecond]
      rw [htext, many]
      refine List.mem_append_left _ (List.mem_flatMap.2 ⟨_, hread, ?_⟩)
      rw [dif_pos (by simp; omega)]
      exact List.mem_map.2 ⟨_, ih, rfl⟩

/-- The last character of a type with brackets is a closing one. -/
lemma WrittenType.getLast?_text (t : WrittenType) : t.text = t.name ∨
    ∃ c, t.text.getLast? = some c ∧ (c = '>' ∨ c = ']') := by
  rw [text, suffix]
  rcases List.eq_nil_or_concat t.arrays with harr | ⟨bs, b, harr⟩
  · cases harg : t.arguments with
    | none => exact .inl (by simp [harr])
    | some a => exact .inr ⟨'>', by simp [harr, bracketed, List.getLast?_cons], .inl rfl⟩
  · exact .inr ⟨']', by simp [harr, List.getLast?_append, List.getLast?_cons], .inr rfl⟩

namespace WrittenType.WellFormed

variable {t : WrittenType} (h : t.WellFormed)

include h

/-- What follows the name of a type does not continue it. -/
lemma head_suffix {s : List Char} (hs : ∀ c ∈ s.head?, isBlank c = true) :
    ∀ c ∈ (t.suffix ++ s).head?, isQualifiedChar c = false := by
  intro c hc
  rw [suffix] at hc
  cases harg : t.arguments with
  | some a =>
      rw [harg] at hc
      cases hc
      decide
  | none =>
      rw [harg] at hc
      cases harr : t.arrays with
      | nil =>
          rw [harr] at hc
          exact isQualifiedChar_of_isBlank (hs c hc)
      | cons b bs =>
          rw [harr, Option.map_none, Option.getD_none, List.nil_append, List.flatMap_cons,
            List.append_assoc, List.append_assoc] at hc
          have hb := (h.arrays b (by rw [harr]; exact List.mem_cons_self)).1
          exact forall_head?_append_cons (fun c hc => isQualifiedChar_of_isBlank (hb c hc))
            (by decide) _ c hc

/-- A written type can be read in front of white space. -/
lemma mem_typeName {s : List Char} (hs : ∀ c ∈ s.head?, isBlank c = true) :
    (t.text, s) ∈ typeName (t.text ++ s) := by
  obtain ⟨c, cs, hname⟩ := List.exists_cons_of_ne_nil h.name_ne
  have hc : isNameChar c = true := h.name_head c (by rw [hname]; rfl)
  have hcs : ∀ d ∈ cs, isQualifiedChar d = true := fun d hd =>
    h.name_chars d (by rw [hname]; exact List.mem_cons_of_mem c hd)
  obtain ⟨htake, hdrop⟩ := takeWhile_append_of_head hcs (h.head_suffix hs)
  have hangle : (t.arguments.map bracketed,
      (t.arrays.flatMap fun b => b.1 ++ '[' :: (b.2 ++ [']'])) ++ s) ∈
        Text.Reader.optional angle (t.suffix ++ s) := by
    rw [suffix, List.append_assoc]
    cases harg : t.arguments with
    | none => exact mem_orElse.2 (.inr (mem_value.2 ⟨rfl, rfl⟩))
    | some a =>
        have ha := mem_angle (h.arguments a harg)
          ((t.arrays.flatMap fun b => b.1 ++ '[' :: (b.2 ++ [']'])) ++ s)
        exact mem_orElse.2 (.inl (List.mem_map.2 ⟨_, ha, rfl⟩))
  have hread : (c :: cs ++ (t.arguments.map bracketed).getD [] ++
      (t.arrays.map fun b => b.1 ++ '[' :: (b.2 ++ [']'])).flatten, s) ∈
        typeName (c :: (cs ++ (t.suffix ++ s))) := by
    refine mem_andThen.2 ⟨c, cs ++ (t.suffix ++ s), by simp [char, hc], ?_⟩
    refine mem_andThen.2 ⟨cs, t.suffix ++ s, by simp [run, htake, hdrop], ?_⟩
    refine mem_andThen.2 ⟨_, _, hangle, List.mem_map.2 ⟨_, mem_many_arrayBrackets h.arrays s, rfl⟩⟩
  have htext : t.text = c :: cs ++ (t.arguments.map bracketed).getD [] ++
      (t.arrays.map fun b => b.1 ++ '[' :: (b.2 ++ [']'])).flatten := by
    rw [text, suffix, hname, List.flatMap_def, List.append_assoc]
  have hline : t.text ++ s = c :: (cs ++ (t.suffix ++ s)) := by
    rw [text, hname, List.append_assoc]
    rfl
  rw [hline, htext]
  exact hread

lemma paren_not_mem : '(' ∉ t.text := by
  have hname := not_mem_of_isQualifiedChar h.name_chars
  have harrays : '(' ∉ t.arrays.flatMap fun b => b.1 ++ '[' :: (b.2 ++ [']']) := by
    intro hmem
    obtain ⟨b, hb, hmem⟩ := List.mem_flatMap.1 hmem
    obtain ⟨hbefore, hin⟩ := h.arrays b hb
    simp [(apart_of_blank hbefore).paren_not_mem, (apart_of_blank hin).paren_not_mem] at hmem
  have hargs : '(' ∉ (t.arguments.map bracketed).getD [] := by
    cases harg : t.arguments with
    | none => simp
    | some a => simp [bracketed, (h.arguments a harg).1]
  rw [text, suffix]
  simp [hname, harrays, hargs]

/-- If a name stands at the place of a type, it is the type. -/
lemma eq_text_of_append {front front' word gap gap' : List Char} (hfront : Apart front)
    (hfront' : Apart front') (hword : word ≠ []) (hchars : ∀ c ∈ word, isQualifiedChar c = true)
    (hgap : IsGap gap) (hgap' : IsGap gap')
    (heq : front ++ (word ++ gap) = front' ++ (t.text ++ gap')) : word = t.text := by
  have hlast : (front ++ word).getLast? = some (word.getLast hword) := by
    rw [List.getLast?_append, List.getLast?_eq_some_getLast hword, Option.some_or]
  have hqualified := hchars _ (List.getLast_mem hword)
  have hcut {w : List Char} (hw : ∃ d, (front' ++ w).getLast? = some d ∧ isBlank d = false)
      (heq : front ++ (word ++ gap) = front' ++ (w ++ gap')) : front ++ word = front' ++ w := by
    obtain ⟨d, hd, hsolid⟩ := hw
    refine (append_inj_of_run (p := isBlank) (by simpa using heq) hgap.2 hgap'.2 ?_ ?_).1
    · rw [hlast]
      rintro x ⟨⟩
      exact isBlank_of_isQualifiedChar hqualified
    · rw [hd]
      rintro x ⟨⟩
      exact hsolid
  rcases t.getLast?_text with htext | ⟨d, hd, hbracket⟩
  · rw [htext] at heq ⊢
    refine (append_inj_of_run (hcut ⟨t.name.getLast h.name_ne, ?_, ?_⟩ heq) hchars h.name_chars
      hfront.last hfront'.last).2
    · rw [List.getLast?_append, List.getLast?_eq_some_getLast h.name_ne, Option.some_or]
    · exact isBlank_of_isQualifiedChar (h.name_chars _ (List.getLast_mem h.name_ne))
  · -- a closing bracket is no part of a name
    have hend : (front' ++ t.text).getLast? = some d := by
      rw [List.getLast?_append, hd, Option.some_or]
    rw [← hcut ⟨d, hend, by rcases hbracket with rfl | rfl <;> decide⟩ heq, hlast,
      Option.some.injEq] at hend
    rw [hend] at hqualified
    rcases hbracket with rfl | rfl <;> exact absurd hqualified (by decide)

end WrittenType.WellFormed

end QualityGate
