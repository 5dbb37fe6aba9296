import QualityGate.Proofs.Declaration.Annotation
import QualityGate.Proofs.Declaration.Written
import Mathlib.Tactic

/-!
Members are recognised. Many readings of a line can have the shape of a member, so the proof follows
the preferred one.

* `prefers_memberShape`: the preferred reading of a written member has its access modifier, and a
  type exactly if one is written.
* `memberDeclaration?_written`: **every written member is recognised**, unless a word that only ever
  starts statements is in the way.
-/

namespace QualityGate

open Text (Reader isBlank)
open Text.Reader

lemma IsName.isBlank_last {n : List Char} (hn : IsName n) (s : List Char) :
    ∀ c ∈ (s ++ n).getLast?, isBlank c = false := by
  intro c hc
  rw [List.getLast?_append, List.getLast?_eq_some_getLast hn.1] at hc
  cases hc
  exact isBlank_of_isQualifiedChar
    (isQualifiedChar_of_isNameChar (hn.2 _ (List.getLast_mem hn.1)))

lemma IsName.paren_not_mem {n : List Char} (hn : IsName n) : '(' ∉ n :=
  not_mem_of_isQualifiedChar fun c hc => isQualifiedChar_of_isNameChar (hn.2 c hc)

/-! ### The preferred reading -/

/-- Readings that all give the same value. -/
lemma eq_cons_of_forall_mem {α : Type} {l : List α} {a : α} (ha : a ∈ l) (hall : ∀ b ∈ l, b = a) :
    ∃ rest, l = a :: rest := by
  obtain ⟨b, rest, rfl⟩ := List.exists_cons_of_ne_nil (List.ne_nil_of_mem ha)
  exact ⟨rest, by rw [hall b List.mem_cons_self]⟩

namespace WrittenMember

variable {m : WrittenMember}

lemma core_eq_of_none (hn : m.type = none) : m.core = m.name ++ m.gap := by
  rw [core, hn]
  rfl

lemma core_eq_of_some {t : WrittenType × List Char} (ht : m.type = some t) :
    m.core = t.1.text ++ (t.2 ++ (m.name ++ m.gap)) := by
  rw [core, ht]
  exact List.append_assoc _ _ _

namespace WellFormed

variable (h : m.WellFormed)

include h

lemma isName : IsName m.name := ⟨h.name_ne, h.name_chars⟩

/-- The name and a parenthesis can be read in one way. -/
lemma namedMember_eq (v : Option Visibility) (t : Option (List Char)) (rest : List Char) :
    namedMember v t (m.name ++ (m.gap ++ '(' :: rest)) = [(⟨v, t, m.name⟩, rest)] := by
  obtain ⟨c, cs, hname⟩ := List.exists_cons_of_ne_nil h.name_ne
  have hc : isNameStart c = true := h.name_head c (by rw [hname]; rfl)
  have hcs : ∀ d ∈ cs, isNameChar d = true := fun d hd =>
    h.name_chars d (by rw [hname]; exact List.mem_cons_of_mem c hd)
  have hgap := takeWhile_append_of_head (v := '(' :: rest) h.gap (by simp; decide)
  have hrun := takeWhile_append_of_head (v := m.gap ++ '(' :: rest) hcs (by
    intro d hd
    have hd' : isQualifiedChar d = false := by
      cases hgap : m.gap with
      | nil => rw [hgap] at hd; cases hd; decide
      | cons e es =>
          rw [hgap] at hd
          cases hd
          exact isQualifiedChar_of_isBlank (h.gap _ (by rw [hgap]; exact List.mem_cons_self))
    rw [isQualifiedChar, Bool.or_eq_false_iff] at hd'
    exact hd'.1)
  rw [hname]
  simp [namedMember, namePart, andThen, char, map, run, blanks, hc, hrun, hgap]

/-- Without a type, the name is not read as one. -/
lemma namedMember_eq_nil (hn : m.type = none) (v : Option Visibility) (rest : List Char) :
    ∀ w ∈ andThen typeName (fun t => map (fun _ => t) blanks1) (m.core ++ '(' :: rest),
      namedMember v (some w.1) w.2 = [] := by
  rintro ⟨t, s⟩ hw
  rw [List.eq_nil_iff_forall_not_mem]
  rintro ⟨x, u⟩ hx
  obtain ⟨named, ⟨-, -, hname, gap, hgap, rfl⟩, rfl⟩ := reads_namedMember v (some t) _ _ _ hx
  obtain ⟨typed, ⟨hparen, sep, hsep, rfl⟩, htext⟩ := reads_typePart _ _ _
    (mem_orElse.2 (.inl (List.mem_map.2 ⟨(t, _), hw, rfl⟩)))
  have hblank : '(' ∉ sep ++ (x.name ++ gap) := by
    simp [(apart_of_blank hsep.2).paren_not_mem, hname.paren_not_mem,
      (apart_of_blank hgap).paren_not_mem]
  have hcore : '(' ∉ m.name ++ m.gap := by
    simp [h.isName.paren_not_mem, (apart_of_blank h.gap).paren_not_mem]
  rw [core_eq_of_none hn] at htext
  have hline : m.name ++ m.gap = t ++ (sep ++ (x.name ++ gap)) :=
    (append_paren_inj hcore (by simpa [hparen] using hblank) (s := rest) (t := u)
      (by simpa using htext)).1
  -- the white space before the name that was read would have to be part of the written name
  have hname' : m.name = (t ++ sep) ++ x.name := by
    have hlast := h.isName.isBlank_last []
    rw [List.nil_append] at hlast
    exact (append_inj_of_run (by simpa using hline) h.gap hgap hlast (hname.isBlank_last _)).1
  obtain ⟨c, hc⟩ := List.exists_mem_of_ne_nil _ hsep.1
  have hmem : c ∈ m.name := by rw [hname']; simp [hc]
  have hchar := isBlank_of_isQualifiedChar (isQualifiedChar_of_isNameChar (h.name_chars c hmem))
  rw [hsep.2 c hc] at hchar
  cases hchar

/-- The first reading from the type on has a type exactly if one is written. -/
lemma prefers_typedMember (v : Option Visibility) (rest : List Char) :
    Prefers (typedMember v) (m.core ++ '(' :: rest)
      fun x => x.visibility = v ∧ x.type.isSome = m.type.isSome := by
  cases htype : m.type with
  | none =>
      refine prefers_optional_none (h.namedMember_eq_nil htype v rest) ?_
      refine ⟨(⟨v, none, m.name⟩, rest), ?_, rfl, rfl⟩
      have hline : m.core ++ '(' :: rest = m.name ++ (m.gap ++ '(' :: rest) := by
        rw [core_eq_of_none htype, List.append_assoc]
      rw [hline, h.namedMember_eq]
      rfl
  | some t =>
      obtain ⟨hwell, hgap, -⟩ := h.type t htype
      have hline : m.core ++ '(' :: rest =
          t.1.text ++ (t.2 ++ (m.name ++ (m.gap ++ '(' :: rest))) := by
        rw [core_eq_of_some htype]
        simp
      have hblank : ∀ c ∈ (t.2 ++ (m.name ++ (m.gap ++ '(' :: rest))).head?, isBlank c = true :=
        forall_head?_append hgap.1 hgap.2 _
      have hname : ∀ c ∈ (m.name ++ (m.gap ++ '(' :: rest)).head?, isBlank c = false :=
        forall_head?_append h.name_ne (fun c hc => isBlank_of_isQualifiedChar
          (isQualifiedChar_of_isNameChar (h.name_chars c hc))) _
      have hread : (⟨v, some t.1.text, m.name⟩, rest) ∈
          andThen (andThen typeName fun t => map (fun _ => t) blanks1)
            (fun t => namedMember v (some t)) (m.core ++ '(' :: rest) := by
        rw [hline]
        refine mem_andThen.2 ⟨t.1.text, m.name ++ (m.gap ++ '(' :: rest), ?_, ?_⟩
        · refine mem_andThen.2 ⟨_, _, hwell.mem_typeName hblank, List.mem_map.2 ⟨(t.2, _), ?_, rfl⟩⟩
          exact mem_blanks1.2 ⟨hgap, hname, rfl⟩
        · rw [h.namedMember_eq]
          exact List.mem_singleton_self _
      obtain ⟨⟨x, u⟩, more, hcons⟩ := List.exists_cons_of_ne_nil (List.ne_nil_of_mem hread)
      refine prefers_optional_some ⟨(x, u), by rw [hcons]; rfl, ?_⟩
      have hx : (x, u) ∈ andThen (andThen typeName fun t => map (fun _ => t) blanks1)
            (fun t => namedMember v (some t)) (m.core ++ '(' :: rest) := by
        rw [hcons]
        exact List.mem_cons_self
      obtain ⟨s, y, -, hy⟩ := mem_andThen.1 hx
      obtain ⟨w, ⟨hv, ht, -⟩, -⟩ := reads_namedMember v (some s) _ _ _ hy
      exact ⟨hv, by rw [ht]; rfl⟩

/-- The core starts with a name. -/
lemma exists_core_eq_cons : ∃ c s, m.core = c :: s ∧ isNameChar c = true := by
  cases htype : m.type with
  | none =>
      obtain ⟨c, s, hcs⟩ := List.exists_cons_of_ne_nil h.name_ne
      refine ⟨c, s ++ m.gap, by rw [core_eq_of_none htype, hcs]; rfl, ?_⟩
      exact h.name_chars c (by rw [hcs]; exact List.mem_cons_self)
  | some t =>
      have hwell := (h.type t htype).1
      obtain ⟨c, s, hcs⟩ := List.exists_cons_of_ne_nil hwell.name_ne
      refine ⟨c, _, by rw [core_eq_of_some htype, WrittenType.text, hcs]; rfl, ?_⟩
      exact hwell.name_head c (by rw [hcs]; rfl)

lemma paren_not_mem_core : '(' ∉ m.core := by
  have hname := h.isName.paren_not_mem
  have hgap := (apart_of_blank h.gap).paren_not_mem
  cases htype : m.type with
  | none => rw [core_eq_of_none htype]; simp [hname, hgap]
  | some t =>
      obtain ⟨hwell, hsep, -⟩ := h.type t htype
      rw [core_eq_of_some htype]
      simp [hname, hgap, hwell.paren_not_mem, (apart_of_blank hsep.2).paren_not_mem]

/-- A reading that closes the type parameters too early has a type, and there is none if no type is
written. -/
lemma isSome_of_mem_typedMember (hm : m.Unambiguous) {v : Option Visibility}
    {p : List Char × List Char}
    (hp : p ∈ m.typeParameters) {a b rest u : List Char} {x : MemberShape}
    (hinside : p.1 = a ++ '>' :: b)
    (hx : (x, u) ∈ typedMember v
      (Text.trimStart (b ++ '>' :: (p.2 ++ (m.core ++ '(' :: rest))))) :
    x.visibility = v ∧ x.type.isSome = m.type.isSome := by
  obtain ⟨⟨hopen, -⟩, hblank⟩ := h.typeParameters p hp
  obtain ⟨w, ⟨hv, typed, named, htyped, ⟨hname, gap, hgap, rfl⟩, rfl⟩, htext⟩ :=
    reads_typedMember v _ _ _ hx
  rw [trimStart_append_cons (by decide)] at htext hx
  refine ⟨hv, ?_⟩
  cases htype : m.type with
  | none =>
      have hnested := hm htype p hp
      rw [hinside] at hnested
      have hhead : ∀ d ∈ (Text.trimStart b).head?, isNameChar d = false := by
        clear hinside
        induction a with
        | nil => exact hnested.1 rfl
        | cons c a ih => exact ih hnested.2
      exfalso
      cases htrim : Text.trimStart b with
      | nil =>
          rw [htrim, List.nil_append, typedMember_eq_nil v (by decide)] at hx
          cases hx
      | cons d ds =>
          rw [htrim, List.cons_append, typedMember_eq_nil v (hhead d (by rw [htrim]; rfl))] at hx
          cases hx
  | some t =>
      cases hxtype : x.type with
      | some y => rfl
      | none =>
          -- without a type there is no place for the bracket that closes the type parameters
          exfalso
          rw [hxtype] at htyped
          cases htyped
          have hb : '(' ∉ Text.trimStart b ++ '>' :: (p.2 ++ m.core) := by
            have hb' : '(' ∉ b := fun hmem => hopen (by rw [hinside]; simp [hmem])
            have htrim : '(' ∉ Text.trimStart b :=
              fun hmem => hb' ((List.dropWhile_sublist isBlank).mem hmem)
            simp [htrim, (apart_of_blank hblank).paren_not_mem, h.paren_not_mem_core]
          have hline : Text.trimStart b ++ '>' :: (p.2 ++ m.core) = x.name ++ gap := by
            refine (append_paren_inj hb ?_ (s := rest) (t := u) (by simpa using htext)).1
            simp [hname.paren_not_mem, (apart_of_blank hgap).paren_not_mem]
          have hmem : '>' ∈ x.name ++ gap := by rw [← hline]; simp
          rcases List.mem_append.1 hmem with hmem | hmem
          · exact absurd (hname.2 _ hmem) (by decide)
          · exact absurd (hgap _ hmem) (by decide)

/-- The first reading from the type parameters on has a type exactly if one is written. -/
lemma prefers_parametrizedMember (hm : m.Unambiguous) (v : Option Visibility) (rest : List Char) :
    Prefers (parametrizedMember v) (m.tail ++ '(' :: rest)
      fun x => x.visibility = v ∧ x.type.isSome = m.type.isSome := by
  obtain ⟨c, s, hcore, hc⟩ := h.exists_core_eq_cons
  have htyped := h.prefers_typedMember v rest
  cases hparams : m.typeParameters with
  | none =>
      have hne : ∀ d ∈ (m.core ++ '(' :: rest).head?, d ≠ '<' := by
        rw [hcore]
        rintro d hd rfl
        cases hd
        exact absurd hc (by decide)
      have htail : m.tail = m.core := by rw [tail, hparams]; rfl
      rwa [htail, Prefers, parametrizedMember_of_ne v hne]
  | some p =>
      obtain ⟨hparens, hblank⟩ := h.typeParameters p hparams
      obtain ⟨pre, post, hclose, hpre⟩ :=
        exists_closeAngle hparens (p.2 ++ (m.core ++ '(' :: rest))
      have hline : m.tail ++ '(' :: rest =
          '<' :: (p.1 ++ '>' :: (p.2 ++ (m.core ++ '(' :: rest))) := by
        rw [tail, hparams]
        simp [WrittenType.bracketed]
      have htrim : Text.trimStart (p.2 ++ (m.core ++ '(' :: rest)) = m.core ++ '(' :: rest := by
        rw [trimStart_blank_append hblank, hcore, List.cons_append]
        exact Text.trimStart_cons_of_not_blank
          (isBlank_of_isQualifiedChar (isQualifiedChar_of_isNameChar hc)) _
      have hread (s : List Char) : andThen angle (fun a => map (fun _ => a) blanks) ('<' :: s) =
          (closeAngle s).map fun w => ('<' :: w.1, Text.trimStart w.2) := by
        simp [andThen, angle, char, map, blanks, run, Text.trimStart, List.flatMap_map,
          ← List.map_eq_flatMap]
      have hwords : andThen angle (fun a => map (fun _ => a) blanks) (m.tail ++ '(' :: rest) =
          (pre.map fun w => ('<' :: w.1, Text.trimStart w.2)) ++
            ('<' :: (p.1 ++ ['>']), m.core ++ '(' :: rest) ::
              post.map fun w => ('<' :: w.1, Text.trimStart w.2) := by
        rw [hline, hread, hclose, List.map_append, List.map_cons, htrim]
      refine prefers_optional_some (prefers_andThen hwords ?_ htyped)
      intro w hw y hy
      obtain ⟨x, hx, rfl⟩ := List.mem_map.1 hw
      obtain ⟨a, b, hinside, hb⟩ := hpre x hx
      rw [hb] at hy
      exact h.isSome_of_mem_typedMember hm hparams hinside hy

/-- A word with white space after it in front of the core leaves a square bracket. The name is no
such word, and a type that starts with one has array brackets after it. -/
lemma exists_bracket_of_spacedWord {w t rest : List Char} (hw : w ∈ leadingWords)
    (hspaced : SpacedWord w (m.core ++ '(' :: rest) t) : ∃ u, t = '[' :: u := by
  have hwords : ∀ w ∈ leadingWords, ∀ c ∈ w, isQualifiedChar c = true := by decide
  obtain ⟨gap, ⟨hne, hblank⟩, hrun⟩ := hspaced.exists_run (hwords w hw)
    fun c => isQualifiedChar_of_isBlank
  cases htype : m.type with
  | none =>
      exfalso
      have hparen : ∀ c ∈ (m.gap ++ '(' :: rest).head?, isQualifiedChar c = false :=
        forall_head?_append_cons (fun c hc => isQualifiedChar_of_isBlank (h.gap c hc)) (by decide) _
      have hname := takeWhile_append_of_head
        (fun c hc => isQualifiedChar_of_isNameChar (h.name_chars c hc)) hparen
      rw [core_eq_of_none htype, List.append_assoc, hname.1] at hrun
      exact h.name_word (hrun.1 ▸ hw)
  | some y =>
      obtain ⟨hwell, hsep, hword⟩ := h.type y htype
      have hblank' : ∀ c ∈ (y.2 ++ (m.name ++ (m.gap ++ '(' :: rest))).head?, isBlank c = true :=
        forall_head?_append hsep.1 hsep.2 _
      have hcore : m.core ++ '(' :: rest =
          y.1.name ++ (y.1.suffix ++ (y.2 ++ (m.name ++ (m.gap ++ '(' :: rest)))) := by
        rw [core_eq_of_some htype, WrittenType.text]
        simp
      have hname := takeWhile_append_of_head hwell.name_chars (hwell.head_suffix hblank')
      rw [hcore, hname.1, hname.2] at hrun
      obtain ⟨hyw, hafter⟩ := hrun
      rw [WrittenType.suffix] at hafter
      cases harg : y.1.arguments with
      | some a =>
          -- an angle bracket is no white space
          exfalso
          obtain ⟨d, ds, rfl⟩ := List.exists_cons_of_ne_nil hne
          rw [harg] at hafter
          have hd : '<' = d := (List.cons.inj hafter).1
          exact absurd (hblank d List.mem_cons_self) (by rw [← hd]; decide)
      | none =>
          cases harr : y.1.arrays with
          | nil =>
              refine absurd hw ?_
              rw [← hyw]
              simpa [WrittenType.text, WrittenType.suffix, harg, harr] using hword
          | cons b bs =>
              have hb := (hwell.arrays b (by rw [harr]; exact List.mem_cons_self)).1
              rw [harg, harr] at hafter
              have hbracket := takeWhile_append_of_head (p := isBlank) (u := b.1)
                (v := '[' :: (b.2 ++ ([']'] ++ ((bs.flatMap fun b => b.1 ++ '[' :: (b.2 ++ [']'])) ++
                  (y.2 ++ (m.name ++ (m.gap ++ '(' :: rest))))))) hb (by simp; decide)
              have hstop := takeWhile_append_of_head hblank hspaced.head
              rw [← hafter] at hstop
              refine ⟨_, hstop.2.symm.trans (Eq.trans ?_ hbracket.2)⟩
              simp

/-- A word with white space after it that stands in front of the type parameters or of what follows
them leads to no reading. -/
lemma modifiedMember_eq_nil {w t rest : List Char} (hw : w ∈ leadingWords)
    (hspaced : SpacedWord w (m.tail ++ '(' :: rest) t) (v : Option Visibility) :
    modifiedMember v t = [] := by
  cases hparams : m.typeParameters with
  | none =>
      have htail : m.tail = m.core := by rw [tail, hparams]; rfl
      rw [htail] at hspaced
      obtain ⟨u, rfl⟩ := h.exists_bracket_of_spacedWord hw hspaced
      exact modifiedMember_bracket v u
  | some p =>
      have hhead : ∀ w ∈ leadingWords, w ≠ [] ∧ ∀ c ∈ w.head?, c ≠ '<' := by decide
      obtain ⟨hne, hfirst⟩ := hhead w hw
      obtain ⟨c, s, rfl⟩ := List.exists_cons_of_ne_nil hne
      obtain ⟨gap, -, hline⟩ := hspaced.exists_gap
      rw [tail, hparams] at hline
      exact absurd (List.cons.inj hline).1.symm (hfirst c rfl)

/-- From the type parameters on a member starts with a name or an angle bracket. -/
lemma head_tail (rest : List Char) :
    ∀ c ∈ (m.tail ++ '(' :: rest).head?, isNameChar c = true ∨ c = '<' := by
  cases hparams : m.typeParameters with
  | none =>
      obtain ⟨c, s, hcore, hc⟩ := h.exists_core_eq_cons
      have htail : m.tail = m.core := by rw [tail, hparams]; rfl
      rw [htail, hcore]
      rintro d hd
      cases hd
      exact .inl hc
  | some p =>
      rw [tail, hparams]
      rintro d hd
      cases hd
      exact .inr rfl

lemma head_modifiers {ws : List (List Char × List Char)}
    (hws : ∀ w ∈ ws, w.1 ∈ memberModifiers.map String.toList ∧ IsGap w.2) (rest : List Char) :
    ∀ c ∈ ((ws.flatMap fun w => w.1 ++ w.2) ++ (m.tail ++ '(' :: rest)).head?,
      isNameChar c = true ∨ c = '<' := by
  cases ws with
  | nil => exact h.head_tail rest
  | cons w ws =>
      have hword : ∀ w ∈ memberModifiers.map String.toList,
          w ≠ [] ∧ ∀ c ∈ w, isNameChar c = true := by decide
      obtain ⟨hne, hchars⟩ := hword w.1 (hws w List.mem_cons_self).1
      rw [List.flatMap_cons, List.append_assoc, List.append_assoc]
      exact forall_head?_append hne (fun c hc => .inl (hchars c hc)) _

omit h in
lemma isBlank_of_start {c : Char} (hc : isNameChar c = true ∨ c = '<') : isBlank c = false := by
  rcases hc with hc | rfl
  · exact isBlank_of_isQualifiedChar (isQualifiedChar_of_isNameChar hc)
  · decide

/-- The first reading from the modifiers on has a type exactly if one is written. -/
lemma prefers_modifiedMember (hm : m.Unambiguous) (v : Option Visibility)
    {ws : List (List Char × List Char)}
    (hws : ∀ w ∈ ws, w.1 ∈ memberModifiers.map String.toList ∧ IsGap w.2) (rest : List Char) :
    Prefers (modifiedMember v) ((ws.flatMap fun w => w.1 ++ w.2) ++ (m.tail ++ '(' :: rest))
      fun x => x.visibility = v ∧ x.type.isSome = m.type.isSome := by
  have hleading : ∀ w ∈ memberModifiers.map String.toList, w ∈ leadingWords := by decide
  have hsolid : ∀ w ∈ memberModifiers.map String.toList, ∀ c ∈ w, isBlank c = false := by decide
  induction ws with
  | nil =>
      obtain ⟨x, hx, hQ⟩ := h.prefers_parametrizedMember hm v rest
      refine ⟨x, ?_, hQ⟩
      rw [List.flatMap_nil, List.nil_append, modifiedMember, modifiersPart, andThen_many_of_forall]
      · exact hx
      · intro w hw
        obtain ⟨hmem, hspaced⟩ := (mem_modifier (by decide)).1 hw
        exact h.modifiedMember_eq_nil (hleading _ hmem) hspaced v
  | cons w ws ih =>
      obtain ⟨⟨hw, hgap⟩, hws⟩ := List.forall_mem_cons.1 hws
      have hspaced : SpacedWord w.1
          (((w :: ws).flatMap fun w => w.1 ++ w.2) ++ (m.tail ++ '(' :: rest))
          ((ws.flatMap fun w => w.1 ++ w.2) ++ (m.tail ++ '(' :: rest)) :=
        ⟨hsolid _ hw, ⟨w.2, hgap, by simp⟩,
          fun c hc => isBlank_of_start (h.head_modifiers hws rest c hc)⟩
      obtain ⟨more, hread⟩ := eq_cons_of_forall_mem ((mem_modifier (by decide)).2 ⟨hw, hspaced⟩)
        fun b hb => by
          obtain ⟨hword, htext⟩ := SpacedWord.unique ((mem_modifier (by decide)).1 hb).2 hspaced
          exact Prod.ext hword htext
      refine prefers_many_cons hread ?_ (ih hws)
      have hlength := List.length_pos_iff.2 hgap.1
      simp only [List.flatMap_cons, List.length_append]
      omega

/-- **The preferred reading** of a written member has its access modifier, and a type exactly if one
is written. -/
theorem prefers_memberShape (hm : m.Unambiguous) (rest : List Char) :
    Prefers memberShape (m.text ++ '(' :: rest)
      fun x => x.visibility = m.visibility.map Prod.fst ∧ x.type.isSome = m.type.isSome := by
  have hleading : ∀ v ∈ Visibility.modifiers, v.name.toList ∈ leadingWords := by decide
  have hsolid : ∀ v ∈ Visibility.modifiers, ∀ c ∈ v.name.toList, isBlank c = false := by decide
  have hmodified (v : Option Visibility) := h.prefers_modifiedMember hm v h.modifiers rest
  rw [memberShape_eq, visibilityPart_eq]
  cases hvis : m.visibility with
  | none =>
      have hline : m.text ++ '(' :: rest =
          (m.modifiers.flatMap fun w => w.1 ++ w.2) ++ (m.tail ++ '(' :: rest) := by
        rw [text, hvis]
        simp
      rw [hline]
      refine prefers_optional_none (fun w hw => ?_) (hmodified none)
      obtain ⟨hv, hspaced⟩ := mem_visibilityWord.1 hw
      cases hws : m.modifiers with
      | nil =>
          rw [hws] at hspaced
          exact h.modifiedMember_eq_nil (hleading _ hv) hspaced (some w.1)
      | cons x ws =>
          -- the first modifier is read whole, and it is no access modifier
          exfalso
          have hmodifiers := h.modifiers
          rw [hws] at hmodifiers hspaced
          obtain ⟨⟨hx, hgap⟩, hrest⟩ := List.forall_mem_cons.1 hmodifiers
          have hother : ∀ w ∈ memberModifiers.map String.toList, (∀ c ∈ w, isBlank c = false) ∧
              ∀ v ∈ Visibility.modifiers, v.name.toList ≠ w := by decide
          obtain ⟨hxsolid, hne⟩ := hother _ hx
          have hmodifier : SpacedWord x.1
              (((x :: ws).flatMap fun w => w.1 ++ w.2) ++ (m.tail ++ '(' :: rest))
              ((ws.flatMap fun w => w.1 ++ w.2) ++ (m.tail ++ '(' :: rest)) :=
            ⟨hxsolid, ⟨x.2, hgap, by simp⟩,
              fun c hc => isBlank_of_start (h.head_modifiers hrest rest c hc)⟩
          exact hne _ hv (SpacedWord.unique hspaced hmodifier).1
  | some v =>
      obtain ⟨hv, hgap⟩ := h.visibility v hvis
      have hspaced : SpacedWord v.1.name.toList (m.text ++ '(' :: rest)
          ((m.modifiers.flatMap fun w => w.1 ++ w.2) ++ (m.tail ++ '(' :: rest)) := by
        refine ⟨hsolid _ hv, ⟨v.2, hgap, ?_⟩,
          fun c hc => isBlank_of_start (h.head_modifiers h.modifiers rest c hc)⟩
        rw [text, hvis]
        simp
      have hname : ∀ v ∈ Visibility.modifiers, ∀ w ∈ Visibility.modifiers,
          w.name.toList = v.name.toList → w = v := by decide
      obtain ⟨more, hread⟩ := eq_cons_of_forall_mem (mem_visibilityWord.2 ⟨hv, hspaced⟩)
        fun b hb => by
          obtain ⟨hb, hword⟩ := mem_visibilityWord.1 hb
          obtain ⟨hword, htext⟩ := SpacedWord.unique hword hspaced
          exact Prod.ext (hname _ hv _ hb hword) htext
      exact prefers_optional_some
        (prefers_andThen (p := []) hread (by simp) (hmodified (some v.1)))

/-- The text of a member starts with a name or an angle bracket. -/
lemma exists_text_eq_cons : ∃ c s, m.text = c :: s ∧ (isNameChar c = true ∨ c = '<') := by
  obtain ⟨d, ds, hcore, -⟩ := h.exists_core_eq_cons
  have hne : m.text ≠ [] := by simp [text, tail, hcore]
  obtain ⟨c, s, hcs⟩ := List.exists_cons_of_ne_nil hne
  refine ⟨c, s, hcs, ?_⟩
  cases hvis : m.visibility with
  | none =>
      refine h.head_modifiers h.modifiers [] c ?_
      have hline : m.text = (m.modifiers.flatMap fun w => w.1 ++ w.2) ++ m.tail := by
        rw [text, hvis]
        rfl
      rw [← List.append_assoc, ← hline, hcs]
      rfl
  | some v =>
      have hword : ∀ v ∈ Visibility.modifiers,
          v.name.toList ≠ [] ∧ ∀ c ∈ v.name.toList.head?, isNameChar c = true := by decide
      obtain ⟨hne, hfirst⟩ := hword v.1 (h.visibility v hvis).1
      obtain ⟨d, ds, hd⟩ := List.exists_cons_of_ne_nil hne
      rw [text, hvis, Option.map_some, Option.getD_some, hd] at hcs
      have hdc : d = c := (List.cons.inj hcs).1
      exact .inl (hfirst c (by rw [hd, hdc]; rfl))

end WellFormed

/-! ### All readings have the same name -/

/-- All up to the type. -/
def front (m : WrittenMember) : List Char :=
  (m.visibility.map fun v => v.1.name.toList ++ v.2).getD [] ++
    ((m.modifiers.flatMap fun w => w.1 ++ w.2) ++
      (m.typeParameters.map fun p => WrittenType.bracketed p.1 ++ p.2).getD [])

lemma text_eq_front_append (m : WrittenMember) : m.text = m.front ++ m.core := by
  simp [text, tail, front]

lemma WellFormed.apart_front (h : m.WellFormed) : Apart m.front := by
  have hvis : Apart ((m.visibility.map fun v => v.1.name.toList ++ v.2).getD []) := by
    have hparen : ∀ v ∈ Visibility.modifiers, '(' ∉ v.name.toList := by decide
    cases hv : m.visibility with
    | none => exact apart_nil
    | some v => exact (h.visibility v hv).2.apart_append (hparen _ (h.visibility v hv).1)
  have hmodifiers : Apart (m.modifiers.flatMap fun w => w.1 ++ w.2) := by
    have hparen : ∀ w ∈ memberModifiers.map String.toList, '(' ∉ w := by decide
    have hall := h.modifiers
    generalize m.modifiers = ws at hall
    induction ws with
    | nil => exact apart_nil
    | cons w ws ih =>
        obtain ⟨⟨hw, hgap⟩, hws⟩ := List.forall_mem_cons.1 hall
        exact (hgap.apart_append (hparen _ hw)).append (ih hws)
  have hparams : Apart ((m.typeParameters.map fun p =>
      WrittenType.bracketed p.1 ++ p.2).getD []) := by
    cases hp : m.typeParameters with
    | none => exact apart_nil
    | some p =>
        obtain ⟨⟨hopen, -⟩, hblank⟩ := h.typeParameters p hp
        refine Apart.append ⟨by simp [WrittenType.bracketed, hopen], fun c hc => ?_⟩
          (apart_of_blank hblank)
        have hlast : (WrittenType.bracketed p.1).getLast? = some '>' := by
          simp [WrittenType.bracketed, List.getLast?_cons]
        rw [hlast] at hc
        cases hc
        decide
  exact hvis.append (hmodifiers.append hparams)

/-- A written member reads as itself. -/
lemma WellFormed.isMemberText (h : m.WellFormed) :
    IsMemberText ⟨m.visibility.map Prod.fst, m.type.map fun t => t.1.text, m.name⟩
      (m.text ++ ['(']) := by
  refine ⟨m.front, (m.type.map fun t => t.1.text ++ t.2).getD [], m.name ++ (m.gap ++ ['(']),
    h.apart_front, ?_, ⟨h.isName, m.gap, h.gap, rfl⟩, by simp [text_eq_front_append, core]⟩
  cases ht : m.type with
  | none => rfl
  | some t =>
      obtain ⟨hwell, hgap, -⟩ := h.type t ht
      exact ⟨hwell.paren_not_mem, t.2, hgap, rfl⟩

end WrittenMember

/-- All up to the first parenthesis, cut into what is in front of the name, the name, and white
space. -/
lemma IsMemberText.exists_eq {x : MemberShape} {w : List Char} (h : IsMemberText x w) :
    ∃ head gap, w = (head ++ (x.name ++ gap)) ++ ['('] ∧ Apart head ∧ IsName x.name ∧
      (∀ c ∈ gap, isBlank c = true) ∧
      ∀ t ∈ x.type, ∃ front sep, head = front ++ (t ++ sep) ∧ Apart front ∧ IsGap sep := by
  obtain ⟨front, typed, named, hfront, htyped, ⟨hname, gap, hgap, rfl⟩, rfl⟩ := h
  cases ht : x.type with
  | none =>
      rw [ht] at htyped
      cases htyped
      exact ⟨front, gap, by simp, hfront, hname, hgap, by simp⟩
  | some t =>
      rw [ht] at htyped
      obtain ⟨hparen, sep, hsep, rfl⟩ := htyped
      refine ⟨front ++ (t ++ sep), gap, by simp, hfront.append (hsep.apart_append hparen), hname,
        hgap, ?_⟩
      rintro u ⟨⟩
      exact ⟨front, sep, rfl, hfront, hsep⟩

namespace WrittenMember.WellFormed

variable {m : WrittenMember} (h : m.WellFormed)

include h

/-- Every reading of a written member has its name, and a type that is a name is the written type. -/
lemma eq_of_isMemberText {x : MemberShape} {w rest u : List Char} (hx : IsMemberText x w)
    (hline : m.text ++ '(' :: rest = w ++ u) :
    x.name = m.name ∧ ∀ k ∈ x.type, ∀ t ∈ m.type, k ≠ [] → (∀ c ∈ k, isQualifiedChar c = true) →
      k = t.1.text := by
  obtain ⟨head, gap, rfl, happart, hname, hgap, htype⟩ := hx.exists_eq
  obtain ⟨head', gap', htext, happart', hname', hgap', htype'⟩ := h.isMemberText.exists_eq
  have hparen {head n gap : List Char} (hhead : Apart head) (hn : IsName n)
      (hgap : ∀ c ∈ gap, isBlank c = true) : '(' ∉ head ++ (n ++ gap) := by
    simp [hhead.paren_not_mem, hn.paren_not_mem, (apart_of_blank hgap).paren_not_mem]
  have hlast {head : List Char} (hhead : Apart head) :
      ∀ c ∈ head.getLast?, isNameChar c = false := by
    intro c hc
    have hqualified := hhead.last c hc
    rw [isQualifiedChar, Bool.or_eq_false_iff] at hqualified
    exact hqualified.1
  have hinit := List.append_cancel_right htext
  rw [hinit] at hline
  obtain ⟨hhead, -⟩ := append_paren_inj (hparen happart' hname' hgap') (hparen happart hname hgap)
    (s := rest) (t := u) (by simpa using hline)
  obtain ⟨hnamed, -⟩ := append_inj_of_run (p := isBlank) (by simpa using hhead) hgap' hgap
    (hname'.isBlank_last head') (hname.isBlank_last head)
  obtain ⟨rfl, hnames⟩ := append_inj_of_run hnamed hname'.2 hname.2 (hlast happart') (hlast happart)
  refine ⟨hnames.symm, fun k hk t ht hne hchars => ?_⟩
  obtain ⟨front, sep, heq, hfront, hsep⟩ := htype k hk
  obtain ⟨front', sep', heq', hfront', hsep'⟩ := htype' t.1.text (by
    rw [show m.type = some t from ht]
    rfl)
  exact (h.type t ht).1.eq_text_of_append hfront hfront' hne hchars hsep hsep' (heq.symm.trans heq')

/-- White space around a member does not matter, and there are no annotations in front of it. -/
lemma withoutAnnotations_trim_text {indent : List Char} (hindent : ∀ c ∈ indent, isBlank c = true)
    (rest : List Char) :
    withoutAnnotations (Text.trim (indent ++ (m.text ++ '(' :: rest))) =
      m.text ++ '(' :: Text.trimEnd rest := by
  obtain ⟨c, s, hcs, hstart⟩ := h.exists_text_eq_cons
  have hat : c ≠ '@' := by
    rintro rfl
    rcases hstart with hstart | hstart <;> exact absurd hstart (by decide)
  have hsolid : Text.trimStart (indent ++ m.text) = m.text := by
    rw [trimStart_blank_append hindent, hcs]
    exact Text.trimStart_cons_of_not_blank (isBlank_of_start hstart) s
  rw [← List.append_assoc, trim_append_cons (by decide), hsolid, hcs, List.cons_append]
  have hword : "@interface".toList.isPrefixOf (c :: (s ++ '(' :: Text.trimEnd rest)) = false := by
    have hchars : "@interface".toList = '@' :: "interface".toList := rfl
    rw [hchars, List.isPrefixOf_cons_cons, beq_eq_false_iff_ne.2 hat.symm, Bool.false_and]
  rw [withoutAnnotations, hword, if_neg (by simp)]
  exact dropAnnotations_eq_self fun d hd => by cases hd; exact hat

end WrittenMember.WellFormed

/-! ### Written members are recognised -/

lemma isStatementKeyword_iff {w : List Char} :
    isStatementKeyword w = true ↔ w ∈ statementKeywords.map String.toList := by
  simp [isStatementKeyword]

/-- A reading with the parts of a member is no statement, if none of the words of the member is one
that only ever starts statements. -/
lemma WrittenMember.WellFormed.isStatement_eq_false {m : WrittenMember} (h : m.WellFormed)
    (hwords : m.Avoids statementKeywords) {x : MemberShape} {w rest u : List Char}
    (hx : IsMemberText x w) (hline : m.text ++ '(' :: rest = w ++ u)
    (htype : x.type.isSome = m.type.isSome) : x.isStatement (m.text ++ '(' :: rest) = false := by
  obtain ⟨hname, htypes⟩ := h.eq_of_isMemberText hx hline
  have hlead : (m.text ++ '(' :: rest).takeWhile isLeadingWordChar =
      (m.text ++ ['(']).takeWhile isLeadingWordChar := by
    have hstop : isLeadingWordChar '(' = false := by decide
    induction m.text with
    | nil => simp [hstop]
    | cons c s ih => simp only [List.cons_append, List.takeWhile_cons, ih]
  rw [Bool.eq_false_iff, MemberShape.isStatement]
  intro hstatement
  rw [Bool.or_eq_true, Bool.or_eq_true, isStatementKeyword_iff, isStatementKeyword_iff, hlead,
    hname] at hstatement
  rcases hstatement with (hfirst | hnamed) | htyped
  · exact hwords.first hfirst
  · exact hwords.name hnamed
  · have hword : ∀ k ∈ statementKeywords.map String.toList,
        k ≠ [] ∧ ∀ c ∈ k, isQualifiedChar c = true := by decide
    obtain ⟨k, hk, hkey⟩ := (Option.any_eq_true _ _).1 htyped
    rw [isStatementKeyword_iff] at hkey
    rw [hk, Option.isSome_some, eq_comm, Option.isSome_iff_exists] at htype
    obtain ⟨t, ht⟩ := htype
    have heq := htypes k hk t ht (hword k hkey).1 (hword k hkey).2
    exact hwords.type t ht (heq ▸ hkey)

/-- **Every written member is recognised**, with its name and its access modifier. -/
theorem memberDeclaration?_written {m : WrittenMember} (h : m.WellFormed) (hm : m.Unambiguous)
    (hwords : m.Avoids statementKeywords) {indent : List Char}
    (hindent : ∀ c ∈ indent, isBlank c = true) (rest : List Char) :
    memberDeclaration? (indent ++ (m.text ++ '(' :: rest)) = m.declaration? := by
  obtain ⟨⟨x, u⟩, hx, hQ⟩ := h.prefers_memberShape hm (Text.trimEnd rest)
  obtain ⟨hvisibility, htype⟩ : x.visibility = m.visibility.map Prod.fst ∧
    x.type.isSome = m.type.isSome := hQ
  obtain ⟨w, hread, hline⟩ := reads_memberShape _ _ _ (List.mem_of_head? hx)
  have hfirst : first? memberShape (m.text ++ '(' :: Text.trimEnd rest) = some x := by
    rw [first?, show (memberShape _).head? = some (x, u) from hx]
    rfl
  have hname := (h.eq_of_isMemberText hread hline).1
  have hstatement := h.isStatement_eq_false hwords hread hline htype
  rw [memberDeclaration?, h.withoutAnnotations_trim_text hindent, hfirst, Option.bind_some,
    hstatement, if_neg (by simp), MemberShape.declaration?, WrittenMember.declaration?, hname,
    hvisibility]
  cases hm : m.type with
  | none =>
      have hxt : x.type = none := by simpa [hm] using htype
      rw [hxt]
      cases m.visibility <;> rfl
  | some t =>
      obtain ⟨k, hk⟩ : ∃ k, x.type = some k := Option.isSome_iff_exists.1 (by rw [htype, hm]; rfl)
      rw [hk]

/-- A generic method whose type parameters have brackets inside them. -/
theorem memberDeclaration?_written_generic :
    let m : WrittenMember :=
      { visibility := some (.protected, [' ']), modifiers := [("static".toList, "  ".toList)],
        typeParameters := some ("T extends Comparable<T>".toList, [' ']),
        type := some (⟨"util.Map".toList, some "T, List<T>".toList, [([' '], [])]⟩, [' ']),
        name := "index".toList, gap := [' '] }
    m.WellFormed ∧ m.Unambiguous ∧ m.Avoids statementKeywords ∧
      memberDeclaration? ("  ".toList ++ (m.text ++ '(' :: "List<T> xs) \x7b".toList)) =
        some ⟨"index".toList, .protected, .method⟩ := by
  intro m
  have hopen : m.Unambiguous := by simp [WrittenMember.Unambiguous, m]
  have htype : WrittenType.WellFormed
      ⟨"util.Map".toList, some "T, List<T>".toList, [([' '], [])]⟩ :=
    ⟨by decide, by decide, by decide, by decide, by decide⟩
  have hm : m.WellFormed := {
    visibility := by simp only [m]; decide
    modifiers := by simp only [m]; decide
    typeParameters := by simp only [m]; decide
    type := by
      rintro t ⟨⟩
      exact ⟨htype, by decide, by decide⟩
    name_ne := by simp [m]
    name_head := by simp only [m]; decide
    name_chars := by simp only [m]; decide
    name_word := by simp only [m]; decide
    gap := by simp only [m]; decide }
  have hwords : m.Avoids statementKeywords := {
    first := by simp only [m]; decide
    type := by
      rintro t ⟨⟩
      decide
    name := by simp only [m]; decide }
  exact ⟨hm, hopen, hwords,
    memberDeclaration?_written hm hopen hwords (by decide : ∀ c ∈ "  ".toList, isBlank c = true) _⟩

/-- A method can have the name `record`, but it is not recognised: the word is taken for the start
of a record class. And a constructor whose type parameters do not show where they end is taken for a
method. -/
theorem memberDeclaration?_written_record :
    (∃ m : WrittenMember, m.WellFormed ∧
      m.Avoids ["if", "for", "while", "switch", "catch", "new", "return", "throw", "else", "case",
        "do", "try", "synchronized"] ∧
      m.text ++ ['('] = "public void record(".toList ∧
      memberDeclaration? (m.text ++ ['(']) ≠ m.declaration?) ∧
    ∃ m : WrittenMember, m.WellFormed ∧ m.Avoids statementKeywords ∧
      m.text ++ ['('] = "public <a> b<x> c(".toList ∧
      memberDeclaration? (m.text ++ ['(']) ≠ m.declaration? := by
  refine ⟨⟨⟨some (.public, [' ']), [], none, some (⟨"void".toList, none, []⟩, [' ']),
    "record".toList, []⟩, ?_, ?_, by decide, by decide +kernel⟩,
    ⟨⟨some (.public, [' ']), [], some ("a> b<x".toList, [' ']), none, "c".toList, []⟩, ?_, ?_,
      by decide, by decide +kernel⟩⟩
  · refine ⟨by decide, by simp, by simp, ?_, by decide, by decide, by decide, by decide, by decide⟩
    rintro t ⟨⟩
    exact ⟨⟨by decide, by decide, by decide, by decide, by decide⟩, by decide, by decide⟩
  · refine ⟨by decide, ?_, by decide⟩
    rintro t ⟨⟩
    decide
  · exact ⟨by decide, by simp, by decide, by simp, by decide, by decide, by decide, by decide,
      by decide⟩
  · exact ⟨by decide, by simp, by decide⟩

end QualityGate
