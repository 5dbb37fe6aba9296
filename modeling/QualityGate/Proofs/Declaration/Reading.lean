import QualityGate.Declaration.Shape
import QualityGate.Proofs.Text.Blank
import Mathlib.Tactic

/-!
What the readers of declaration shapes read, and which of several readings comes first.

* `Reads`: what a reader takes away of a text, with one lemma for each way to put readers together.
* `Prefers`: the first reading of a text, found by following the first readings of the parts.
* `SpacedWord`: a word and the white space after it, which can be read in one way only.
* `reads_memberShape`: **what every reading of a member takes away**.
-/

namespace QualityGate

open Text (Reader isBlank)

namespace Text.Reader

variable {α β : Type}

/-! ### What a reader takes away -/

/-- Every way to read takes away a front part of the text that fits the value. -/
def Reads (R : α → List Char → Prop) (r : Reader α) : Prop :=
  ∀ s a t, (a, t) ∈ r s → ∃ w, R a w ∧ s = w ++ t

variable {r : Reader α} {R : α → List Char → Prop} {S : β → List Char → Prop}

lemma Reads.andThen {f : α → Reader β} {T : α → β → List Char → Prop} (hr : Reads R r)
    (hf : ∀ a, Reads (T a) (f a)) (h : ∀ a b u v, R a u → T a b v → S b (u ++ v)) :
    Reads S (andThen r f) := by
  intro s b t hmem
  obtain ⟨a, u, ha, hb⟩ := mem_andThen.1 hmem
  obtain ⟨w, hw, rfl⟩ := hr _ _ _ ha
  obtain ⟨v, hv, rfl⟩ := hf a _ _ _ hb
  exact ⟨w ++ v, h a b w v hw hv, (List.append_assoc w v t).symm⟩

lemma Reads.map {g : α → β} (hr : Reads R r) (h : ∀ a w, R a w → S (g a) w) :
    Reads S (map g r) := by
  intro s b t hmem
  obtain ⟨⟨a, u⟩, ha, heq⟩ := List.mem_map.1 hmem
  cases heq
  obtain ⟨w, hw, rfl⟩ := hr _ _ _ ha
  exact ⟨w, h a w hw, rfl⟩

lemma Reads.optional {T : Option α → List Char → Prop} (hr : Reads R r)
    (hsome : ∀ a w, R a w → T (some a) w) (hnone : T none []) : Reads T (optional r) := by
  intro s a t hmem
  rcases mem_orElse.1 hmem with h | h
  · exact hr.map hsome _ _ _ h
  · obtain ⟨rfl, rfl⟩ := mem_value.1 h
    exact ⟨[], hnone, rfl⟩

lemma Reads.many {T : List α → List Char → Prop} (hr : Reads R r) (hnil : T [] [])
    (hcons : ∀ a as u v, R a u → T as v → T (a :: as) (u ++ v)) : Reads T (many r) := by
  intro s as t hmem
  -- each round leaves less text than there was
  induction h : s.length using Nat.strong_induction_on generalizing s as with
  | _ n ih =>
  subst h
  rw [Text.Reader.many] at hmem
  rcases List.mem_append.1 hmem with hmore | hstop
  · obtain ⟨⟨a, u⟩, ha, hround⟩ := List.mem_flatMap.1 hmore
    split at hround
    · next hlt =>
        obtain ⟨⟨bs, v⟩, hbs, heq⟩ := List.mem_map.1 hround
        cases heq
        obtain ⟨w, hw, rfl⟩ := hr _ _ _ ha
        obtain ⟨x, hx, rfl⟩ := ih _ hlt _ _ hbs rfl
        exact ⟨w ++ x, hcons a bs w x hw hx, (List.append_assoc w x _).symm⟩
    · cases hround
  · cases List.mem_singleton.1 hstop
    exact ⟨[], hnil, rfl⟩

lemma reads_char (p : Char → Bool) : Reads (fun c w => w = [c] ∧ p c = true) (char p) := by
  intro s a t hmem
  cases s with
  | nil => cases hmem
  | cons c s =>
      rw [char] at hmem
      split at hmem
      · next hc =>
          cases List.mem_singleton.1 hmem
          exact ⟨[_], ⟨rfl, hc⟩, rfl⟩
      · cases hmem

lemma reads_run (p : Char → Bool) :
    Reads (fun a w => w = a ∧ ∀ c ∈ a, p c = true) (run p) := by
  intro s a t hmem
  cases List.mem_singleton.1 hmem
  exact ⟨s.takeWhile p, ⟨rfl, fun _ hc => List.all_eq_true.1 List.all_takeWhile _ hc⟩,
    List.takeWhile_append_dropWhile.symm⟩

lemma reads_run1 (p : Char → Bool) :
    Reads (fun a w => w = a ∧ a ≠ [] ∧ ∀ c ∈ a, p c = true) (run1 p) := by
  have hrun (c : Char) :
      Reads (fun a w => ∃ cs, a = c :: cs ∧ w = cs ∧ ∀ d ∈ cs, p d = true) (map (c :: ·) (run p)) :=
    (reads_run p).map fun cs _ h => ⟨cs, rfl, h.1, h.2⟩
  refine (reads_char p).andThen hrun ?_
  rintro c a u v ⟨rfl, hc⟩ ⟨cs, rfl, rfl, hcs⟩
  exact ⟨rfl, by simp, List.forall_mem_cons.2 ⟨hc, hcs⟩⟩

lemma reads_literal (w : List Char) : Reads (fun _ u => u = w) (literal w) := by
  intro s _ t hmem
  rw [literal] at hmem
  split at hmem
  · next hw =>
      cases List.mem_singleton.1 hmem
      obtain ⟨u, rfl⟩ := List.isPrefixOf_iff_prefix.1 hw
      exact ⟨w, rfl, by rw [List.drop_left]⟩
  · cases hmem

/-! ### The first reading -/

/-- The text can be read, and the first reading gives a value with the property. -/
def Prefers (r : Reader α) (s : List Char) (Q : α → Prop) : Prop := ∃ x ∈ (r s).head?, Q x.1

variable {f : α → Reader β} {g : Reader β} {s : List Char} {Q : β → Prop}

/-- The first reading of two things has the property, if the second thing can be read after one
reading of the first, and all readings up to there have the property. -/
lemma prefers_andThen {p q : List (α × List Char)} {w : α × List Char}
    (hr : r s = p ++ w :: q) (hp : ∀ x ∈ p, ∀ y ∈ f x.1 x.2, Q y.1)
    (hw : Prefers (f w.1) w.2 Q) : Prefers (andThen r f) s Q := by
  rw [Prefers, andThen, hr, List.flatMap_append, List.flatMap_cons, List.head?_append,
    List.head?_append]
  obtain ⟨y, hy, hQ⟩ := hw
  rw [hy, Option.some_or]
  cases hfirst : (p.flatMap fun x => f x.1 x.2).head? with
  | none => exact ⟨y, rfl, hQ⟩
  | some z =>
      obtain ⟨x, hx, hz⟩ := List.mem_flatMap.1 (List.mem_of_head? hfirst)
      exact ⟨z, rfl, hp x hx z hz⟩

/-- Reading something optional is reading it, or else going on without it. -/
lemma andThen_optional (f : Option α → Reader β) (s : List Char) :
    andThen (optional r) f s = andThen r (fun a => f (some a)) s ++ f none s := by
  simp [andThen, optional, orElse, map, value, List.flatMap_append, List.flatMap_map]

lemma prefers_optional_some {f : Option α → Reader β}
    (h : Prefers (andThen r fun a => f (some a)) s Q) : Prefers (andThen (optional r) f) s Q := by
  obtain ⟨x, hx, hQ⟩ := h
  refine ⟨x, ?_, hQ⟩
  rw [andThen_optional, List.head?_append, hx]
  rfl

lemma prefers_optional_none {f : Option α → Reader β} (h : ∀ w ∈ r s, f (some w.1) w.2 = [])
    (hnone : Prefers (f none) s Q) : Prefers (andThen (optional r) f) s Q := by
  obtain ⟨x, hx, hQ⟩ := hnone
  have hnil : andThen r (fun a => f (some a)) s = [] := List.flatMap_eq_nil_iff.2 h
  exact ⟨x, by rwa [andThen_optional, hnil, List.nil_append], hQ⟩

/-- Reading many things is reading one and then many, or none. -/
lemma andThen_many (f : List α → Reader β) (s : List Char) :
    andThen (many r) f s =
      ((r s).flatMap fun w => if w.2.length < s.length then
        andThen (many r) (fun as => f (w.1 :: as)) w.2 else []) ++ f [] s := by
  rw [andThen, many, List.flatMap_append, List.flatMap_assoc]
  congr 1
  · refine List.flatMap_congr fun w _ => ?_
    split
    · rw [List.flatMap_map, andThen]
    · rfl
  · rw [List.flatMap_singleton]

lemma prefers_many_cons {w : α × List Char} {rest : List (α × List Char)} (hr : r s = w :: rest)
    (hlt : w.2.length < s.length) (h : Prefers (andThen (many r) fun _ => g) w.2 Q) :
    Prefers (andThen (many r) fun _ => g) s Q := by
  obtain ⟨x, hx, hQ⟩ := h
  refine ⟨x, ?_, hQ⟩
  rw [andThen_many, hr, List.flatMap_cons, if_pos hlt, List.append_assoc, List.head?_append, hx]
  rfl

/-- A thing after which nothing can be read does not count. -/
lemma andThen_many_of_forall (h : ∀ w ∈ r s, andThen (many r) (fun _ => g) w.2 = []) :
    andThen (many r) (fun _ => g) s = g s := by
  have hnil : ((r s).flatMap fun w => if w.2.length < s.length then
      andThen (many r) (fun _ => g) w.2 else []) = [] := by
    refine List.flatMap_eq_nil_iff.2 fun w hw => ?_
    rw [h w hw, ite_self]
  rw [andThen_many, hnil, List.nil_append]

end Text.Reader

open Text.Reader

/-! ### Characters of a line -/

/-- White space is no part of a name. -/
lemma isQualifiedChar_of_isBlank {c : Char} (h : isBlank c = true) :
    isQualifiedChar c = false := by
  simp (disch := decide) [isQualifiedChar, isNameChar, isWord_of_isBlank h, ne_of_isBlank h]

lemma isBlank_of_isQualifiedChar {c : Char} (h : isQualifiedChar c = true) :
    isBlank c = false := by
  cases hb : isBlank c with
  | false => rfl
  | true => rw [isQualifiedChar_of_isBlank hb] at h; cases h

lemma isQualifiedChar_of_isNameChar {c : Char} (h : isNameChar c = true) :
    isQualifiedChar c = true := by
  rw [isQualifiedChar, h, Bool.true_or]

/-- The first character of a name is a character of names. -/
lemma isNameChar_of_isNameStart {c : Char} (h : isNameStart c = true) : isNameChar c = true := by
  rw [isNameStart, Bool.or_eq_true, Bool.or_eq_true, beq_iff_eq, beq_iff_eq] at h
  rcases h with (h | rfl) | rfl
  · have hascii : Unicode.isAscii c = true := by
      change (decide (c.val ≥ 'A'.val ∧ c.val ≤ 'Z'.val) ||
        decide (c.val ≥ 'a'.val) && decide (c.val ≤ 'z'.val)) = true at h
      simp only [Bool.or_eq_true, Bool.and_eq_true, decide_eq_true_eq, UInt32.le_iff_toNat_le,
        ge_iff_le] at h
      change 65 ≤ c.toNat ∧ c.toNat ≤ 90 ∨ 97 ≤ c.toNat ∧ c.toNat ≤ 122 at h
      rw [Unicode.isAscii, decide_eq_true_eq]
      omega
    rw [isNameChar, Unicode.isWord_of_ascii hascii, Char.isAlphanum, h, Bool.true_or, Bool.true_or,
      Bool.true_or]
  · decide
  · decide

/-! ### Words with white space after them -/

/-- White space that is there. -/
def IsGap (s : List Char) : Prop := s ≠ [] ∧ ∀ c ∈ s, isBlank c = true

instance (s : List Char) : Decidable (IsGap s) :=
  inferInstanceAs (Decidable (s ≠ [] ∧ ∀ c ∈ s, isBlank c = true))

/-- The text is the word, white space, and then the other text, which does not start with white
space. -/
structure SpacedWord (w s t : List Char) : Prop where
  solid : ∀ c ∈ w, isBlank c = false
  exists_gap : ∃ gap, IsGap gap ∧ s = w ++ (gap ++ t)
  head : ∀ c ∈ t.head?, isBlank c = false

/-- A word of characters of a class without white space is the first run of the class. -/
lemma SpacedWord.exists_run {p : Char → Bool} {w s t : List Char} (h : SpacedWord w s t)
    (hw : ∀ c ∈ w, p c = true) (hp : ∀ c, isBlank c = true → p c = false) :
    ∃ gap, IsGap gap ∧ s.takeWhile p = w ∧ s.dropWhile p = gap ++ t := by
  obtain ⟨gap, hgap, rfl⟩ := h.exists_gap
  have hstop : ∀ c ∈ (gap ++ t).head?, p c = false :=
    forall_head?_append hgap.1 (fun c hc => hp c (hgap.2 c hc)) t
  exact ⟨gap, hgap, takeWhile_append_of_head hw hstop⟩

/-- A word with white space after it can be read in one way only. -/
lemma SpacedWord.unique {w w' s t t' : List Char} (h : SpacedWord w s t)
    (h' : SpacedWord w' s t') : w = w' ∧ t = t' := by
  have hsplit {w t : List Char} (h : SpacedWord w s t) :
      s.takeWhile (fun c => !isBlank c) = w ∧
        Text.trimStart (s.dropWhile fun c => !isBlank c) = t := by
    obtain ⟨gap, hgap, htake, hdrop⟩ := h.exists_run (p := fun c => !isBlank c)
      (fun c hc => by rw [h.solid c hc]; rfl) (fun c hc => by rw [hc]; rfl)
    rw [htake, hdrop]
    exact ⟨rfl, (takeWhile_append_of_head hgap.2 h.head).2⟩
  have hfirst := hsplit h
  have hsecond := hsplit h'
  exact ⟨hfirst.1.symm.trans hsecond.1, hfirst.2.symm.trans hsecond.2⟩

/-- White space is read up to what is not white space. -/
lemma mem_blanks1 {s t a : List Char} :
    (a, t) ∈ blanks1 s ↔ IsGap a ∧ (∀ c ∈ t.head?, isBlank c = false) ∧ s = a ++ t := by
  rw [blanks1, run1, mem_andThen]
  constructor
  · rintro ⟨c, u, hc, hu⟩
    obtain ⟨x, ⟨rfl, hcb⟩, rfl⟩ := reads_char isBlank _ _ _ hc
    obtain ⟨w, hw, heq⟩ := List.mem_map.1 hu
    cases List.mem_singleton.1 hw
    cases heq
    refine ⟨⟨by simp, List.forall_mem_cons.2 ⟨hcb, fun d hd => ?_⟩⟩, fun d hd => ?_, ?_⟩
    · exact List.all_eq_true.1 List.all_takeWhile d hd
    · have hstop := List.head?_dropWhile_not isBlank u
      rw [hd] at hstop
      simpa using hstop
    · simp
  · rintro ⟨⟨hne, hblank⟩, ht, rfl⟩
    obtain ⟨c, gap, rfl⟩ := List.exists_cons_of_ne_nil hne
    obtain ⟨hc, hgap⟩ := List.forall_mem_cons.1 hblank
    obtain ⟨htake, hdrop⟩ := takeWhile_append_of_head hgap ht
    have hfirst : (c, gap ++ t) ∈ char isBlank (c :: gap ++ t) := by simp [char, hc]
    exact ⟨c, gap ++ t, hfirst, by simp [Text.Reader.map, run, htake, hdrop]⟩

/-- Reading a word and white space after it. -/
lemma mem_literal_blanks1 {w s t : List Char} (hw : ∀ c ∈ w, isBlank c = false) :
    (∃ a, (a, t) ∈ andThen (literal w) (fun _ => blanks1) s) ↔ SpacedWord w s t := by
  constructor
  · rintro ⟨a, h⟩
    obtain ⟨a, u, hword, hgap⟩ := mem_andThen.1 h
    obtain ⟨x, rfl, rfl⟩ := reads_literal w _ _ _ hword
    obtain ⟨hne, ht, rfl⟩ := mem_blanks1.1 hgap
    exact ⟨hw, ⟨_, hne, rfl⟩, ht⟩
  · rintro ⟨-, ⟨gap, hgap, rfl⟩, ht⟩
    refine ⟨gap, mem_andThen.2 ⟨(), gap ++ t, ?_, mem_blanks1.2 ⟨hgap, ht, rfl⟩⟩⟩
    rw [literal, if_pos (List.isPrefixOf_iff_prefix.2 ⟨_, rfl⟩), List.drop_left]
    exact List.mem_singleton_self _

/-- The modifiers that can be read in front of a text. -/
lemma mem_modifier {words : List String} (hwords : ∀ w ∈ words, ∀ c ∈ w.toList, isBlank c = false)
    {w s t : List Char} :
    (w, t) ∈ andThen (oneOf (words.map String.toList)) (fun w => map (fun _ => w) blanks1) s ↔
      w ∈ words.map String.toList ∧ SpacedWord w s t := by
  have hsolid (w : List Char) (hw : w ∈ words.map String.toList) : ∀ c ∈ w, isBlank c = false := by
    obtain ⟨k, hk, rfl⟩ := List.mem_map.1 hw
    exact hwords k hk
  constructor
  · intro h
    obtain ⟨u, x, hu, hgap⟩ := mem_andThen.1 h
    obtain ⟨v, hv, hread⟩ := List.mem_flatMap.1 hu
    obtain ⟨y, hy, heq⟩ := List.mem_map.1 hread
    cases heq
    obtain ⟨g, hg, heq⟩ := List.mem_map.1 hgap
    cases heq
    exact ⟨hv, (mem_literal_blanks1 (hsolid _ hv)).1 ⟨g.1, mem_andThen.2 ⟨y.1, y.2, hy, hg⟩⟩⟩
  · rintro ⟨hw, h⟩
    obtain ⟨g, hg⟩ := (mem_literal_blanks1 (hsolid w hw)).2 h
    obtain ⟨a, u, ha, hu⟩ := mem_andThen.1 hg
    refine mem_andThen.2 ⟨w, u, List.mem_flatMap.2 ⟨w, hw, List.mem_map.2 ⟨(a, u), ha, rfl⟩⟩, ?_⟩
    exact List.mem_map.2 ⟨(g, t), hu, rfl⟩

/-- An access modifier and white space. -/
def visibilityWord : Reader Visibility := fun s => Visibility.modifiers.flatMap fun v =>
  andThen (literal v.name.toList) (fun _ => map (fun _ => v) blanks1) s

lemma visibilityPart_eq : visibilityPart = optional visibilityWord := rfl

lemma mem_visibilityWord {v : Visibility} {s t : List Char} :
    (v, t) ∈ visibilityWord s ↔
      v ∈ Visibility.modifiers ∧ SpacedWord v.name.toList s t := by
  have hsolid (v : Visibility) (hv : v ∈ Visibility.modifiers) :
      ∀ c ∈ v.name.toList, isBlank c = false := by
    revert v
    decide
  constructor
  · intro h
    obtain ⟨u, hu, hread⟩ := List.mem_flatMap.1 h
    obtain ⟨a, x, ha, hgap⟩ := mem_andThen.1 hread
    obtain ⟨g, hg, heq⟩ := List.mem_map.1 hgap
    cases heq
    exact ⟨hu, (mem_literal_blanks1 (hsolid _ hu)).1 ⟨g.1, mem_andThen.2 ⟨a, x, ha, hg⟩⟩⟩
  · rintro ⟨hv, h⟩
    obtain ⟨g, hg⟩ := (mem_literal_blanks1 (hsolid v hv)).2 h
    obtain ⟨a, u, ha, hu⟩ := mem_andThen.1 hg
    exact List.mem_flatMap.2 ⟨v, hv, mem_andThen.2 ⟨a, u, ha, List.mem_map.2 ⟨(g, t), hu, rfl⟩⟩⟩

/-! ### Parts of a member -/

/-- The text has no parenthesis, and a name after it does not run on from it. -/
structure Apart (s : List Char) : Prop where
  paren_not_mem : '(' ∉ s
  last : ∀ c ∈ s.getLast?, isQualifiedChar c = false

/-- The text in front of the first parenthesis is determined. -/
lemma append_paren_inj {a b s t : List Char} (ha : '(' ∉ a) (hb : '(' ∉ b)
    (h : a ++ '(' :: s = b ++ '(' :: t) : a = b ∧ s = t := by
  have hcut {a : List Char} (ha : '(' ∉ a) (s : List Char) :
      (a ++ '(' :: s).takeWhile (· != '(') = a ∧ (a ++ '(' :: s).dropWhile (· != '(') = '(' :: s := by
    refine takeWhile_append_of_head (fun x hx => ?_) (by simp)
    simpa using fun hx' : x = '(' => ha (hx' ▸ hx)
  have hfirst := hcut ha s
  have hsecond := hcut hb t
  rw [h] at hfirst
  exact ⟨hfirst.1.symm.trans hsecond.1, (List.cons.inj (hfirst.2.symm.trans hsecond.2)).2⟩

/-- A name. -/
def IsName (s : List Char) : Prop := s ≠ [] ∧ ∀ c ∈ s, isNameChar c = true

/-- The text of a type and white space, if there is a type. -/
def IsTypeText : Option (List Char) → List Char → Prop
  | none, w => w = []
  | some t, w => '(' ∉ t ∧ ∃ gap, IsGap gap ∧ w = t ++ gap

/-- A name, white space and a parenthesis. -/
def IsNamedEnd (m : MemberShape) (w : List Char) : Prop :=
  IsName m.name ∧ ∃ gap, (∀ c ∈ gap, isBlank c = true) ∧ w = m.name ++ (gap ++ ['('])

/-- What a reading of a member takes away: its type and its name stand at the end. -/
def IsMemberText (m : MemberShape) (w : List Char) : Prop :=
  ∃ front typed named, Apart front ∧ IsTypeText m.type typed ∧ IsNamedEnd m named ∧
    w = front ++ (typed ++ named)

lemma apart_nil : Apart [] := ⟨by simp, by simp⟩

lemma Apart.append {s t : List Char} (hs : Apart s) (ht : Apart t) : Apart (s ++ t) := by
  refine ⟨by simp [hs.paren_not_mem, ht.paren_not_mem], fun c hc => ?_⟩
  rw [List.getLast?_append] at hc
  cases hlast : t.getLast? with
  | none => rw [hlast] at hc; exact hs.last c hc
  | some d => rw [hlast] at hc; cases hc; exact ht.last _ hlast

lemma apart_of_blank {s : List Char} (h : ∀ c ∈ s, isBlank c = true) : Apart s := by
  refine ⟨fun hmem => ?_, fun c hc => ?_⟩
  · exact absurd (h _ hmem) (by decide)
  · exact isQualifiedChar_of_isBlank (h c (List.mem_of_getLast? hc))

lemma IsMemberText.append {m : MemberShape} {u w : List Char} (hu : Apart u)
    (h : IsMemberText m w) : IsMemberText m (u ++ w) := by
  obtain ⟨front, typed, named, hfront, htyped, hnamed, rfl⟩ := h
  exact ⟨u ++ front, typed, named, hu.append hfront, htyped, hnamed, by rw [List.append_assoc]⟩

/-- White space sets a word apart. -/
lemma IsGap.apart_append {w gap : List Char} (hgap : IsGap gap) (hw : '(' ∉ w) :
    Apart (w ++ gap) := by
  refine ⟨by simp [hw, (apart_of_blank hgap.2).paren_not_mem], fun c hc => ?_⟩
  rw [List.getLast?_append, List.getLast?_eq_some_getLast hgap.1] at hc
  cases hc
  exact isQualifiedChar_of_isBlank (hgap.2 _ (List.getLast_mem hgap.1))

/-- A word with white space after it can be put in front of a member. -/
lemma SpacedWord.exists_apart {w s t : List Char} (h : SpacedWord w s t) (hw : '(' ∉ w) :
    ∃ u, Apart u ∧ s = u ++ t := by
  obtain ⟨gap, hgap, rfl⟩ := h.exists_gap
  exact ⟨w ++ gap, hgap.apart_append hw, by rw [List.append_assoc]⟩

lemma reads_visibilityPart : Reads (fun _ w => Apart w) visibilityPart := by
  have hword : Reads (fun (_ : Visibility) w => Apart w) visibilityWord := by
    intro s v t h
    obtain ⟨hv, hspaced⟩ := mem_visibilityWord.1 h
    have hparen : ∀ v ∈ Visibility.modifiers, '(' ∉ v.name.toList := by decide
    exact hspaced.exists_apart (hparen v hv)
  exact hword.optional (fun _ _ h => h) apart_nil

lemma reads_modifiersPart : Reads (fun _ w => Apart w) (modifiersPart memberModifiers) := by
  have hword : Reads (fun (_ : List Char) w => Apart w)
      (andThen (oneOf (memberModifiers.map String.toList)) fun w => map (fun _ => w) blanks1) := by
    intro s w t h
    obtain ⟨hw, hspaced⟩ := (mem_modifier (by decide)).1 h
    have hparen : ∀ w ∈ memberModifiers.map String.toList, '(' ∉ w := by decide
    exact hspaced.exists_apart (hparen w hw)
  exact hword.many apart_nil fun _ _ _ _ hu hv => hu.append hv

lemma reads_closeAngle :
    Reads (fun a w => w = a ∧ '(' ∉ a ∧ a.getLast? = some '>') closeAngle := by
  intro s
  induction s with
  | nil => intro a t h; cases h
  | cons c s ih =>
      intro a t h
      rw [closeAngle, List.mem_append] at h
      rcases h with h | h
      · split at h
        · next hc => subst hc; cases List.mem_singleton.1 h; exact ⟨_, ⟨rfl, by decide, rfl⟩, rfl⟩
        · cases h
      · split at h
        · cases h
        · next hc =>
            obtain ⟨⟨b, u⟩, hb, heq⟩ := List.mem_map.1 h
            cases heq
            obtain ⟨w, ⟨rfl, hparen, hlast⟩, rfl⟩ := ih _ _ hb
            refine ⟨c :: w, ⟨rfl, ?_, ?_⟩, rfl⟩
            · rw [List.mem_cons, not_or]
              exact ⟨fun h => hc (.inl h.symm), hparen⟩
            · rw [List.getLast?_cons, hlast]
              rfl

lemma reads_angle : Reads (fun a w => w = a ∧ '(' ∉ a ∧ a.getLast? = some '>') angle := by
  have hclose (c : Char) : Reads (fun a w => ∃ b, a = c :: b ∧ w = b ∧ '(' ∉ b ∧
      b.getLast? = some '>') (map (c :: ·) closeAngle) :=
    reads_closeAngle.map fun b w h => ⟨b, rfl, h⟩
  refine (reads_char _).andThen hclose ?_
  rintro c a u v ⟨rfl, hc⟩ ⟨b, rfl, rfl, hparen, hlast⟩
  have hopen : c = '<' := by simpa using hc
  subst hopen
  refine ⟨rfl, ?_, ?_⟩
  · rw [List.mem_cons, not_or]
    exact ⟨by decide, hparen⟩
  · rw [List.getLast?_cons, hlast]
    rfl

lemma reads_typeParametersPart : Reads (fun _ w => Apart w) typeParametersPart := by
  have hblanks (a : List Char) : Reads (fun _ w => ∀ c ∈ w, isBlank c = true)
      (map (fun _ => a) blanks) := (reads_run isBlank).map fun _ _ h => h.1 ▸ h.2
  have hword : Reads (fun _ w => Apart w) (andThen angle fun a => map (fun _ => a) blanks) := by
    refine reads_angle.andThen hblanks ?_
    rintro a b u v ⟨rfl, hparen, hlast⟩ hv
    refine Apart.append ⟨hparen, fun c hc => ?_⟩ (apart_of_blank hv)
    rw [hlast] at hc
    cases hc
    decide
  exact hword.optional (fun _ _ h => h) apart_nil

lemma reads_arrayBrackets : Reads (fun a w => w = a ∧ '(' ∉ a) arrayBrackets := by
  intro s t u h
  obtain ⟨a, s₁, ha, h⟩ := mem_andThen.1 h
  obtain ⟨o, s₂, ho, h⟩ := mem_andThen.1 h
  obtain ⟨b, s₃, hb, h⟩ := mem_andThen.1 h
  obtain ⟨⟨c, s₄⟩, hc, heq⟩ := List.mem_map.1 h
  cases heq
  obtain ⟨a, ⟨rfl, hafter⟩, rfl⟩ := reads_run _ _ _ _ ha
  obtain ⟨o', ⟨rfl, hopen⟩, rfl⟩ := reads_char _ _ _ _ ho
  obtain ⟨b, ⟨rfl, hinside⟩, rfl⟩ := reads_run _ _ _ _ hb
  obtain ⟨c', ⟨rfl, hclose⟩, rfl⟩ := reads_char _ _ _ _ hc
  refine ⟨_, ⟨rfl, ?_⟩, by simp⟩
  have hopen : o = '[' := by simpa using hopen
  have hclose : c = ']' := by simpa using hclose
  subst hopen hclose
  simp [(apart_of_blank hafter).paren_not_mem, (apart_of_blank hinside).paren_not_mem]

lemma not_mem_of_isQualifiedChar {s : List Char} (h : ∀ c ∈ s, isQualifiedChar c = true) :
    '(' ∉ s := fun hmem => absurd (h _ hmem) (by decide)

lemma reads_typeName : Reads (fun t w => w = t ∧ '(' ∉ t) typeName := by
  intro s t u h
  obtain ⟨c, s₁, hc, h⟩ := mem_andThen.1 h
  obtain ⟨cs, s₂, hcs, h⟩ := mem_andThen.1 h
  obtain ⟨a, s₃, ha, h⟩ := mem_andThen.1 h
  obtain ⟨⟨bs, s₄⟩, hbs, heq⟩ := List.mem_map.1 h
  cases heq
  have hangle : Reads (fun (a : Option (List Char)) w => w = a.getD [] ∧ '(' ∉ w)
      (optional angle) :=
    reads_angle.optional (fun a w h => ⟨h.1, h.1 ▸ h.2.1⟩) ⟨rfl, by simp⟩
  have harrays : Reads (fun as w => w = as.flatten ∧ '(' ∉ w) (many arrayBrackets) := by
    refine reads_arrayBrackets.many ⟨rfl, by simp⟩ ?_
    rintro a as u v ⟨rfl, hu⟩ ⟨rfl, hv⟩
    exact ⟨rfl, by simp [hu, hv]⟩
  obtain ⟨c', ⟨rfl, hfirst⟩, rfl⟩ := reads_char _ _ _ _ hc
  obtain ⟨cs, ⟨rfl, hname⟩, rfl⟩ := reads_run _ _ _ _ hcs
  obtain ⟨w, ⟨rfl, hwa⟩, rfl⟩ := hangle _ _ _ ha
  obtain ⟨w, ⟨rfl, hwb⟩, rfl⟩ := harrays _ _ _ hbs
  have hstart := not_mem_of_isQualifiedChar
    (List.forall_mem_cons.2 ⟨isQualifiedChar_of_isNameChar hfirst, hname⟩)
  rw [List.mem_cons, not_or] at hstart
  exact ⟨_, ⟨rfl, by simp [hstart, hwa, hwb]⟩, by simp⟩

lemma reads_typePart : Reads IsTypeText typePart := by
  have hgap (t : List Char) : Reads (fun u w => u = t ∧ IsGap w) (map (fun _ => t) blanks1) :=
    (reads_run1 isBlank).map fun a w h => ⟨rfl, h.1 ▸ h.2⟩
  have hword : Reads (fun t w => '(' ∉ t ∧ ∃ gap, IsGap gap ∧ w = t ++ gap)
      (andThen typeName fun t => map (fun _ => t) blanks1) := by
    refine reads_typeName.andThen hgap ?_
    rintro t t' u v ⟨rfl, hparen⟩ ⟨rfl, hv⟩
    exact ⟨hparen, v, hv, rfl⟩
  exact hword.optional (fun _ _ h => h) rfl

/-- The reader of a member from its name on. -/
def namedMember (v : Option Visibility) (t : Option (List Char)) : Reader MemberShape :=
  andThen namePart fun n => andThen blanks fun _ => map (fun _ => ⟨v, t, n⟩) (char (· == '('))

/-- The reader of a member from its type on. -/
def typedMember (v : Option Visibility) : Reader MemberShape := andThen typePart (namedMember v)

/-- The reader of a member from its type parameters on. -/
def parametrizedMember (v : Option Visibility) : Reader MemberShape :=
  andThen typeParametersPart fun _ => typedMember v

/-- The reader of a member from its modifiers on. -/
def modifiedMember (v : Option Visibility) : Reader MemberShape :=
  andThen (modifiersPart memberModifiers) fun _ => parametrizedMember v

lemma memberShape_eq : memberShape = andThen visibilityPart modifiedMember := rfl

lemma reads_namePart : Reads (fun n w => w = n ∧ IsName n) namePart := by
  have hrun (c : Char) : Reads (fun n w => ∃ cs, n = c :: cs ∧ w = cs ∧ ∀ d ∈ cs, isNameChar d = true)
      (map (c :: ·) (run isNameChar)) :=
    (reads_run isNameChar).map fun cs _ h => ⟨cs, rfl, h.1, h.2⟩
  refine (reads_char isNameStart).andThen hrun ?_
  rintro c n u v ⟨rfl, hc⟩ ⟨cs, rfl, rfl, hcs⟩
  exact ⟨rfl, by simp, List.forall_mem_cons.2 ⟨isNameChar_of_isNameStart hc, hcs⟩⟩

lemma reads_namedMember (v : Option Visibility) (t : Option (List Char)) :
    Reads (fun m w => m.visibility = v ∧ m.type = t ∧ IsNamedEnd m w) (namedMember v t) := by
  intro s m u h
  obtain ⟨n, s₁, hn, h⟩ := mem_andThen.1 h
  obtain ⟨gap, s₂, hgap, h⟩ := mem_andThen.1 h
  obtain ⟨⟨c, s₃⟩, hc, heq⟩ := List.mem_map.1 h
  cases heq
  obtain ⟨n, ⟨rfl, hname⟩, rfl⟩ := reads_namePart _ _ _ hn
  obtain ⟨gap, ⟨rfl, hblank⟩, rfl⟩ := reads_run _ _ _ _ hgap
  obtain ⟨c', ⟨rfl, hopen⟩, rfl⟩ := reads_char _ _ _ _ hc
  have hopen : c = '(' := by simpa using hopen
  subst hopen
  exact ⟨_, ⟨rfl, rfl, hname, gap, hblank, rfl⟩, by simp⟩

lemma reads_typedMember (v : Option Visibility) :
    Reads (fun m w => m.visibility = v ∧ ∃ typed named, IsTypeText m.type typed ∧
      IsNamedEnd m named ∧ w = typed ++ named) (typedMember v) := by
  refine reads_typePart.andThen (reads_namedMember v) ?_
  rintro t m typed named htyped ⟨hv, rfl, hnamed⟩
  exact ⟨hv, typed, named, htyped, hnamed, rfl⟩

lemma reads_parametrizedMember (v : Option Visibility) :
    Reads (fun m w => m.visibility = v ∧ IsMemberText m w) (parametrizedMember v) := by
  refine reads_typeParametersPart.andThen (fun _ => reads_typedMember v) ?_
  rintro a m u w hu ⟨hv, typed, named, htyped, hnamed, rfl⟩
  exact ⟨hv, u, typed, named, hu, htyped, hnamed, rfl⟩

lemma reads_modifiedMember (v : Option Visibility) :
    Reads (fun m w => m.visibility = v ∧ IsMemberText m w) (modifiedMember v) := by
  refine reads_modifiersPart.andThen (fun _ => reads_parametrizedMember v) ?_
  rintro ws m u w hu ⟨hv, hm⟩
  exact ⟨hv, hm.append hu⟩

/-- **What every reading of a member takes away**: after some text that stands apart, its type and
its name, and then the first parenthesis. -/
theorem reads_memberShape : Reads IsMemberText memberShape := by
  rw [memberShape_eq]
  exact reads_visibilityPart.andThen reads_modifiedMember fun _ _ _ _ hu hm => hm.2.append hu

end QualityGate
