import QualityGate.Proofs.Regex.Loop
import QualityGate.Regex.Build
import Mathlib.Tactic

/-!
What regular expressions match, said without places and tables. An expression matches a text between
what comes before it and what follows it; of these only the conditions on places take notice.

* `Matches`: the texts that an expression matches.
* `mem_ends_iff`: **the ends of an expression** at a place are those of the texts that it matches
  there.
* `isSome_find?_iff`: an expression is found in a text exactly if it matches some part of the text.
* `Matches.congr`: an expression that only asks for word boundaries takes no more notice of what
  surrounds a text than whether it is a word character.
* `Accepts`: what an expression without conditions on places matches, put together from its parts.
-/

namespace QualityGate.Regex

open Cursor

/-! ### Matching -/

/-- So many texts in a row. -/
def Times (R : Option Char → List Char → List Char → Prop) :
    ℕ → Option Char → List Char → List Char → Prop
  | 0, _, w, _ => w = []
  | n + 1, b, w, a => ∃ u v, w = u ++ v ∧ R b u (v ++ a) ∧ Times R n (u.getLast?.or b) v a

/-- The expression matches a text, given the character before it and the text after it. -/
def Matches : Regex → Option Char → List Char → List Char → Prop
  | empty, _, w, _ => w = []
  | chars set, _, w, _ => ∃ c, w = [c] ∧ set.contains c = true
  | run set least most _, _, w, _ =>
    least ≤ w.length ∧ (∀ m ∈ most, w.length ≤ m) ∧ ∀ c ∈ w, set.contains c = true
  | look l, b, w, a => w = [] ∧ l.holds ⟨0, b, a⟩ = true
  | seq r s, b, w, a =>
    ∃ u v, w = u ++ v ∧ Matches r b u (v ++ a) ∧ Matches s (u.getLast?.or b) v a
  | alt r s, b, w, a => Matches r b w a ∨ Matches s b w a
  | loop r least most _, b, w, a =>
    ∃ n, least ≤ n ∧ (∀ m ∈ most, n ≤ max least m) ∧ Times (Matches r) n b w a

/-- The places after the texts at a place that stand in a relation to what surrounds them. -/
def EndsOf (R : Option Char → List Char → List Char → Prop) (p q : Cursor) : Prop :=
  ∃ w a, p.after = w ++ a ∧ R p.before w a ∧ q = p.advance w

lemma EndsOf.reaches {R : Option Char → List Char → List Char → Prop} {p q : Cursor}
    (h : EndsOf R p q) : p.Reaches q := by
  obtain ⟨w, a, hw, -, rfl⟩ := h
  exact ⟨w, ⟨a, hw.symm⟩, rfl⟩

lemma advance_after {p : Cursor} {w a : List Char} (h : p.after = w ++ a) :
    (p.advance w).after = a := by
  rw [advance, h, List.drop_left]

/-- The ends of one thing after another. -/
lemma endsOf_append {R S T : Option Char → List Char → List Char → Prop}
    (hT : ∀ b w a, T b w a ↔ ∃ u v, w = u ++ v ∧ R b u (v ++ a) ∧ S (u.getLast?.or b) v a)
    (p q : Cursor) : EndsOf T p q ↔ ∃ r, EndsOf R p r ∧ EndsOf S r q := by
  constructor
  · rintro ⟨w, a, hw, hmatch, rfl⟩
    obtain ⟨u, v, rfl, hu, hv⟩ := (hT _ _ _).1 hmatch
    rw [List.append_assoc] at hw
    exact ⟨p.advance u, ⟨u, v ++ a, hw, hu, rfl⟩, v, a, advance_after hw, hv, advance_append _ _ _⟩
  · rintro ⟨r, ⟨u, x, hx, hu, rfl⟩, v, a, hv, hmatch, rfl⟩
    rw [advance_after hx] at hv
    subst hv
    exact ⟨u ++ v, a, by rw [hx, List.append_assoc], (hT _ _ _).2 ⟨u, v, rfl, hu, hmatch⟩,
      (advance_append _ _ _).symm⟩

/-- The ends of so many texts in a row are reached by so many rounds. -/
lemma rounds_iff_endsOf {step : Cursor → List Cursor}
    {R : Option Char → List Char → List Char → Prop} (hstep : ∀ p q, q ∈ step p ↔ EndsOf R p q)
    (n : ℕ) (p q : Cursor) : rounds step n p q ↔ EndsOf (Times R n) p q := by
  induction n generalizing p with
  | zero =>
      constructor
      · rintro rfl
        exact ⟨[], _, rfl, rfl, (advance_nil _).symm⟩
      · rintro ⟨w, a, -, rfl, rfl⟩
        exact advance_nil p
  | succ n ih =>
      rw [endsOf_append (T := Times R (n + 1)) (R := R) (S := Times R n) fun _ _ _ => Iff.rfl,
        rounds]
      simp only [hstep, ih]

/-- The ends of one character of a set. -/
lemma mem_ends_chars (set : CharSet) (p q : Cursor) :
    q ∈ (chars set).ends p ↔ EndsOf (chars set).Matches p q := by
  obtain ⟨i, b, a⟩ := p
  cases a with
  | nil =>
      refine iff_of_false (by simp [ends, next?]) ?_
      rintro ⟨w, a, hw, ⟨c, rfl, -⟩, -⟩
      cases hw
  | cons c rest =>
      have hends : ends (chars set) ⟨i, b, c :: rest⟩ =
          if set.contains c then [⟨i + 1, some c, rest⟩] else [] := rfl
      have hplace : advance ⟨i, b, c :: rest⟩ [c] = ⟨i + 1, some c, rest⟩ := rfl
      rw [hends]
      constructor
      · intro h
        split at h
        · next hc =>
            rw [List.mem_singleton.1 h]
            exact ⟨[c], rest, rfl, ⟨c, rfl, hc⟩, hplace.symm⟩
        · cases h
      · rintro ⟨w, a, hw, ⟨d, rfl, hd⟩, rfl⟩
        obtain ⟨rfl, -⟩ := List.cons.inj hw
        rw [if_pos hd, hplace]
        exact List.mem_singleton_self _

/-- The place itself, if a condition holds there. -/
lemma mem_ends_look (l : Look) (p q : Cursor) :
    q ∈ (look l).ends p ↔ EndsOf (look l).Matches p q := by
  have hplace (p : Cursor) : l.holds p = l.holds ⟨0, p.before, p.after⟩ := by cases l <;> rfl
  rw [ends]
  constructor
  · intro h
    split at h
    · next hl =>
        rw [List.mem_singleton.1 h]
        exact ⟨[], _, rfl, ⟨rfl, hplace p ▸ hl⟩, (advance_nil p).symm⟩
    · cases h
  · rintro ⟨w, a, ha, ⟨rfl, hl⟩, rfl⟩
    rw [List.nil_append] at ha
    rw [← ha, ← hplace] at hl
    rw [if_pos hl, advance_nil]
    exact List.mem_singleton_self _

/-- The ends after a match of either of two expressions. -/
lemma endsOf_or {R S : Option Char → List Char → List Char → Prop} (p q : Cursor) :
    EndsOf (fun b w a => R b w a ∨ S b w a) p q ↔ EndsOf R p q ∨ EndsOf S p q := by
  constructor
  · rintro ⟨w, a, hw, h | h, rfl⟩
    · exact .inl ⟨w, a, hw, h, rfl⟩
    · exact .inr ⟨w, a, hw, h, rfl⟩
  · rintro (⟨w, a, hw, h, rfl⟩ | ⟨w, a, hw, h, rfl⟩)
    · exact ⟨w, a, hw, .inl h, rfl⟩
    · exact ⟨w, a, hw, .inr h, rfl⟩

/-- **The ends of an expression** at a place. -/
theorem mem_ends_iff (r : Regex) (p q : Cursor) : q ∈ r.ends p ↔ EndsOf r.Matches p q := by
  induction r generalizing p q with
  | empty =>
      constructor
      · intro h
        exact ⟨[], _, rfl, rfl, (List.mem_singleton.1 h).trans (advance_nil p).symm⟩
      · rintro ⟨w, a, -, rfl, rfl⟩
        rw [advance_nil]
        exact List.mem_singleton_self _
  | chars set => exact mem_ends_chars set p q
  | run set least most greedy =>
      rw [ends, mem_runEnds]
      constructor
      · rintro ⟨w, hleast, ⟨⟨a, ha⟩, hset, hmost⟩, rfl⟩
        exact ⟨w, a, ha.symm, ⟨hleast, hmost, hset⟩, rfl⟩
      · rintro ⟨w, a, hw, ⟨hleast, hmost, hset⟩, rfl⟩
        exact ⟨w, hleast, ⟨⟨a, hw.symm⟩, hset, hmost⟩, rfl⟩
  | look l => exact mem_ends_look l p q
  | seq r s ihr ihs =>
      have hreaches : ∀ ps ∈ (r.ends p).map s.ends, ∀ q ∈ ps, p.Reaches q := by
        intro ps hps q hq
        obtain ⟨m, hm, rfl⟩ := List.mem_map.1 hps
        exact ((ihr _ _).1 hm).reaches.trans ((ihs _ _).1 hq).reaches
      rw [ends, mem_joinAll hreaches, endsOf_append (T := (r.seq s).Matches)
        (R := r.Matches) (S := s.Matches) fun _ _ _ => Iff.rfl]
      simp only [List.mem_map, exists_exists_and_eq_and, ihr, ihs]
  | alt r s ihr ihs =>
      have hreaches : ∀ ps ∈ [r.ends p, s.ends p], ∀ q ∈ ps, p.Reaches q := by
        simp only [List.forall_mem_cons, ihr, ihs]
        exact ⟨fun q hq => hq.reaches, fun q hq => hq.reaches, by simp⟩
      rw [ends, mem_joinAll hreaches]
      simp only [List.mem_cons, List.not_mem_nil, or_false, exists_eq_or_imp, exists_eq_left, ihr,
        ihs]
      exact (endsOf_or p q).symm
  | loop r least most greedy ih =>
      have hforward : Forward r.ends := fun p q hq => ((ih p q).1 hq).reaches
      rw [ends, hforward.mem_loopEnds]
      simp only [rounds_iff_endsOf ih]
      constructor
      · rintro ⟨n, hleast, hmost, w, a, hw, h, rfl⟩
        exact ⟨w, a, hw, ⟨n, hleast, hmost, h⟩, rfl⟩
      · rintro ⟨w, a, hw, ⟨n, hleast, hmost, h⟩, rfl⟩
        exact ⟨n, hleast, hmost, w, a, hw, h, rfl⟩

/-! ### Searching -/

/-- A search from a place on finds something exactly if some part of the text is matched. -/
lemma isSome_foundFrom?_iff (r : Regex) (i : ℕ) (b : Option Char) (s : List Char) :
    (foundFrom? r i b s).isSome = true ↔
      ∃ u w v, s = u ++ (w ++ v) ∧ r.Matches (u.getLast?.or b) w v := by
  have hends (i : ℕ) (b : Option Char) (s : List Char) :
      r.ends ⟨i, b, s⟩ ≠ [] ↔ ∃ w v, s = w ++ v ∧ r.Matches b w v := by
    constructor
    · intro hne
      obtain ⟨q, hq⟩ := List.exists_mem_of_ne_nil _ hne
      obtain ⟨w, v, hw, h, -⟩ := (mem_ends_iff _ _ _).1 hq
      exact ⟨w, v, hw, h⟩
    · rintro ⟨w, v, hw, h⟩
      exact List.ne_nil_of_mem ((mem_ends_iff _ _ _).2 ⟨w, v, hw, h, rfl⟩)
  induction s generalizing i b with
  | nil =>
      have hfound : (foundFrom? r i b []).isSome = true ↔ r.ends ⟨i, b, []⟩ ≠ [] := by
        rw [foundFrom?, Option.isSome_map, List.isSome_head?]
      rw [hfound, hends]
      constructor
      · rintro ⟨w, v, hw, h⟩
        exact ⟨[], w, v, hw, h⟩
      · rintro ⟨u, w, v, hw, h⟩
        obtain ⟨rfl, hrest⟩ := List.append_eq_nil_iff.1 hw.symm
        exact ⟨w, v, hrest.symm, h⟩
  | cons c s ih =>
      have hfound : (foundFrom? r i b (c :: s)).isSome = true ↔
          r.ends ⟨i, b, c :: s⟩ ≠ [] ∨ (foundFrom? r (i + 1) (some c) s).isSome = true := by
        rw [foundFrom?]
        split
        · next h => simp [h]
        · next h => simp [h]
      have hlast (u : List Char) : (c :: u).getLast?.or b = u.getLast?.or (some c) := by
        rw [List.getLast?_cons]
        cases u.getLast? <;> rfl
      rw [hfound, hends]
      refine (or_congr_right (ih (i + 1) (some c))).trans ⟨?_, ?_⟩
      · rintro (⟨w, v, hw, h⟩ | ⟨u, w, v, rfl, h⟩)
        · exact ⟨[], w, v, hw, h⟩
        · exact ⟨c :: u, w, v, rfl, by rwa [hlast]⟩
      · rintro ⟨u, w, v, hw, h⟩
        cases u with
        | nil => exact .inl ⟨w, v, hw, h⟩
        | cons d u =>
            obtain ⟨rfl, hrest⟩ := List.cons.inj hw
            exact .inr ⟨u, w, v, hrest, by rwa [← hlast]⟩

/-- **An expression is found** in a text exactly if it matches some part of it. -/
theorem isSome_find?_iff (r : Regex) (s : List Char) :
    (r.find? s).isSome = true ↔ ∃ u w v, s = u ++ (w ++ v) ∧ r.Matches u.getLast? w v := by
  rw [find?, Option.isSome_map, isSome_foundFrom?_iff]
  simp

/-! ### What is matched, and where -/

/-- The expression has no set with the character in it. -/
def avoids (c : Char) : Regex → Bool
  | empty | look _ => true
  | chars set | run set _ _ _ => !set.contains c
  | seq r s | alt r s => avoids c r && avoids c s
  | loop r _ _ _ => avoids c r

/-- The expression cannot do without characters other than the given one. -/
def needsBeside (c : Char) : Regex → Bool
  | empty | look _ => false
  | chars set => !set.contains c
  | run set least _ _ => 0 < least && !set.contains c
  | seq r s => needsBeside c r || needsBeside c s
  | alt r s => needsBeside c r && needsBeside c s
  | loop r least _ _ => 0 < least && needsBeside c r

/-- The only condition on places in the expression is the boundary of a word. -/
def onlyBoundaries (word : CharSet) : Regex → Bool
  | empty | chars _ | run _ _ _ _ => true
  | look l => l = .wordBoundary word
  | seq r s | alt r s => onlyBoundaries word r && onlyBoundaries word s
  | loop r _ _ _ => onlyBoundaries word r

section Matched

variable {r : Regex} {b : Option Char} {w a : List Char}

/-- Texts in a row have what each of them has. -/
lemma Times.forall_mem {R : Option Char → List Char → List Char → Prop} {Q : Char → Prop}
    (hR : ∀ b w a, R b w a → ∀ c ∈ w, Q c) {n : ℕ} (h : Times R n b w a) : ∀ c ∈ w, Q c := by
  induction n generalizing b w with
  | zero => cases h; simp
  | succ n ih =>
      obtain ⟨u, v, rfl, hu, hv⟩ := h
      exact List.forall_mem_append.2 ⟨hR _ _ _ hu, ih hv⟩

/-- A character that is not in a set is none of those that are. -/
lemma ne_of_contains {set : CharSet} {c d : Char} (hc : (!set.contains c) = true)
    (hd : set.contains d = true) : d ≠ c := by
  rintro rfl
  simp [hd] at hc

/-- A character that an expression avoids is in no text that it matches. -/
lemma Matches.not_mem {c : Char} (hc : r.avoids c = true) (h : r.Matches b w a) : c ∉ w := by
  suffices hall : ∀ d ∈ w, d ≠ c from fun hmem => hall c hmem rfl
  induction r generalizing b w a with
  | empty => cases h; simp
  | look l => obtain ⟨rfl, -⟩ := h; simp
  | chars set =>
      obtain ⟨d, rfl, hd⟩ := h
      simpa using ne_of_contains hc hd
  | run set least most greedy => exact fun d hd => ne_of_contains hc (h.2.2 d hd)
  | seq r s ihr ihs =>
      obtain ⟨u, v, rfl, hu, hv⟩ := h
      obtain ⟨hr, hs⟩ := Bool.and_eq_true_iff.1 hc
      exact List.forall_mem_append.2 ⟨ihr hr hu, ihs hs hv⟩
  | alt r s ihr ihs =>
      obtain ⟨hr, hs⟩ := Bool.and_eq_true_iff.1 hc
      exact h.elim (ihr hr) (ihs hs)
  | loop r least most greedy ih =>
      obtain ⟨n, -, -, hn⟩ := h
      exact hn.forall_mem fun _ _ _ => ih hc

/-- What an expression matches has the characters that it cannot do without. -/
lemma Matches.exists_ne {c : Char} (hr : r.needsBeside c = true) (h : r.Matches b w a) :
    ∃ d ∈ w, d ≠ c := by
  induction r generalizing b w a with
  | empty | look l => cases hr
  | chars set =>
      obtain ⟨d, rfl, hd⟩ := h
      exact ⟨d, List.mem_singleton_self d, ne_of_contains hr hd⟩
  | run set least most greedy =>
      obtain ⟨hleast, hset⟩ := Bool.and_eq_true_iff.1 hr
      have hpos : 0 < w.length := (of_decide_eq_true hleast).trans_le h.1
      obtain ⟨d, hd⟩ := List.exists_mem_of_length_pos hpos
      exact ⟨d, hd, ne_of_contains hset (h.2.2 d hd)⟩
  | seq r s ihr ihs =>
      obtain ⟨u, v, rfl, hu, hv⟩ := h
      rcases Bool.or_eq_true_iff.1 hr with hr | hs
      · obtain ⟨d, hd, hne⟩ := ihr hr hu
        exact ⟨d, List.mem_append_left v hd, hne⟩
      · obtain ⟨d, hd, hne⟩ := ihs hs hv
        exact ⟨d, List.mem_append_right u hd, hne⟩
  | alt r s ihr ihs =>
      obtain ⟨hr, hs⟩ := Bool.and_eq_true_iff.1 hr
      exact h.elim (ihr hr) (ihs hs)
  | loop r least most greedy ih =>
      obtain ⟨n, hle, -, hn⟩ := h
      obtain ⟨hleast, hr⟩ := Bool.and_eq_true_iff.1 hr
      have hpos : 0 < n := (of_decide_eq_true hleast).trans_le hle
      obtain ⟨k, rfl⟩ : ∃ k, n = k + 1 := ⟨n - 1, by omega⟩
      obtain ⟨u, v, rfl, hu, -⟩ := hn
      obtain ⟨d, hd, hne⟩ := ih hr hu
      exact ⟨d, List.mem_append_left v hd, hne⟩

lemma Matches.ne_nil {c : Char} (hr : r.needsBeside c = true) (h : r.Matches b w a) : w ≠ [] := by
  obtain ⟨d, hd, -⟩ := h.exists_ne hr
  exact List.ne_nil_of_mem hd

/-- Nothing is found among repetitions of a character that an expression cannot do with alone. -/
lemma find?_eq_none_of_forall {c : Char} (hr : r.needsBeside c = true) (hw : ∀ d ∈ w, d = c) :
    r.find? w = none := by
  rw [← Option.not_isSome_iff_eq_none, isSome_find?_iff]
  rintro ⟨u, v, t, rfl, h⟩
  obtain ⟨d, hd, hne⟩ := h.exists_ne hr
  exact hne (hw d (by simp [hd]))

/-- A character, or the lack of one, that is a word character exactly if the other is. -/
def SameWord (word : CharSet) (c d : Option Char) : Prop :=
  c.any word.contains = d.any word.contains

lemma SameWord.or {word : CharSet} {c d : Option Char} (h : SameWord word c d) (e : Option Char) :
    SameWord word (e.or c) (e.or d) := by
  cases e with
  | none => exact h
  | some e => rfl

/-- **Of what surrounds a text, an expression that only asks for word boundaries sees** whether it
is a word character. -/
theorem Matches.congr {word : CharSet} (hr : r.onlyBoundaries word = true) {b' : Option Char}
    {a' : List Char} (hb : SameWord word b b') (ha : SameWord word a.head? a'.head?)
    (h : r.Matches b w a) : r.Matches b' w a' := by
  have hhead {a a' : List Char} (ha : SameWord word a.head? a'.head?) (v : List Char) :
      SameWord word (v ++ a).head? (v ++ a').head? := by
    rw [List.head?_append, List.head?_append]
    exact ha.or _
  induction r generalizing b b' w a a' with
  | empty | chars set => exact h
  | run set least most greedy => exact h
  | look l =>
      obtain ⟨hw, hl⟩ := h
      have hl' : l = .wordBoundary word := by simpa [onlyBoundaries] using hr
      subst hl'
      refine ⟨hw, ?_⟩
      rw [Look.holds] at hl ⊢
      rw [SameWord] at hb ha
      simpa only [hb, ha] using hl
  | seq r s ihr ihs =>
      obtain ⟨u, v, hw, hu, hv⟩ := h
      obtain ⟨hr, hs⟩ := Bool.and_eq_true_iff.1 hr
      exact ⟨u, v, hw, ihr hr hb (hhead ha v) hu, ihs hs (hb.or _) ha hv⟩
  | alt r s ihr ihs =>
      obtain ⟨hr, hs⟩ := Bool.and_eq_true_iff.1 hr
      exact h.imp (ihr hr hb ha) (ihs hs hb ha)
  | loop r least most greedy ih =>
      obtain ⟨n, hleast, hmost, hn⟩ := h
      refine ⟨n, hleast, hmost, ?_⟩
      clear hleast hmost
      induction n generalizing b b' w with
      | zero => exact hn
      | succ n ihn =>
          obtain ⟨u, v, hw, hu, hv⟩ := hn
          exact ⟨u, v, hw, ih hr hb (hhead ha v) hu, ihn (hb.or _) hv⟩

end Matched

/-! ### Expressions that match wherever a text stands -/

/-- The expression matches the text by itself. -/
def Accepts (r : Regex) (w : List Char) : Prop := r.Matches none w []

section Accepted

variable {r s : Regex} {w : List Char}

/-- An expression without conditions on places matches a text wherever it stands. -/
lemma matches_iff_accepts (hr : r.onlyBoundaries .empty = true) {b : Option Char} {a : List Char} :
    r.Matches b w a ↔ r.Accepts w := by
  have hsame (c d : Option Char) : SameWord .empty c d := by cases c <;> cases d <;> rfl
  exact ⟨fun h => h.congr hr (hsame _ _) (hsame _ _), fun h => h.congr hr (hsame _ _) (hsame _ _)⟩

lemma accepts_seq (h : (seq r s).onlyBoundaries .empty = true) :
    (seq r s).Accepts w ↔ ∃ u v, w = u ++ v ∧ r.Accepts u ∧ s.Accepts v := by
  obtain ⟨hr, hs⟩ := Bool.and_eq_true_iff.1 h
  refine exists_congr fun u => exists_congr fun v => and_congr_right fun _ => ?_
  rw [matches_iff_accepts hr, matches_iff_accepts hs]

lemma accepts_alt : (alt r s).Accepts w ↔ r.Accepts w ∨ s.Accepts w := Iff.rfl

lemma accepts_char {c : Char} : (char c).Accepts w ↔ w = [c] := by
  simp [Accepts, char, Matches]

/-- A repeated expression matches texts in a row, each of which the expression matches. -/
lemma accepts_star {α : Type} {f : α → List Char} {P : α → Prop}
    (hplain : r.onlyBoundaries .empty = true)
    (hr : ∀ u, r.Accepts u ↔ ∃ p, P p ∧ u = f p) :
    (star r).Accepts w ↔ ∃ ps : List α, (∀ p ∈ ps, P p) ∧ w = ps.flatMap f := by
  have htimes (n : ℕ) (b : Option Char) (w : List Char) (h : Times r.Matches n b w []) :
      ∃ ps : List α, (∀ p ∈ ps, P p) ∧ w = ps.flatMap f := by
    induction n generalizing b w with
    | zero => exact ⟨[], by simp, h⟩
    | succ n ih =>
        obtain ⟨u, v, rfl, hu, hv⟩ := h
        obtain ⟨p, hp, rfl⟩ := (hr u).1 ((matches_iff_accepts hplain).1 hu)
        obtain ⟨ps, hps, rfl⟩ := ih _ v hv
        exact ⟨p :: ps, List.forall_mem_cons.2 ⟨hp, hps⟩, rfl⟩
  have hrow (ps : List α) (b : Option Char) (hps : ∀ p ∈ ps, P p) :
      Times r.Matches ps.length b (ps.flatMap f) [] := by
    induction ps generalizing b with
    | nil => rfl
    | cons p ps ih =>
        obtain ⟨hp, hps⟩ := List.forall_mem_cons.1 hps
        exact ⟨f p, ps.flatMap f, rfl, (matches_iff_accepts hplain).2 ((hr _).2 ⟨p, hp, rfl⟩),
          ih _ hps⟩
  constructor
  · rintro ⟨n, -, -, h⟩
    exact htimes n none w h
  · rintro ⟨ps, hps, rfl⟩
    exact ⟨ps.length, Nat.zero_le _, by simp, hrow ps none hps⟩

/-- An expression without conditions on places is found where it matches a part of the text. -/
lemma isSome_find?_iff_accepts (hr : r.onlyBoundaries .empty = true) (s : List Char) :
    (r.find? s).isSome = true ↔ ∃ u w v, s = u ++ (w ++ v) ∧ r.Accepts w := by
  rw [isSome_find?_iff]
  simp only [matches_iff_accepts hr]

end Accepted

end QualityGate.Regex
