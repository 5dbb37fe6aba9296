import QualityGate.Regex.Basic
import Mathlib.Tactic

/-!
Places that are reached from a place, and loops as numbers of rounds. The tables of `Regex.ends`
give the ends of a loop for all places at once; what stands in them is said here by how many rounds
lead from one place to another.

* `Cursor.Reaches`: a place that lies further on. Its index tells which one it is, so dropping
  repetitions by index loses nothing.
* `rounds`: so many rounds lead from one place to another.
* `mem_loopEnds`: **the ends of a loop** are the places that a permitted number of rounds leads to.
-/

namespace QualityGate.Regex

namespace Cursor

/-- The place after a front part of the text that follows. -/
def advance (p : Cursor) (w : List Char) : Cursor :=
  ⟨p.index + w.length, w.getLast?.or p.before, p.after.drop w.length⟩

@[simp] lemma advance_nil (p : Cursor) : p.advance [] = p := by simp [advance]

/-- Going on after a character. -/
lemma advance_cons (i : ℕ) (b : Option Char) (c : Char) (rest w : List Char) :
    advance ⟨i, b, c :: rest⟩ (c :: w) = advance ⟨i + 1, some c, rest⟩ w := by
  have hlast : (c :: w).getLast?.or b = w.getLast?.or (some c) := by
    rw [List.getLast?_cons]
    cases w.getLast? <;> rfl
  simp only [advance, hlast, List.length_cons, List.drop_succ_cons, mk.injEq, and_true]
  omega

/-- Going on twice. -/
lemma advance_append (p : Cursor) (u v : List Char) :
    p.advance (u ++ v) = (p.advance u).advance v := by
  simp only [advance, List.length_append, List.getLast?_append, List.drop_drop, mk.injEq]
  exact ⟨by omega, Option.or_assoc, trivial⟩

/-- The other place lies further on in the same text. -/
def Reaches (p q : Cursor) : Prop := ∃ w, w <+: p.after ∧ q = p.advance w

lemma Reaches.refl (p : Cursor) : p.Reaches p := ⟨[], List.nil_prefix, p.advance_nil.symm⟩

lemma Reaches.trans {p q r : Cursor} (h : p.Reaches q) (h' : q.Reaches r) : p.Reaches r := by
  obtain ⟨u, hu, rfl⟩ := h
  obtain ⟨v, hv, rfl⟩ := h'
  obtain ⟨s, hs⟩ := hu
  refine ⟨u ++ v, ?_, (p.advance_append u v).symm⟩
  have hafter : (p.advance u).after = s := by rw [advance, ← hs, List.drop_left]
  rw [hafter] at hv
  rw [← hs]
  exact (List.prefix_append_right_inj u).2 hv

/-- There is one place only with an index. -/
lemma Reaches.eq_of_index {p q r : Cursor} (hq : p.Reaches q) (hr : p.Reaches r)
    (h : q.index = r.index) : q = r := by
  obtain ⟨u, hu, rfl⟩ := hq
  obtain ⟨v, hv, rfl⟩ := hr
  have hlength : u.length = v.length := by
    simp only [advance] at h
    omega
  rw [List.prefix_iff_eq_take.1 hu, List.prefix_iff_eq_take.1 hv, hlength]

end Cursor

open Cursor

/-! ### Lists of places -/

section Places

variable {p q : Cursor}

lemma mem_distinct {ps : List Cursor} (h : ∀ q ∈ ps, p.Reaches q) : q ∈ distinct ps ↔ q ∈ ps := by
  refine ⟨mem_of_mem_distinct, fun hq => ?_⟩
  obtain ⟨r, hr, hindex⟩ := List.mem_map.1 (mem_map_index_distinct.2 (List.mem_map_of_mem hq))
  have heq := (h r (mem_of_mem_distinct hr)).eq_of_index (h q hq) hindex
  exact heq ▸ hr

lemma mem_joinAll {lists : List (List Cursor)} (h : ∀ ps ∈ lists, ∀ q ∈ ps, p.Reaches q) :
    q ∈ joinAll lists ↔ ∃ ps ∈ lists, q ∈ ps := by
  match lists with
  | [] => simp [joinAll]
  | [ps] => simp [joinAll]
  | ps :: qs :: more =>
      have hflat : ∀ r ∈ (ps :: qs :: more).flatten, p.Reaches r := by
        intro r hr
        obtain ⟨rs, hrs, hmem⟩ := List.mem_flatten.1 hr
        exact h rs hrs r hmem
      exact (mem_distinct hflat).trans List.mem_flatten

/-- A loop stops at the place itself or goes on. -/
lemma mem_stopOr {greedy : Bool} {more : List Cursor} (h : ∀ q ∈ more, p.Reaches q) :
    q ∈ stopOr greedy p more ↔ q = p ∨ q ∈ more := by
  have hsame {r : Cursor} (hr : r ∈ more) (hindex : r.index = p.index) : r = p :=
    (h r hr).eq_of_index (.refl p) hindex
  cases greedy with
  | true =>
      rw [stopOr, if_pos rfl]
      split
      · next hany =>
          obtain ⟨r, hr, hindex⟩ := List.any_eq_true.1 hany
          have heq := hsame hr (by simpa using hindex)
          subst heq
          exact ⟨.inr, fun hq => hq.elim (fun hq => hq ▸ hr) id⟩
      · simp [or_comm]
  | false =>
      rw [stopOr, if_neg (by simp), List.mem_cons, List.mem_filter]
      refine or_congr_right' fun hne => ⟨And.left, fun hq => ⟨hq, ?_⟩⟩
      simpa using fun hindex => hne (hsame hq hindex)

end Places

/-! ### Rounds -/

/-- A step leads on in the text. -/
def Forward (step : Cursor → List Cursor) : Prop := ∀ p, ∀ q ∈ step p, p.Reaches q

/-- So many rounds of a step lead from one place to another. -/
def rounds (step : Cursor → List Cursor) : ℕ → Cursor → Cursor → Prop
  | 0, p, q => q = p
  | n + 1, p, q => ∃ r ∈ step p, rounds step n r q

section Rounds

variable {step : Cursor → List Cursor}

lemma rounds_add (m n : ℕ) (p q : Cursor) :
    rounds step (m + n) p q ↔ ∃ r, rounds step m p r ∧ rounds step n r q := by
  induction m generalizing p with
  | zero => simp [rounds]
  | succ m ih =>
      rw [Nat.add_right_comm, rounds]
      simp only [ih, rounds]
      constructor
      · rintro ⟨r, hr, s, hs, hq⟩
        exact ⟨s, ⟨r, hr, hs⟩, hq⟩
      · rintro ⟨s, ⟨r, hr, hs⟩, hq⟩
        exact ⟨r, hr, s, hs, hq⟩

variable (hstep : Forward step)

include hstep

lemma Forward.reaches {n : ℕ} {p q : Cursor} (h : rounds step n p q) : p.Reaches q := by
  induction n generalizing p with
  | zero => cases h; exact .refl _
  | succ n ih =>
      obtain ⟨r, hr, hq⟩ := h
      exact (hstep p r hr).trans (ih hq)

omit hstep in
/-- A round that stays where it is can be left out. -/
lemma exists_rounds_iff {p q : Cursor} :
    (∃ n, rounds step n p q) ↔ q = p ∨ ∃ r ∈ step p, r ≠ p ∧ ∃ n, rounds step n r q := by
  constructor
  · rintro ⟨n, h⟩
    induction n with
    | zero => exact .inl h
    | succ n ih =>
        obtain ⟨r, hr, hq⟩ := h
        by_cases hrp : r = p
        · exact ih (hrp ▸ hq)
        · exact .inr ⟨r, hr, hrp, n, hq⟩
  · rintro (rfl | ⟨r, hr, -, n, hq⟩)
    · exact ⟨0, rfl⟩
    · exact ⟨n + 1, r, hr, hq⟩

/-- The ends of exactly so many rounds. -/
lemma Forward.mem_exactly {n : ℕ} {p q : Cursor} {ps : List Cursor} (hps : ∀ r ∈ ps, p.Reaches r) :
    q ∈ exactly step n ps ↔ ∃ r ∈ ps, rounds step n r q := by
  induction n generalizing ps with
  | zero => simp [exactly, rounds]
  | succ n ih =>
      have hreaches : ∀ qs ∈ ps.map step, ∀ r ∈ qs, p.Reaches r := by
        intro qs hqs r hr
        obtain ⟨s, hs, rfl⟩ := List.mem_map.1 hqs
        exact (hps s hs).trans (hstep s r hr)
      rw [exactly, ih fun r hr => ?_]
      · simp only [mem_joinAll hreaches, List.mem_map, exists_exists_and_eq_and, rounds]
        constructor
        · rintro ⟨s, ⟨r, hr, hs⟩, hq⟩
          exact ⟨r, hr, s, hs, hq⟩
        · rintro ⟨r, hr, s, hs, hq⟩
          exact ⟨s, ⟨r, hr, hs⟩, hq⟩
      · obtain ⟨qs, hqs, hr⟩ := (mem_joinAll hreaches).1 hr
        exact hreaches qs hqs r hr

/-! ### Tables -/

/-- What stands at a place in the table of a loop without a limit, if the right thing stands at the
places after it. A round that uses up no text is the last one. -/
lemma Forward.mem_stopOr_rounds {greedy : Bool} {p q : Cursor} (next : Cursor → List Cursor)
    (hnext : ∀ r ∈ step p, ∀ q, q ∈ next r ↔
      r = p ∧ q = p ∨ r ≠ p ∧ ∃ n, rounds step n r q) :
    q ∈ stopOr greedy p (joinAll ((step p).map next)) ↔ ∃ n, rounds step n p q := by
  have hreaches : ∀ ps ∈ (step p).map next, ∀ q ∈ ps, p.Reaches q := by
    intro ps hps q hq
    obtain ⟨r, hr, rfl⟩ := List.mem_map.1 hps
    rcases (hnext r hr q).1 hq with ⟨-, rfl⟩ | ⟨-, n, hn⟩
    · exact .refl _
    · exact (hstep p r hr).trans (hstep.reaches hn)
  have hjoin : (∃ ps ∈ (step p).map next, q ∈ ps) ↔ ∃ r ∈ step p, q ∈ next r := by simp
  rw [mem_stopOr fun r hr => ?_, mem_joinAll hreaches, hjoin, exists_rounds_iff]
  · constructor
    · rintro (hq | ⟨r, hr, hq⟩)
      · exact .inl hq
      · rcases (hnext r hr q).1 hq with ⟨-, hq⟩ | ⟨hne, hn⟩
        · exact .inl hq
        · exact .inr ⟨r, hr, hne, hn⟩
    · rintro (hq | ⟨r, hr, hne, hn⟩)
      · exact .inl hq
      · exact .inr ⟨r, hr, (hnext r hr q).2 (.inr ⟨hne, hn⟩)⟩
  · obtain ⟨ps, hps, hr⟩ := (mem_joinAll hreaches).1 hr
    exact hreaches ps hps r hr

/-- The table of a loop without a limit: at each place stand the places that any number of rounds
leads to. -/
lemma Forward.mem_starTable (greedy : Bool) (i : ℕ) (b : Option Char) (a : List Char) {k : ℕ}
    (hk : k ≤ a.length) (q : Cursor) : q ∈ (starTable step greedy i b a).getD k [] ↔
      ∃ n, rounds step n (advance ⟨i, b, a⟩ (a.take k)) q := by
  induction a generalizing i b k q with
  | nil =>
      have hk : k = 0 := by simpa using hk
      subst hk
      refine (hstep.mem_stopOr_rounds (fun r => [r]) fun r hr q => ?_).trans (by simp)
      -- there is nothing to go on with
      obtain ⟨w, hw, rfl⟩ := hstep _ r hr
      rw [List.prefix_nil.1 hw, advance_nil]
      simp
  | cons c rest ih =>
      cases k with
      | succ k =>
          rw [List.take_succ_cons, advance_cons]
          exact ih (i + 1) (some c) (by simpa using hk) q
      | zero =>
          rw [List.take_zero, advance_nil, starTable, List.getD_cons_zero]
          refine hstep.mem_stopOr_rounds _ fun r hr q => ?_
          obtain ⟨w, hw, rfl⟩ := hstep _ r hr
          cases w with
          | nil => simp
          | cons d w =>
              obtain ⟨rfl, hrest⟩ := List.cons_prefix_cons.1 hw
              have hlater : (advance ⟨i, b, d :: rest⟩ (d :: w)).index = i + 1 + w.length := by
                simp only [advance, List.length_cons]
                omega
              have hne : advance ⟨i, b, d :: rest⟩ (d :: w) ≠ ⟨i, b, d :: rest⟩ := fun h => by
                have hindex := congrArg Cursor.index h
                rw [hlater] at hindex
                simp only at hindex
                omega
              have hoffset : i + 1 + w.length - i - 1 = w.length := by omega
              rw [hlater, if_neg (by omega), hoffset, ih (i + 1) (some d) hrest.length_le,
                ← List.prefix_iff_eq_take.1 hrest, ← advance_cons i b]
              simp [hne]

omit hstep in
/-- The table of a function. -/
lemma getD_table (f : Cursor → List Cursor) (i : ℕ) (b : Option Char) (a : List Char) {k : ℕ}
    (hk : k ≤ a.length) : (table f i b a).getD k [] = f (advance ⟨i, b, a⟩ (a.take k)) := by
  induction a generalizing i b k with
  | nil =>
      have hk : k = 0 := by simpa using hk
      subst hk
      rw [List.take_nil, advance_nil]
      rfl
  | cons c rest ih =>
      cases k with
      | zero =>
          rw [List.take_zero, advance_nil]
          rfl
      | succ k =>
          rw [List.take_succ_cons, advance_cons]
          exact ih (i + 1) (some c) (by simpa using hk)

/-- The table of a loop with a limit: at each place stand the places that so many rounds or fewer
lead to. -/
lemma Forward.mem_upToTable (greedy : Bool) (i : ℕ) (b : Option Char) (a : List Char) (m : ℕ)
    {k : ℕ} (hk : k ≤ a.length) (q : Cursor) :
    q ∈ (upToTable step greedy i b a m).getD k [] ↔
      ∃ n ≤ m, rounds step n (advance ⟨i, b, a⟩ (a.take k)) q := by
  induction m generalizing k q with
  | zero =>
      rw [upToTable, getD_table _ i b a hk]
      simp [rounds]
  | succ m ih =>
      rw [upToTable, getD_table _ i b a hk]
      generalize hp : advance ⟨i, b, a⟩ (a.take k) = p
      have hnext (r : Cursor) (hr : r ∈ step p) (q : Cursor) :
          q ∈ (upToTable step greedy i b a m).getD (r.index - i) [] ↔
            ∃ n ≤ m, rounds step n r q := by
        obtain ⟨w, hw, rfl⟩ := hstep p r hr
        obtain ⟨s, hs⟩ := hw
        have hafter : a = a.take k ++ (w ++ s) := by
          rw [hs, ← hp, advance, List.length_take, Nat.min_eq_left hk, List.take_append_drop]
        have hprefix : a.take k ++ w <+: a := ⟨s, by rw [List.append_assoc, ← hafter]⟩
        have hindex : (p.advance w).index - i = (a.take k ++ w).length := by
          rw [← hp, List.length_append]
          simp only [advance]
          omega
        rw [hindex, ih hprefix.length_le, ← List.prefix_iff_eq_take.1 hprefix, advance_append, hp]
      have hreaches : ∀ ps ∈ (step p).map fun r =>
          (upToTable step greedy i b a m).getD (r.index - i) [], ∀ q ∈ ps, p.Reaches q := by
        intro ps hps q hq
        obtain ⟨r, hr, rfl⟩ := List.mem_map.1 hps
        obtain ⟨n, -, hn⟩ := (hnext r hr q).1 hq
        exact (hstep p r hr).trans (hstep.reaches hn)
      rw [mem_stopOr fun r hr => ?_, mem_joinAll hreaches]
      · constructor
        · rintro (rfl | ⟨ps, hps, hq⟩)
          · exact ⟨0, by omega, rfl⟩
          · obtain ⟨r, hr, rfl⟩ := List.mem_map.1 hps
            obtain ⟨n, hn, hq⟩ := (hnext r hr q).1 hq
            exact ⟨n + 1, by omega, r, hr, hq⟩
        · rintro ⟨n, hn, hq⟩
          cases n with
          | zero => exact .inl hq
          | succ n =>
              obtain ⟨r, hr, hq⟩ := hq
              exact .inr ⟨_, List.mem_map_of_mem hr, (hnext r hr q).2 ⟨n, by omega, hq⟩⟩
      · obtain ⟨ps, hps, hr⟩ := (mem_joinAll hreaches).1 hr
        exact hreaches ps hps r hr

/-- **The ends of a loop** are the places that a permitted number of rounds leads to. A limit below
the least number of rounds permits just that number. -/
theorem Forward.mem_loopEnds (least : ℕ) (most : Option ℕ) (greedy : Bool) (p q : Cursor) :
    q ∈ loopEnds step least most greedy p ↔
      ∃ n, least ≤ n ∧ (∀ m ∈ most, n ≤ max least m) ∧ rounds step n p q := by
  have hexactly {r : Cursor} : r ∈ exactly step least [p] ↔ rounds step least p r := by
    rw [hstep.mem_exactly (p := p) (by simp [Reaches.refl])]
    simp
  have hhead (l : List (List Cursor)) : l.headD [] = l.getD 0 [] := by cases l <;> rfl
  -- what the rounds after the least number of rounds lead to
  obtain ⟨next, hends, hnext⟩ : ∃ next : Cursor → List Cursor,
      loopEnds step least most greedy p = joinAll ((exactly step least [p]).map next) ∧
        ∀ r q, q ∈ next r ↔ ∃ n, (∀ m ∈ most, n ≤ m - least) ∧ rounds step n r q := by
    cases most with
    | none =>
        refine ⟨fun r => (starTable step greedy r.index r.before r.after).headD [], rfl,
          fun r q => ?_⟩
        have htable := hstep.mem_starTable greedy r.index r.before r.after (Nat.zero_le _) q
        rw [List.take_zero, advance_nil, ← hhead] at htable
        exact htable.trans (by simp)
    | some m =>
        refine ⟨fun r => (upToTable step greedy r.index r.before r.after (m - least)).headD [], rfl,
          fun r q => ?_⟩
        have htable :=
          hstep.mem_upToTable greedy r.index r.before r.after (m - least) (Nat.zero_le _) q
        rw [List.take_zero, advance_nil, ← hhead] at htable
        exact htable.trans (by simp)
  rw [hends]
  have hreaches : ∀ ps ∈ (exactly step least [p]).map next, ∀ q ∈ ps, p.Reaches q := by
    intro ps hps q hq
    obtain ⟨r, hr, rfl⟩ := List.mem_map.1 hps
    obtain ⟨n, -, hn⟩ := (hnext r q).1 hq
    exact (hstep.reaches (hexactly.1 hr)).trans (hstep.reaches hn)
  rw [mem_joinAll hreaches]
  constructor
  · rintro ⟨ps, hps, hq⟩
    obtain ⟨r, hr, rfl⟩ := List.mem_map.1 hps
    obtain ⟨n, hn, hq⟩ := (hnext r q).1 hq
    refine ⟨least + n, by omega, fun m hm => ?_, (rounds_add _ _ _ _).2 ⟨r, hexactly.1 hr, hq⟩⟩
    have := hn m hm
    omega
  · rintro ⟨n, hle, hmost, hn⟩
    obtain ⟨k, rfl⟩ := Nat.exists_eq_add_of_le hle
    obtain ⟨r, hr, hq⟩ := (rounds_add _ _ _ _).1 hn
    refine ⟨_, List.mem_map_of_mem (hexactly.2 hr), (hnext r q).2 ⟨k, fun m hm => ?_, hq⟩⟩
    have := hmost m hm
    omega

end Rounds

/-! ### Runs -/

/-- A run of characters of a set at the front of a text, of at most so many characters. -/
structure IsRun (set : CharSet) (most : Option ℕ) (a w : List Char) : Prop where
  front : w <+: a
  mem : ∀ c ∈ w, set.contains c = true
  le : ∀ m ∈ most, w.length ≤ m

lemma isRun_nil (set : CharSet) (most : Option ℕ) (a : List Char) : IsRun set most a [] :=
  ⟨List.nil_prefix, by simp, by simp⟩

/-- A run goes on with the next character, if the limit allows it. -/
lemma isRun_cons {set : CharSet} {most : Option ℕ} (hmost : most ≠ some 0) {c d : Char}
    {rest w : List Char} : IsRun set most (c :: rest) (d :: w) ↔
      d = c ∧ set.contains c = true ∧ IsRun set (most.map (· - 1)) rest w := by
  have hle : (∀ m ∈ most.map (· - 1), w.length ≤ m) ↔ ∀ m ∈ most, w.length + 1 ≤ m := by
    rcases most with _ | _ | m
    · simp
    · exact absurd rfl hmost
    · simp
  constructor
  · rintro ⟨hfront, hmem, hm⟩
    obtain ⟨rfl, hrest⟩ := List.cons_prefix_cons.1 hfront
    obtain ⟨hc, hmem⟩ := List.forall_mem_cons.1 hmem
    exact ⟨rfl, hc, hrest, hmem, hle.2 hm⟩
  · rintro ⟨rfl, hc, hrun⟩
    exact ⟨List.cons_prefix_cons.2 ⟨rfl, hrun.front⟩, List.forall_mem_cons.2 ⟨hc, hrun.mem⟩,
      hle.1 hrun.le⟩

/-- Where the limit allows another character, the places go on behind the next one, if it is in the
set. -/
lemma runPlaces_cons {most : Option ℕ} (hmost : most ≠ some 0) (set : CharSet) (i : ℕ)
    (b : Option Char) (c : Char) (rest : List Char) :
    runPlaces set i b most (c :: rest) = ⟨i, b, c :: rest⟩ ::
      if set.contains c then runPlaces set (i + 1) (some c) (most.map (· - 1)) rest else [] := by
  rcases most with _ | _ | m
  · rfl
  · exact absurd rfl hmost
  · rfl

/-- The places behind the runs with one character more. -/
lemma exists_isRun_succ {set : CharSet} {most : Option ℕ} (hmost : most ≠ some 0) {i k : ℕ}
    {b : Option Char} {c : Char} {rest : List Char} {q : Cursor} :
    (∃ w, w.length = k + 1 ∧ IsRun set most (c :: rest) w ∧ q = advance ⟨i, b, c :: rest⟩ w) ↔
      set.contains c = true ∧ ∃ w, w.length = k ∧ IsRun set (most.map (· - 1)) rest w ∧
        q = advance ⟨i + 1, some c, rest⟩ w := by
  constructor
  · rintro ⟨w, hlength, hrun, rfl⟩
    obtain ⟨d, w, rfl⟩ := List.exists_cons_of_length_eq_add_one hlength
    obtain ⟨rfl, hc, hrun⟩ := (isRun_cons hmost).1 hrun
    exact ⟨hc, w, by simpa using hlength, hrun, advance_cons _ _ _ _ _⟩
  · rintro ⟨hc, w, hlength, hrun, rfl⟩
    exact ⟨c :: w, by simp [hlength], (isRun_cons hmost).2 ⟨rfl, hc, hrun⟩,
      (advance_cons _ _ _ _ _).symm⟩

/-- The places along a run of characters of a set, by the number of characters. -/
lemma getElem?_runPlaces (set : CharSet) (i : ℕ) (b : Option Char) (most : Option ℕ)
    (a : List Char) (k : ℕ) (q : Cursor) : (runPlaces set i b most a)[k]? = some q ↔
      ∃ w, w.length = k ∧ IsRun set most a w ∧ q = advance ⟨i, b, a⟩ w := by
  -- the first place is the one before any character
  have hfirst (i : ℕ) (b : Option Char) (most : Option ℕ) (a : List Char) :
      some (⟨i, b, a⟩ : Cursor) = some q ↔
        ∃ w, w.length = 0 ∧ IsRun set most a w ∧ q = advance ⟨i, b, a⟩ w := by
    constructor
    · rintro ⟨⟩
      exact ⟨[], rfl, isRun_nil set most a, (advance_nil _).symm⟩
    · rintro ⟨w, hw, -, rfl⟩
      rw [List.length_eq_zero_iff.1 hw, advance_nil]
  -- it is the only one where no run has a character
  have honly {i k : ℕ} {b : Option Char} {most : Option ℕ} {a : List Char}
      (hempty : ∀ w, IsRun set most a w → w.length = 0) :
      [(⟨i, b, a⟩ : Cursor)][k]? = some q ↔
        ∃ w, w.length = k ∧ IsRun set most a w ∧ q = advance ⟨i, b, a⟩ w := by
    cases k with
    | zero => exact hfirst i b most a
    | succ k =>
        refine iff_of_false (by simp) ?_
        rintro ⟨w, hlength, hrun, -⟩
        rw [hempty w hrun] at hlength
        cases hlength
  induction a generalizing i b most k with
  | nil =>
      have hplaces : runPlaces set i b most [] = [⟨i, b, []⟩] := by
        rcases most with _ | _ | m <;> rfl
      rw [hplaces]
      exact honly fun w hrun => List.length_eq_zero_iff.2 (List.prefix_nil.1 hrun.front)
  | cons c rest ih =>
      by_cases hzero : most = some 0
      · subst hzero
        rw [runPlaces]
        exact honly fun w hrun => Nat.le_zero.1 (hrun.le 0 rfl)
      · rw [runPlaces_cons hzero]
        cases k with
        | zero => exact hfirst i b most (c :: rest)
        | succ k =>
            rw [List.getElem?_cons_succ, exists_isRun_succ hzero]
            split
            · next hc => exact (ih _ _ _ _).trans (by simp [hc])
            · next hc => simp [hc]

/-- **The ends of a run** of characters of a set. -/
theorem mem_runEnds (set : CharSet) (least : ℕ) (most : Option ℕ) (greedy : Bool) (p q : Cursor) :
    q ∈ runEnds set least most greedy p ↔
      ∃ w, least ≤ w.length ∧ IsRun set most p.after w ∧ q = p.advance w := by
  have hplaces : q ∈ (runPlaces set p.index p.before most p.after).drop least ↔
      ∃ w, least ≤ w.length ∧ IsRun set most p.after w ∧ q = p.advance w := by
    rw [List.mem_iff_getElem?]
    simp only [List.getElem?_drop, getElem?_runPlaces]
    constructor
    · rintro ⟨k, w, hlength, hrun, rfl⟩
      exact ⟨w, by omega, hrun, rfl⟩
    · rintro ⟨w, hleast, hrun, rfl⟩
      exact ⟨w.length - least, w, by omega, hrun, rfl⟩
  rw [runEnds]
  cases greedy with
  | true => simpa using hplaces
  | false => simpa using hplaces

end QualityGate.Regex
