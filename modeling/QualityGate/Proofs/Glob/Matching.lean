import QualityGate.Glob.Match
import QualityGate.Proofs.Regex.Matching
import Mathlib.Tactic

/-!
What globs match. A glob that ends in a wildcard matches with every path also those that go on after
it, and a glob that starts with two stars and a slash does not notice a dot and a slash in front of
a path, if a literal character other than a dot follows.

* `isMatch_iff`: a path matches if the expression of the glob accepts its bytes.
* `Regex.goesOn`, `Regex.Accepts.append`: expressions that accept a text together with everything
  after it.
* `Glob.reachesOn`, `Glob.isMatch_append`: **globs that end in a wildcard**.
* `Glob.StartsDeep`, `Glob.isMatch_dotSlash_iff`: **globs that start with two stars** and a slash.
-/

namespace QualityGate

namespace Regex

/-- An expression matches all of a text if it accepts it. -/
lemma matchesAll_iff (r : Regex) (w : List Char) : r.matchesAll w = true ↔ r.Accepts w := by
  rw [matchesAll, List.any_eq_true]
  constructor
  · rintro ⟨q, hq, hend⟩
    obtain ⟨u, a, hu, h, rfl⟩ := (mem_ends_iff r _ _).1 hq
    rw [advance_after hu, List.isEmpty_iff] at hend
    subst hend
    have hw : w = u := hu.trans (List.append_nil u)
    exact hw ▸ h
  · intro h
    have hw : (Cursor.start w).after = w ++ [] := (List.append_nil w).symm
    exact ⟨_, (mem_ends_iff r _ _).2 ⟨w, [], hw, h, rfl⟩, by rw [advance_after hw]; rfl⟩

/-- The expression ends in a run of any characters. -/
def goesOn : Regex → Bool
  | run set _ most _ => set = .all && most.isNone
  | seq _ s => goesOn s
  | alt r s => goesOn r && goesOn s
  | empty | chars _ | look _ | loop _ _ _ _ => false

section GoesOn

variable {r : Regex} {rs : List Regex} {w : List Char}

/-- **What ends in a run of any characters** is accepted with anything after it. -/
theorem Accepts.append (hr : r.goesOn = true) (hplain : r.onlyBoundaries .empty = true)
    (h : r.Accepts w) (x : List Char) : r.Accepts (w ++ x) := by
  induction r generalizing w with
  | empty | chars set | look l | loop r least most greedy => cases hr
  | run set least most greedy =>
      obtain ⟨hset, hmost⟩ := Bool.and_eq_true_iff.1 hr
      obtain ⟨hleast, -, -⟩ := h
      rw [decide_eq_true_eq] at hset
      rw [Option.isNone_iff_eq_none] at hmost
      subst hset hmost
      refine ⟨hleast.trans ?_, by simp, fun c _ => rfl⟩
      rw [List.length_append]
      exact Nat.le_add_right _ _
  | seq r s ihr ihs =>
      obtain ⟨u, v, rfl, hu, hv⟩ := (accepts_seq hplain).1 h
      have hs := (Bool.and_eq_true_iff.1 hplain).2
      exact (accepts_seq hplain).2 ⟨u, v ++ x, List.append_assoc u v x, hu, ihs hr hs hv⟩
  | alt r s ihr ihs =>
      obtain ⟨hgr, hgs⟩ := Bool.and_eq_true_iff.1 hr
      obtain ⟨hpr, hps⟩ := Bool.and_eq_true_iff.1 hplain
      exact h.imp (ihr hgr hpr) (ihs hgs hps)

/-- Expressions in a row end as the last one does. -/
lemma goesOn_seqAll_concat (hr : r.goesOn = true) : (seqAll (rs ++ [r])).goesOn = true := by
  induction rs with
  | nil => exact hr
  | cons s rs ih =>
      cases rs with
      | nil => exact hr
      | cons s' rs => exact ih

lemma goesOn_altAll (hne : rs ≠ []) (hrs : ∀ r ∈ rs, r.goesOn = true) :
    (altAll rs).goesOn = true := by
  induction rs with
  | nil => exact absurd rfl hne
  | cons r rs ih =>
      obtain ⟨hr, hrs⟩ := List.forall_mem_cons.1 hrs
      cases rs with
      | nil => exact hr
      | cons s rs => exact Bool.and_eq_true_iff.2 ⟨hr, ih (List.cons_ne_nil _ _) hrs⟩

lemma plain_seqAll {word : CharSet} (hrs : ∀ r ∈ rs, r.onlyBoundaries word = true) :
    (seqAll rs).onlyBoundaries word = true := by
  induction rs with
  | nil => rfl
  | cons r rs ih =>
      obtain ⟨hr, hrs⟩ := List.forall_mem_cons.1 hrs
      cases rs with
      | nil => exact hr
      | cons s rs => exact Bool.and_eq_true_iff.2 ⟨hr, ih hrs⟩

/-- Expressions in a row accept what the first one accepts, followed by what the others do. -/
lemma accepts_seqAll_cons (hplain : ∀ s ∈ r :: rs, s.onlyBoundaries .empty = true) :
    (seqAll (r :: rs)).Accepts w ↔ ∃ u v, w = u ++ v ∧ r.Accepts u ∧ (seqAll rs).Accepts v := by
  cases rs with
  | nil =>
      constructor
      · exact fun h => ⟨w, [], (List.append_nil w).symm, h, rfl⟩
      · rintro ⟨u, v, rfl, h, rfl⟩
        rwa [List.append_nil]
  | cons s rs => exact accepts_seq (plain_seqAll hplain)

/-- Expressions for single characters in a row accept these characters. -/
lemma accepts_seqAll_char {w' : List Char} : (seqAll (w'.map char)).Accepts w ↔ w = w' := by
  have hplain (w' : List Char) : ∀ s ∈ w'.map char, s.onlyBoundaries .empty = true := by
    intro s hs
    obtain ⟨c, -, rfl⟩ := List.mem_map.1 hs
    rfl
  induction w' generalizing w with
  | nil => exact Iff.rfl
  | cons c w' ih =>
      rw [List.map_cons, accepts_seqAll_cons (hplain (c :: w'))]
      simp only [accepts_char, ih]
      constructor
      · rintro ⟨u, v, rfl, rfl, rfl⟩
        rfl
      · rintro rfl
        exact ⟨[c], w', rfl, rfl, rfl⟩

lemma plain_altAll {word : CharSet} (hrs : ∀ r ∈ rs, r.onlyBoundaries word = true) :
    (altAll rs).onlyBoundaries word = true := by
  induction rs with
  | nil => rfl
  | cons r rs ih =>
      obtain ⟨hr, hrs⟩ := List.forall_mem_cons.1 hrs
      cases rs with
      | nil => exact hr
      | cons s rs => exact Bool.and_eq_true_iff.2 ⟨hr, ih hrs⟩

end GoesOn

end Regex

/-! ### Expressions of globs -/

namespace Glob

open Regex

lemma bytes_append (s s' : List Char) : bytes (s ++ s') = bytes s ++ bytes s' := by
  rw [bytes, bytes, bytes, List.flatMap_append, List.map_append]

lemma tokenRegexes_eq_map (style : GlobStyle) (ts : List GlobToken) :
    tokenRegexes style ts = ts.map (tokenRegex style) := by
  induction ts with
  | nil => rw [tokenRegexes]; rfl
  | cons t ts ih => rw [tokenRegexes, ih]; rfl

mutual

/-- The expression of a token has no conditions on places. -/
theorem plain_tokenRegex (style : GlobStyle) :
    ∀ t : GlobToken, (tokenRegex style t).onlyBoundaries .empty = true
  | .literal c => by
      rw [tokenRegex]
      refine plain_seqAll fun r hr => ?_
      obtain ⟨b, -, rfl⟩ := List.mem_map.1 hr
      rfl
  | .any | .many | .deepFront | .deepEnd | .deepMiddle | .oneOf _ _ => by
      rw [tokenRegex]
      rfl
  | .choice branches => by
      have hbranches := plain_branchRegexes style branches
      rw [tokenRegex]
      split
      · rfl
      · exact plain_altAll hbranches

theorem plain_tokenRegexes (style : GlobStyle) :
    ∀ ts : List GlobToken, ∀ r ∈ tokenRegexes style ts, r.onlyBoundaries .empty = true
  | [] => by simp [tokenRegexes]
  | t :: ts => by
      rw [tokenRegexes]
      exact List.forall_mem_cons.2 ⟨plain_tokenRegex style t, plain_tokenRegexes style ts⟩

theorem plain_branchRegexes (style : GlobStyle) :
    ∀ branches : List (List GlobToken),
      ∀ r ∈ branchRegexes style branches, r.onlyBoundaries .empty = true
  | [] => by simp [branchRegexes]
  | ts :: rest => by
      have hts := plain_tokenRegexes style ts
      have hrest := plain_branchRegexes style rest
      rw [branchRegexes]
      split
      · exact hrest
      · next rs hrs =>
        refine List.forall_mem_cons.2 ⟨plain_seqAll fun r hr => ?_, hrest⟩
        exact hts r (List.mem_filter.1 hr).1

end

/-- The expression of a glob has no conditions on places. -/
lemma plain_toRegex (g : Glob) : g.toRegex.onlyBoundaries .empty = true := by
  rw [toRegex]
  split
  · rfl
  · exact plain_seqAll (plain_tokenRegexes g.style g.tokens)

/-- A path matches a glob if the expression of the glob accepts its bytes. -/
lemma isMatch_iff (g : Glob) (path : List Char) :
    (CompiledGlob.ofGlob g).isMatch path = true ↔ g.toRegex.Accepts (bytes path) :=
  matchesAll_iff g.toRegex (bytes path)

/-- A written glob is matched in the style in which it was read. -/
lemma style_of_ofText? {style : GlobStyle} {s : List Char} {g : Glob}
    (h : Glob.ofText? style s = some g) : g.style = style := by
  obtain ⟨tokens, -, rfl⟩ := Option.map_eq_some_iff.1 h
  rfl

/-! ### Globs that end in a wildcard -/

mutual

/-- The token ends in a wildcard: it is one for any text, or a choice between parts that all end in
one. -/
def tokenReachesOn : GlobToken → Bool
  | .many | .deepEnd => true
  | .choice branches => !branches.isEmpty && eachReachesOn branches
  | .literal _ | .any | .deepFront | .deepMiddle | .oneOf _ _ => false

/-- The last of some tokens ends in a wildcard. -/
def lastReachesOn : List GlobToken → Bool
  | [] => false
  | [t] => tokenReachesOn t
  | _ :: t :: ts => lastReachesOn (t :: ts)

/-- All branches of a choice end in a wildcard. -/
def eachReachesOn : List (List GlobToken) → Bool
  | [] => true
  | ts :: rest => lastReachesOn ts && eachReachesOn rest

end

/-- The glob ends in a wildcard for any text. Two stars alone are one. -/
def reachesOn (g : Glob) : Bool :=
  match g.tokens with
  | [.deepFront] => true
  | ts => lastReachesOn ts

mutual

/-- Where wildcards match slashes, a token that ends in one has an expression that goes on. -/
theorem goesOn_tokenRegex {style : GlobStyle} (hstyle : style.keepsSlashes = false) :
    ∀ t : GlobToken, tokenReachesOn t = true → (tokenRegex style t).goesOn = true
  | .many, _ => by
      rw [tokenRegex, wildSet, hstyle]
      rfl
  | .deepEnd, _ => by
      rw [tokenRegex]
      rfl
  | .choice branches, h => by
      rw [tokenReachesOn, Bool.and_eq_true] at h
      have hne : branches ≠ [] := by simpa using h.1
      obtain ⟨hgoes, hsome⟩ := goesOn_branchRegexes hstyle branches h.2
      rw [tokenRegex]
      split
      · next hnil => exact absurd hnil (hsome hne)
      · exact goesOn_altAll (hsome hne) hgoes
  | .literal _, h | .any, h | .deepFront, h | .deepMiddle, h | .oneOf _ _, h => by
      rw [tokenReachesOn] at h
      cases h

theorem goesOn_tokenRegexes {style : GlobStyle} (hstyle : style.keepsSlashes = false) :
    ∀ ts : List GlobToken, lastReachesOn ts = true →
      ∃ front r, tokenRegexes style ts = front ++ [r] ∧ r.goesOn = true
  | [], h => by
      rw [lastReachesOn] at h
      cases h
  | [t], h => by
      rw [lastReachesOn] at h
      exact ⟨[], tokenRegex style t, by rw [tokenRegexes, tokenRegexes]; rfl,
        goesOn_tokenRegex hstyle t h⟩
  | s :: t :: ts, h => by
      rw [lastReachesOn] at h
      obtain ⟨front, r, hfront, hr⟩ := goesOn_tokenRegexes hstyle (t :: ts) h
      exact ⟨tokenRegex style s :: front, r, by rw [tokenRegexes, hfront]; rfl, hr⟩

theorem goesOn_branchRegexes {style : GlobStyle} (hstyle : style.keepsSlashes = false) :
    ∀ branches : List (List GlobToken), eachReachesOn branches = true →
      (∀ r ∈ branchRegexes style branches, r.goesOn = true) ∧
        (branches ≠ [] → branchRegexes style branches ≠ [])
  | [], _ => by simp [branchRegexes]
  | ts :: rest, h => by
      rw [eachReachesOn, Bool.and_eq_true] at h
      obtain ⟨front, r, hfront, hr⟩ := goesOn_tokenRegexes hstyle ts h.1
      obtain ⟨hrest, -⟩ := goesOn_branchRegexes hstyle rest h.2
      -- the branch asks for something, so that it is not left out
      have hasks : r ≠ .empty := by
        rintro rfl
        cases hr
      have hkept : (tokenRegexes style ts).filter (· != .empty) =
          front.filter (· != .empty) ++ [r] := by
        simp [hfront, hasks]
      rw [branchRegexes, hkept]
      split
      · next hnil => simp at hnil
      · exact ⟨List.forall_mem_cons.2 ⟨goesOn_seqAll_concat hr, hrest⟩,
          fun _ => List.cons_ne_nil _ _⟩

end

/-- **A glob that ends in a wildcard** matches with every path those that go on after it. -/
theorem isMatch_append {g : Glob} (hstyle : g.style.keepsSlashes = false)
    (hg : g.reachesOn = true) {path : List Char}
    (h : (CompiledGlob.ofGlob g).isMatch path = true) (more : List Char) :
    (CompiledGlob.ofGlob g).isMatch (path ++ more) = true := by
  rw [isMatch_iff] at h ⊢
  rw [bytes_append]
  refine h.append ?_ g.plain_toRegex _
  rw [reachesOn] at hg
  rw [toRegex]
  split
  · rfl
  · next hnot =>
    split at hg
    · next hdeep => exact absurd hdeep hnot
    · obtain ⟨front, r, hfront, hr⟩ := goesOn_tokenRegexes hstyle _ hg
      rw [hfront]
      exact goesOn_seqAll_concat hr

/-! ### Globs that start with two stars -/

/-- The glob starts with two stars, a slash and a literal character other than a dot. A wildcard
there could match the dot. -/
def StartsDeep (g : Glob) : Prop := ∃ c rest, g.tokens = .deepFront :: .literal c :: rest ∧ c ≠ '.'

/-- All bytes are any text. -/
lemma accepts_anyBytes (w : List Char) : anyBytes.Accepts w :=
  ⟨Nat.zero_le _, by simp, fun c _ => rfl⟩

/-- Two stars and a slash at the front match nothing, or what ends in a slash. -/
lemma accepts_deepFront_iff {style : GlobStyle} {w : List Char} :
    (tokenRegex style .deepFront).Accepts w ↔ w = [] ∨ ∃ u, w = u ++ ['/'] := by
  have hplain : (Regex.seq anyBytes slash).onlyBoundaries .empty = true := rfl
  have hopt : (opt slash).Accepts w ↔ w = [] ∨ w = ['/'] := by
    constructor
    · rintro ⟨n, -, hmost, h⟩
      have hn : n ≤ 1 := hmost 1 rfl
      cases n with
      | zero => exact .inl h
      | succ n =>
          obtain rfl : n = 0 := by omega
          obtain ⟨u, v, rfl, ⟨c, rfl, hc⟩, rfl⟩ := h
          right
          simpa using hc
    · rintro (rfl | rfl)
      · exact ⟨0, le_rfl, by simp, rfl⟩
      · exact ⟨1, Nat.zero_le _, by simp, ['/'], [], rfl, ⟨'/', rfl, rfl⟩, rfl⟩
  have hdeep : (Regex.seq anyBytes slash).Accepts w ↔ ∃ u, w = u ++ ['/'] := by
    rw [accepts_seq hplain]
    constructor
    · rintro ⟨u, v, rfl, -, hv⟩
      exact ⟨u, by rw [accepts_char.1 hv]⟩
    · rintro ⟨u, rfl⟩
      exact ⟨u, ['/'], rfl, accepts_anyBytes u, accepts_char.2 rfl⟩
  rw [tokenRegex, accepts_alt, hopt, hdeep]
  constructor
  · rintro ((h | h) | h)
    · exact .inl h
    · exact .inr ⟨[], h⟩
    · exact .inr h
  · rintro (h | h)
    · exact .inl (.inl h)
    · exact .inr h

/-- A byte is a dot only as the byte of a dot. -/
lemma toNat_of_ofByte_eq_dot {b : UInt8} (h : ofByte b = '.') : b.toNat = 46 := by
  have hvalid : b.toNat.isValidChar := .inl (b.toNat_lt.trans (by decide))
  rw [ofByte, Char.ofNat, dif_pos hvalid] at h
  exact congrArg Char.toNat h

/-- Only the bytes of a dot start with a dot. -/
lemma eq_dot_of_bytes {c : Char} {w v : List Char} (h : bytes [c] ++ w = '.' :: v) : c = '.' := by
  rw [bytes, List.flatMap_singleton, String.utf8EncodeChar.eq_1] at h
  split_ifs at h with hone htwo hthree <;>
    (have hbyte := toNat_of_ofByte_eq_dot (List.cons.inj h).1
     rw [UInt8.toNat_ofNat'] at hbyte)
  · rw [← Char.toNat_inj]
    show c.val.toNat = 46
    omega
  all_goals omega

/-- Two stars and a slash at the front of a glob are read as any directories. -/
lemma ofText?_twoStars (style : GlobStyle) (rest : List Char) :
    Glob.ofText? style ('*' :: '*' :: '/' :: rest) =
      (readFrom style (Reading.start.push .deepFront) (some '/') true rest).map
        fun tokens => ⟨style, tokens⟩ := by
  rw [ofText?, readFrom]
  rfl

/-- A token for a character matches its bytes. -/
lemma accepts_literal_iff {style : GlobStyle} {c : Char} {w : List Char} :
    (tokenRegex style (.literal c)).Accepts w ↔ w = bytes [c] := by
  rw [tokenRegex, accepts_seqAll_char]

/-- What a glob that starts with two stars matches: any directories, or none, the character that
follows, and then what the rest of the glob matches. -/
lemma exists_accepts_of_startsDeep {g : Glob} (hg : g.StartsDeep) :
    ∃ (c : Char) (P : List Char → Prop), c ≠ '.' ∧ ∀ w, g.toRegex.Accepts w ↔ ∃ u v,
      w = u ++ (bytes [c] ++ v) ∧ (u = [] ∨ ∃ u', u = u' ++ ['/']) ∧ P v := by
  obtain ⟨c, rest, htokens, hc⟩ := hg
  have hplain := plain_tokenRegexes g.style
  refine ⟨c, (seqAll (tokenRegexes g.style rest)).Accepts, hc, fun w => ?_⟩
  have hregex : g.toRegex = seqAll (tokenRegexes g.style (.deepFront :: .literal c :: rest)) := by
    rw [toRegex, htokens]
  have hfront := hplain (.deepFront :: .literal c :: rest)
  have hnext := hplain (.literal c :: rest)
  rw [tokenRegexes_eq_map, List.map_cons] at hfront hnext
  rw [hregex, tokenRegexes_eq_map, List.map_cons, accepts_seqAll_cons hfront]
  simp only [List.map_cons, accepts_seqAll_cons hnext, accepts_deepFront_iff,
    accepts_literal_iff, tokenRegexes_eq_map]
  constructor
  · rintro ⟨u, v, rfl, hu, u', v', rfl, rfl, hv⟩
    exact ⟨u, v', rfl, hu, hv⟩
  · rintro ⟨u, v, rfl, hu, hv⟩
    exact ⟨u, _, rfl, hu, _, v, rfl, rfl, hv⟩

/-- **A glob that starts with two stars**, a slash and a literal character other than a dot does not
notice a dot and a slash in front of a path. -/
theorem isMatch_dotSlash_iff {g : Glob} (hg : g.StartsDeep) (path : List Char) :
    (CompiledGlob.ofGlob g).isMatch ('.' :: '/' :: path) = true ↔
      (CompiledGlob.ofGlob g).isMatch path = true := by
  obtain ⟨c, P, hc, haccepts⟩ := exists_accepts_of_startsDeep hg
  have hfront : bytes ('.' :: '/' :: path) = '.' :: '/' :: bytes path := rfl
  rw [isMatch_iff, isMatch_iff, haccepts, haccepts, hfront]
  constructor
  · rintro ⟨u, v, hw, hu, hv⟩
    rcases hu with rfl | ⟨u, rfl⟩
    · exact absurd (eq_dot_of_bytes hw.symm) hc
    · match u, hw with
      | [], hw => cases (List.cons.inj hw).1
      | [d], hw => exact ⟨[], v, (List.cons.inj (List.cons.inj hw).2).2, .inl rfl, hv⟩
      | d :: d' :: u, hw =>
          exact ⟨u ++ ['/'], v, (List.cons.inj (List.cons.inj hw).2).2, .inr ⟨u, rfl⟩, hv⟩
  · rintro ⟨u, v, hw, hu, hv⟩
    rw [hw]
    refine ⟨'.' :: '/' :: u, v, rfl, .inr ?_, hv⟩
    rcases hu with rfl | ⟨u, rfl⟩
    · exact ⟨['.'], rfl⟩
    · exact ⟨'.' :: '/' :: u, rfl⟩

end Glob

end QualityGate
