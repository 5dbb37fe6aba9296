import QualityGate.Proofs.Declaration.Outside
import Mathlib.Tactic

/-!
The parenthesis that closes the arguments of an annotation, and the balance of parentheses that the
scan of a line counts. The end of the arguments is searched character by character with a counter,
and a scan goes over whole literals; on simple code both see the same parentheses.

* `ClosingSearch`: the search, with a counter that may not fall below zero.
* `ClosingSearch.IsAlive.run`: no parenthesis is closed where none is open.
* `ClosingSearch.depth_eq`: the counter is the balance of the scan in front of each place.
* `splitAtClosing?_eq_run`: arguments are split off where the search ends.
* `splitArguments?_eq_some_iff`, `splitArguments?_eq_none_iff`: arguments end at the first place
  where as many parentheses are closed as are opened.
* `parenDelta_withoutAnnotations`: dropping annotations does not change the balance of a line.
* **`splitArguments?_agrees_with_scan`**: the search and the scan see the same parentheses.
-/

namespace QualityGate

/-! ### The search -/

/-- How far the search for a closing parenthesis has come. -/
inductive ClosingSearch where
  /-- So many parentheses are open. In a literal: its quote, and whether a backslash right in front
  takes the next character along. -/
  | looking (depth : ℕ) (literal : Option (Char × Bool))
  /-- The parenthesis has come, and behind it these characters. -/
  | found (after : List Char)
  /-- A closing parenthesis has come where none was open. -/
  | underflow
  deriving DecidableEq, Repr

namespace ClosingSearch

/-- The literal that is still open after one more character of it. -/
def stepLiteral (quote : Char) (escaped : Bool) (c : Char) : Option (Char × Bool) :=
  if escaped then some (quote, false)
  else if c = '\\' then some (quote, true)
  else if c = quote then none
  else some (quote, false)

/-- A closing parenthesis, when so many are open. -/
def close : ℕ → ClosingSearch
  | 0 => underflow
  | 1 => found []
  | n + 2 => looking (n + 1) none

/-- The search after one more character. -/
def step : ClosingSearch → Char → ClosingSearch
  | looking n (some (quote, escaped)), c => looking n (stepLiteral quote escaped c)
  | looking n none, c =>
    if IsQuote c then looking n (some (c, false))
    else if c = '(' then looking (n + 1) none
    else if c = ')' then close n
    else looking n none
  | found after, c => found (after ++ [c])
  | underflow, _ => underflow

/-- The search after more characters. -/
def run (x : ClosingSearch) (s : List Char) : ClosingSearch := s.foldl step x

/-- The search in a text. -/
def search (s : List Char) : ClosingSearch := (looking 0 none).run s

/-- What is behind the parenthesis, if it has come. -/
def after? : ClosingSearch → Option (List Char)
  | found after => some after
  | looking _ _ | underflow => none

/-- What is behind the parenthesis is there only if it has come. -/
lemma eq_found_of_after? {x : ClosingSearch} {after : List Char} (h : x.after? = some after) :
    x = found after := by
  cases x with
  | found b => exact congrArg found (Option.some.inj h)
  | looking n l => cases h
  | underflow => cases h

variable {x : ClosingSearch} {n m : ℕ} {c q : Char} {l : Option (Char × Bool)}
  {s u v : List Char}

@[simp] lemma run_nil (x : ClosingSearch) : x.run [] = x := rfl

@[simp] lemma run_cons (x : ClosingSearch) (c : Char) (s : List Char) :
    x.run (c :: s) = (x.step c).run s := rfl

lemma run_append (x : ClosingSearch) (u v : List Char) : x.run (u ++ v) = (x.run u).run v :=
  List.foldl_append

lemma search_append (u v : List Char) : search (u ++ v) = (search u).run v :=
  run_append _ u v

/-- What follows the parenthesis is kept. -/
@[simp] lemma run_found (after s : List Char) : (found after).run s = found (after ++ s) := by
  induction s generalizing after with
  | nil => simp
  | cons c s ih => rw [run_cons, step, ih, List.append_assoc, List.singleton_append]

@[simp] lemma run_underflow (s : List Char) : underflow.run s = underflow := by
  induction s with
  | nil => rfl
  | cons c s ih => rw [run_cons, step, ih]

/-! ### The counter does not fall below zero -/

/-- A parenthesis is open, or the one that is looked for has come. -/
def IsAlive : ClosingSearch → Prop
  | looking n _ => 0 < n
  | found _ => True
  | underflow => False

lemma IsAlive.step (h : x.IsAlive) (c : Char) : (x.step c).IsAlive := by
  cases x with
  | found after => trivial
  | underflow => exact h
  | looking n l =>
      rcases l with _ | ⟨quote, escaped⟩
      · rw [ClosingSearch.step]
        split_ifs with hquote hopening hclosing
        · exact h
        · exact n.succ_pos
        · match n, h with
          | 1, _ => trivial
          | n + 2, _ => exact n.succ_pos
        · exact h
      · exact h

/-- **No parenthesis is closed where none is open**, once one has been opened. -/
theorem IsAlive.run (h : x.IsAlive) (s : List Char) : (x.run s).IsAlive := by
  induction s generalizing x with
  | nil => exact h
  | cons c s ih => exact ih (h.step c)

/-- A text that starts with a parenthesis opens one. -/
lemma isAlive_search (h : s.head? = some '(') : (search s).IsAlive := by
  obtain ⟨t, rfl⟩ := List.head?_eq_some_iff.1 h
  exact IsAlive.run (x := looking 1 none) Nat.one_pos t

/-- In such a text no closing parenthesis comes where none is open. -/
lemma search_ne_underflow (h : s.head? = some '(') : search s ≠ underflow := by
  intro hunderflow
  have halive := isAlive_search h
  rw [hunderflow] at halive
  exact halive

-- Without it the first closing parenthesis has nothing to close.
example : search ['a', ')'] = underflow := by decide

/-! ### Where the search ends -/

/-- The search ends at a parenthesis outside of literals when one is open. -/
lemma exists_of_run_eq_found (h : (looking n l).run s = found v) :
    ∃ u, s = u ++ ')' :: v ∧ (looking n l).run u = looking 1 none := by
  induction s generalizing n l with
  | nil => cases h
  | cons c s ih =>
      rw [run_cons] at h
      cases hstep : (looking n l).step c with
      | looking m k =>
          rw [hstep] at h
          obtain ⟨u, rfl, hu⟩ := ih h
          exact ⟨c :: u, rfl, by rw [run_cons, hstep, hu]⟩
      | underflow => rw [hstep, run_underflow] at h; cases h
      | found after =>
          rw [hstep, run_found] at h
          rcases l with _ | ⟨quote, escaped⟩
          · rw [step] at hstep
            split_ifs at hstep with hquote hopening hclosing
            match n, hstep with
            | 1, hstep =>
                cases hstep
                cases h
                exact ⟨[], by rw [hclosing]; rfl, rfl⟩
          · cases hstep

/-! ### The counter and the scan -/

/-- What can stand in a literal does not end it. -/
lemma run_piecesText {body : List Piece} (hbody : ∀ p ∈ body, Piece.IsInside q p) (n : ℕ)
    (s : List Char) :
    (looking n (some (q, false))).run (piecesText body ++ s) =
      (looking n (some (q, false))).run s := by
  induction body with
  | nil => rfl
  | cons p body ih =>
      obtain ⟨hp, hbody⟩ := List.forall_mem_cons.1 hbody
      have ih := ih hbody
      cases p with
      | char c =>
          obtain ⟨hc, hback⟩ := hp
          rw [piecesText_char, List.cons_append, run_cons, step, stepLiteral, if_neg (by simp),
            if_neg hback, if_neg hc, ih]
      | escape c =>
          rw [piecesText_escape, List.cons_append, List.cons_append, run_cons, run_cons, ← ih]
          rfl

/-- The search passes over a literal that is closed, and ends in one that is not. -/
lemma run_literal (hq : IsQuote q) (n : ℕ) (s : List Char) :
    (OutsideLiterals (q :: (splitLiteral q s).1) ∧
        (looking n none).run (q :: s) = (looking n none).run (splitLiteral q s).2) ∨
      (splitLiteral q s).2 = [] ∧
        ∃ escaped, (looking n none).run (q :: s) = looking n (some (q, escaped)) := by
  obtain ⟨body, ending, hbody, htext, hending⟩ := exists_splitLiteral q s
  have hquote : (looking n none).step q = looking n (some (q, false)) := if_pos hq
  have hsplit : piecesText body ++ (Ending.text [q] ending ++ (splitLiteral q s).2) = s := by
    rw [← List.append_assoc, ← htext, splitLiteral_append]
  have hrun : (looking n none).run (q :: s) =
      (looking n (some (q, false))).run (Ending.text [q] ending ++ (splitLiteral q s).2) := by
    rw [← run_piecesText hbody n, hsplit, run_cons, hquote]
  rw [hrun]
  cases ending with
  | closed =>
      have hliteral : (ArgumentPart.literal q body).WellFormed := ⟨hq, hbody⟩
      have hclosed : (looking n (some (q, false))).step q = looking n none := by
        rw [step, stepLiteral, if_neg (by simp), if_neg hq.ne_backslash, if_pos rfl]
      refine .inl ⟨?_, ?_⟩
      · rw [htext]
        exact hliteral.outsideLiterals
      · rw [Ending.text, List.singleton_append, run_cons, hclosed]
  | unclosed =>
      rw [hending (by simp)]
      exact .inr ⟨rfl, false, rfl⟩
  | backslash =>
      rw [hending (by simp)]
      exact .inr ⟨rfl, true, rfl⟩

/-- A character outside of literals changes the counter by what it counts. -/
lemma exists_run_of_plain (hc : ¬ IsQuote c) (h : (looking n none).run (c :: s) = looking m l) :
    ∃ k : ℕ, (looking k none).run s = looking m l ∧
      (k : ℤ) = n + ((if c = '(' then 1 else 0) - (if c = ')' then 1 else 0)) := by
  rw [run_cons, step, if_neg hc] at h
  split_ifs at h with hopening hclosing
  · exact ⟨n + 1, h, by simp [hopening]⟩
  · match n with
    | 0 => rw [close, run_underflow] at h; cases h
    | 1 => rw [close, run_found] at h; cases h
    | n + 2 =>
        refine ⟨n + 1, h, ?_⟩
        rw [if_neg hopening, if_pos hclosing]
        omega
  · exact ⟨n, h, by simp [hopening, hclosing]⟩

/-- **The counter is the balance of the scan.** -/
theorem depth_eq (hs : SimpleCode s) (h : (looking n none).run s = looking m l) :
    (m : ℤ) = n + (Scan.ofLine .code s).parenDelta := by
  -- a literal at a time, so that the search need not be followed inside of one
  induction s using codeInduction generalizing n with
  | nil =>
      cases h
      rw [Scan.ofLine.eq_1, Scan.empty, add_zero]
  | plain c s hc ih =>
      obtain ⟨k, hk, hcount⟩ := exists_run_of_plain hc h
      rw [Scan.ofLine_plain hc hs.not_startsComment, Scan.parenDelta_count,
        ih (hs.tail hc) hk, hcount, add_assoc]
  | literal q s hq ih =>
      rw [Scan.ofLine_literal hq hs.not_tripleQuote_prefix, Scan.parenDelta_keep]
      rcases run_literal hq n s with ⟨-, hrun⟩ | ⟨hnil, escaped, hrun⟩
      · exact ih (hs.afterLiteral hq) (hrun.symm.trans h)
      · rw [hrun] at h
        cases h
        rw [hnil, Scan.ofLine.eq_1, Scan.empty, add_zero]

/-- Where the search sees no literal, the place is outside of literals. -/
lemma outsideLiterals_of_run (h : (looking n none).run s = looking m none) : OutsideLiterals s := by
  induction s using codeInduction generalizing n with
  | nil => exact ⟨[], by simp, rfl⟩
  | plain c s hc ih =>
      obtain ⟨k, hk, -⟩ := exists_run_of_plain hc h
      exact (outsideLiterals_singleton hc).append (ih hk)
  | literal q s hq ih =>
      rcases run_literal hq n s with ⟨hliteral, hrun⟩ | ⟨-, escaped, hrun⟩
      · have hsplit := hliteral.append (ih (hrun.symm.trans h))
        rwa [List.cons_append, splitLiteral_append] at hsplit
      · rw [hrun] at h
        cases h

end ClosingSearch

/-! ### Arguments -/

/-- **Arguments are split off where the search ends**, when a parenthesis is open before them. -/
theorem splitAtClosing?_eq_run {n : ℕ} (hn : 0 < n) (quote : Option Char) (s : List Char) :
    (splitAtClosing? n quote s).map Prod.snd =
      ((ClosingSearch.looking n (quote.map fun q => (q, false))).run s).after? := by
  fun_induction splitAtClosing? n quote s with
  | case1 | case2 => rfl
  | case3 n quote c rest ih =>
      rw [Option.map_map]
      exact ih hn
  | case4 n quote c rest hsingle hescape ih =>
      have hback := ne_backslash_of_cases hsingle hescape
      have hstep : (ClosingSearch.looking n (some (quote, false))).step c =
          .looking n ((if c = quote then none else some quote).map fun q => (q, false)) := by
        rw [ClosingSearch.step, ClosingSearch.stepLiteral, if_neg (by simp), if_neg hback]
        split_ifs <;> rfl
      rw [Option.map_map, Option.map_some, ClosingSearch.run_cons, hstep]
      exact ih hn
  | case5 n c rest hquote ih =>
      have hstep : (ClosingSearch.looking n none).step c = .looking n (some (c, false)) :=
        if_pos hquote
      rw [Option.map_map, Option.map_none, ClosingSearch.run_cons, hstep]
      exact ih hn
  | case6 n rest hquote ih =>
      rw [Option.map_map]
      exact ih n.succ_pos
  | case7 n rest hn1 =>
      obtain rfl : n = 1 := by omega
      rw [Option.map_none, ClosingSearch.run_cons]
      exact (congrArg ClosingSearch.after? (ClosingSearch.run_found [] rest)).symm
  | case8 n rest hn1 hquote hopening ih =>
      obtain ⟨k, rfl⟩ : ∃ k, n = k + 2 := ⟨n - 2, by omega⟩
      rw [Option.map_map]
      exact ih k.succ_pos
  | case9 n c rest hquote hopening hclosing ih =>
      have hplain : ¬ IsQuote c := hquote
      have hstep : (ClosingSearch.looking n none).step c = .looking n none := by
        rw [ClosingSearch.step, if_neg hplain, if_neg hopening, if_neg hclosing]
      rw [Option.map_map, Option.map_none, ClosingSearch.run_cons, hstep]
      exact ih hn

open ClosingSearch (search)

/-- The text closes its parentheses: it ends with a closing parenthesis outside of literals, and its
scan counts as many closing ones as opening ones. -/
def ClosesParens (p : List Char) : Prop :=
  (∃ u, OutsideLiterals u ∧ p = u ++ [')']) ∧ (Scan.ofLine .code p).parenDelta = 0

/-- The shortest front part of a text that closes its parentheses. -/
structure FirstClosing (s a : List Char) : Prop where
  front : a <+: s
  closes : ClosesParens a
  shortest : ∀ p, p <+: s → ClosesParens p → a.length ≤ p.length

section Arguments

variable {s p a b : List Char}

/-- A text has one shortest front part that closes its parentheses, if any. -/
lemma FirstClosing.unique (ha : FirstClosing s a) (hb : FirstClosing s b) : a = b := by
  have hlength := Nat.le_antisymm (ha.shortest b hb.front hb.closes)
    (hb.shortest a ha.front ha.closes)
  exact (List.prefix_of_prefix_length_le ha.front hb.front hlength.le).eq_of_length hlength

lemma ClosesParens.ne_nil (h : ClosesParens p) : p ≠ [] := by
  obtain ⟨⟨u, -, rfl⟩, -⟩ := h
  simp

lemma ClosesParens.outsideLiterals (h : ClosesParens p) : OutsideLiterals p := by
  obtain ⟨⟨u, hu, rfl⟩, -⟩ := h
  exact hu.append (outsideLiterals_singleton (by decide))

/-- The front of a text that starts with a parenthesis starts with it, if it is not empty. -/
lemma head?_of_prefix (hopen : s.head? = some '(') (hp : p <+: s) (hne : p ≠ []) :
    p.head? = some '(' := by
  obtain ⟨r, rfl⟩ := hp
  rwa [List.head?_append_of_ne_nil _ hne] at hopen

/-- The arguments are split off where the search ends. -/
lemma splitArguments?_eq_search (hopen : s.head? = some '(') :
    (splitArguments? s).map Prod.snd = (search s).after? := by
  obtain ⟨t, rfl⟩ := List.head?_eq_some_iff.1 hopen
  have hstart : splitArguments? ('(' :: t) =
      (splitAtClosing? 1 none t).map fun w => ('(' :: w.1, w.2) := by
    rw [splitArguments?, splitAtClosing?.eq_5, if_neg (by decide), if_pos rfl]
  rw [hstart, Option.map_map]
  exact splitAtClosing?_eq_run Nat.one_pos none t

/-- The search has ended where the balance is zero again. -/
lemma exists_found_of_parenDelta (hopen : s.head? = some '(') (hs : SimpleCode s)
    (hzero : (Scan.ofLine .code s).parenDelta = 0) : ∃ after, search s = .found after := by
  cases h : search s with
  | found after => exact ⟨after, rfl⟩
  | underflow => exact absurd h (ClosingSearch.search_ne_underflow hopen)
  | looking n l =>
      have hdepth := ClosingSearch.depth_eq hs h
      have halive := ClosingSearch.isAlive_search hopen
      rw [h] at halive
      have hpos : 0 < n := halive
      omega

/-- Where the search goes on, no front part has closed its parentheses. -/
lemma not_closesParens_of_looking (hopen : s.head? = some '(') (hs : SimpleCode s) {n : ℕ}
    {l : Option (Char × Bool)} (h : search s = .looking n l) (hp : p <+: s) :
    ¬ ClosesParens p := by
  intro hcloses
  have hfront := head?_of_prefix hopen hp hcloses.ne_nil
  obtain ⟨r, rfl⟩ := hp
  obtain ⟨after, hafter⟩ := exists_found_of_parenDelta hfront hs.of_append_left hcloses.2
  rw [ClosingSearch.search_append, hafter, ClosingSearch.run_found] at h
  cases h

/-- **Where the search ends**, the text closes its parentheses, and not before. -/
theorem firstClosing_of_search (hopen : s.head? = some '(') (hs : SimpleCode s)
    (h : search s = .found b) : ∃ a, a ++ b = s ∧ FirstClosing s a := by
  obtain ⟨u, rfl, hu⟩ := ClosingSearch.exists_of_run_eq_found h
  have hcut : u ++ ')' :: b = (u ++ [')']) ++ b := by simp
  rw [hcut] at hopen hs ⊢
  have hfront := hs.of_append_left
  have houtside := ClosingSearch.outsideLiterals_of_run hu
  have hdepth := ClosingSearch.depth_eq hfront.of_append_left hu
  have hclosing : (Scan.ofLine .code [')']).parenDelta = -1 := by
    rw [Scan.ofLine_plain (by decide) (by decide), Scan.ofLine.eq_1]
    rfl
  have hzero : (Scan.ofLine .code (u ++ [')'])).parenDelta = 0 := by
    rw [hfront.parenDelta_append houtside, hclosing]
    omega
  refine ⟨u ++ [')'], rfl, List.prefix_append _ b, ⟨⟨u, houtside, rfl⟩, hzero⟩, ?_⟩
  intro p hp hcloses
  by_contra hshort
  -- a shorter front part would be one of the text in which the search still goes on
  have hpu : p <+: u := by
    refine List.prefix_of_prefix_length_le hp ?_ ?_
    · exact (List.prefix_append u [')']).trans (List.prefix_append _ b)
    · rw [List.length_append, List.length_singleton] at hshort
      omega
  have hne : u ≠ [] := by
    rintro rfl
    cases hu
  have hstart : u.head? = some '(' := by
    rw [List.append_assoc, List.head?_append_of_ne_nil _ hne] at hopen
    exact hopen
  exact not_closesParens_of_looking hstart hfront.of_append_left hu hpu hcloses

/-- What is split off as arguments is the shortest front part that closes its parentheses. -/
lemma firstClosing_of_splitArguments? (hopen : s.head? = some '(') (hs : SimpleCode s)
    (h : splitArguments? s = some (a, b)) : FirstClosing s a := by
  have hsearch := splitArguments?_eq_search hopen
  rw [h] at hsearch
  obtain ⟨c, hc, hfirst⟩ :=
    firstClosing_of_search hopen hs (ClosingSearch.eq_found_of_after? hsearch.symm)
  obtain rfl := List.append_cancel_right (hc.trans (splitArguments?_append h).symm)
  exact hfirst

/-- **Arguments end at the first place** where as many parentheses are closed as are opened. -/
theorem splitArguments?_eq_some_iff (hopen : s.head? = some '(') (hs : SimpleCode s) :
    splitArguments? s = some (a, b) ↔ a ++ b = s ∧ FirstClosing s a := by
  refine ⟨fun h => ⟨splitArguments?_append h, firstClosing_of_splitArguments? hopen hs h⟩, ?_⟩
  rintro ⟨rfl, hfirst⟩
  have hfront := head?_of_prefix hopen hfirst.front hfirst.closes.ne_nil
  obtain ⟨after, hafter⟩ := exists_found_of_parenDelta hfront hs.of_append_left hfirst.closes.2
  have hsearch := splitArguments?_eq_search hopen
  rw [ClosingSearch.search_append, hafter, ClosingSearch.run_found] at hsearch
  obtain ⟨⟨c, d⟩, hsplit, -⟩ := Option.map_eq_some_iff.1 hsearch
  obtain rfl := hfirst.unique (firstClosing_of_splitArguments? hopen hs hsplit)
  rw [hsplit, List.append_cancel_left (splitArguments?_append hsplit)]

/-- **There are no arguments** exactly if no front part closes its parentheses. -/
theorem splitArguments?_eq_none_iff (hopen : s.head? = some '(') (hs : SimpleCode s) :
    splitArguments? s = none ↔ ∀ p, p <+: s → ¬ ClosesParens p := by
  constructor
  · intro h p hp
    have hsearch := splitArguments?_eq_search hopen
    rw [h] at hsearch
    cases hend : search s with
    | looking n l => exact not_closesParens_of_looking hopen hs hend hp
    | found after =>
        rw [hend] at hsearch
        cases hsearch
    | underflow => exact absurd hend (ClosingSearch.search_ne_underflow hopen)
  · intro h
    rw [Option.eq_none_iff_forall_not_mem]
    rintro ⟨a, b⟩ hsplit
    have hfirst := firstClosing_of_splitArguments? hopen hs hsplit
    exact h a hfirst.front hfirst.closes

end Arguments

/-! ### The balance of a line -/

section Balance

variable {s t u v w : List Char}

/-- What is left of simple code is simple, and its parentheses have the same balance. -/
structure KeepsBalance (s t : List Char) : Prop where
  simple : SimpleCode t
  balance : (Scan.ofLine .code t).parenDelta = (Scan.ofLine .code s).parenDelta

lemma KeepsBalance.trans (h : KeepsBalance s t) (h' : KeepsBalance t u) : KeepsBalance s u :=
  ⟨h'.simple, h'.balance.trans h.balance⟩

/-- White space is neither a parenthesis nor a quote. -/
lemma not_mem_of_isBlank {c : Char} (h : Text.isBlank c = true) : c ∉ ['(', ')', '"', '\''] := by
  simp (disch := decide) [ne_of_isBlank h]

/-- A character of the name of an annotation is neither a parenthesis nor a quote. -/
lemma not_mem_of_isAnnotationNameChar {c : Char} (h : isAnnotationNameChar c = true) :
    c ∉ ['(', ')', '"', '\''] := by
  have hall : ∀ d ∈ ['(', ')', '"', '\''], isAnnotationNameChar d = false := by decide +kernel
  intro hc
  rw [hall c hc] at h
  cases h

/-- Characters that are neither parentheses nor quotes can be dropped in front. -/
lemma KeepsBalance.of_plain_append (h : SimpleCode (w ++ v))
    (hw : ∀ c ∈ w, c ∉ ['(', ')', '"', '\'']) : KeepsBalance (w ++ v) v where
  simple := h.of_append_plain hw
  balance := (h.parenDelta_plain_append hw).symm

lemma KeepsBalance.trimStart (h : SimpleCode s) : KeepsBalance s (Text.trimStart s) := by
  have htext := Text.trimStart_append s
  rw [← htext] at h
  have hkeeps := KeepsBalance.of_plain_append h fun c hc =>
    not_mem_of_isBlank (List.all_eq_true.1 List.all_takeWhile c hc)
  rwa [htext] at hkeeps

lemma KeepsBalance.trim (h : SimpleCode s) : KeepsBalance s (Text.trim s) := by
  have hstart := KeepsBalance.trimStart h
  obtain ⟨w, hw, htext⟩ := exists_trimEnd_append (Text.trimStart s)
  have hsimple := htext ▸ hstart.simple
  refine hstart.trans ⟨hsimple.of_append_left, ?_⟩
  rw [Text.trim, ← hsimple.parenDelta_append_plain fun c hc => not_mem_of_isBlank (hw c hc), htext]

/-- **Arguments that are dropped have as many closing parentheses as opening ones.** -/
lemma KeepsBalance.afterArguments? (h : SimpleCode s) (ht : afterArguments? s = some t) :
    KeepsBalance s t := by
  rw [QualityGate.afterArguments?] at ht
  split_ifs at ht with hopen
  · obtain ⟨⟨a, b⟩, hsplit, rfl⟩ := Option.map_eq_some_iff.1 ht
    have hstart : s.head? = some '(' := by
      obtain ⟨r, rfl⟩ := List.isPrefixOf_iff_prefix.1 hopen
      rfl
    have hfirst := firstClosing_of_splitArguments? hstart h hsplit
    obtain rfl := splitArguments?_append hsplit
    have hcloses := hfirst.closes
    refine ⟨h.of_append hcloses.outsideLiterals, ?_⟩
    rw [h.parenDelta_append hcloses.outsideLiterals, hcloses.2, zero_add]
  · cases ht
    exact ⟨h, rfl⟩

/-- An annotation that is dropped keeps the balance. -/
lemma KeepsBalance.afterAnnotation? (h : SimpleCode s) (ht : afterAnnotation? s = some t) :
    KeepsBalance s t := by
  unfold QualityGate.afterAnnotation? at ht
  split at ht
  · next rest =>
    split_ifs at ht
    obtain ⟨r, hr, rfl⟩ := Option.map_eq_some_iff.1 ht
    have htext : ('@' :: rest.takeWhile isAnnotationNameChar) ++
        rest.dropWhile isAnnotationNameChar = '@' :: rest := by
      rw [List.cons_append, List.takeWhile_append_dropWhile]
    have hname : KeepsBalance ('@' :: rest) (rest.dropWhile isAnnotationNameChar) := by
      rw [← htext] at h ⊢
      refine .of_plain_append h (List.forall_mem_cons.2 ⟨by decide, fun c hc => ?_⟩)
      exact not_mem_of_isAnnotationNameChar (List.all_eq_true.1 List.all_takeWhile c hc)
    have hblank := hname.trans (.trimStart hname.simple)
    have harguments := hblank.trans (.afterArguments? hblank.simple hr)
    exact harguments.trans (.trimStart harguments.simple)
  · cases ht

/-- Annotations that are dropped keep the balance. -/
lemma KeepsBalance.dropAnnotations (h : SimpleCode s) : KeepsBalance s (dropAnnotations s) := by
  fun_induction QualityGate.dropAnnotations s with
  | case1 s t ht ih =>
      have hstep := KeepsBalance.afterAnnotation? h ht
      exact hstep.trans (ih hstep.simple)
  | case2 s ht => exact ⟨h, rfl⟩

/-- The code of a line is simple, if it has no triple quote, and has the balance of the line. -/
lemma simpleCode_code {text : List Char} {l : LexedLine} (hl : l ∈ lex text)
    (hentry : l.entry = .code) (htriple : ¬ tripleQuote <:+: l.code) :
    SimpleCode l.code ∧ (Scan.ofLine .code l.code).parenDelta = l.scan.parenDelta := by
  obtain ⟨-, hscan⟩ := scan_of_mem_lexFrom hl
  rw [hentry] at hscan
  have hagain : Scan.ofLine .code l.code = l.scan.uncommented := by
    rw [LexedLine.code, hscan]
    exact Scan.ofLine_code .code l.line.text
  refine ⟨.of_code_eq ?_ htriple, ?_⟩
  · rw [hagain]
    rfl
  · rw [hagain]
    rfl

/-- **Dropping annotations does not change the balance of a line**, as long as no text block is on
it: what is read of a declaration has the parentheses that its body and its documentation are looked
for with. -/
theorem parenDelta_withoutAnnotations {text : List Char} {l : LexedLine} (hl : l ∈ lex text)
    (hentry : l.entry = .code) (htriple : ¬ tripleQuote <:+: l.code) :
    (Scan.ofLine .code (withoutAnnotations (Text.trim l.code))).parenDelta =
      l.scan.parenDelta := by
  obtain ⟨hsimple, hbalance⟩ := simpleCode_code hl hentry htriple
  have htrim := KeepsBalance.trim hsimple
  rw [← hbalance, ← htrim.balance, withoutAnnotations]
  split_ifs
  · rfl
  · exact (KeepsBalance.dropAnnotations htrim.simple).balance

end Balance

/-! ### Agreement -/

/-- **The search for the end of arguments and the scan of a line see the same parentheses.** In
simple code that starts with a parenthesis the arguments end with the shortest front part that
closes its parentheses, and there are none exactly if no front part does; the counter of the search
never falls below zero, and is the balance of the scan as long as the search goes on. So dropping
the annotations of a line does not change the balance with which the body of a declaration and the
annotations above it are looked for. -/
theorem splitArguments?_agrees_with_scan :
    (∀ s : List Char, s.head? = some '(' → SimpleCode s →
      (∀ a b, splitArguments? s = some (a, b) ↔ a ++ b = s ∧ FirstClosing s a) ∧
      (splitArguments? s = none ↔ ∀ p, p <+: s → ¬ ClosesParens p) ∧
      (splitArguments? s).map Prod.snd = (search s).after? ∧
      search s ≠ .underflow ∧
      ∀ p n l, p <+: s → search p = .looking n l →
        (n : ℤ) = (Scan.ofLine .code p).parenDelta) ∧
    ∀ text, ∀ l ∈ lex text, l.entry = .code → ¬ tripleQuote <:+: l.code →
      (Scan.ofLine .code (withoutAnnotations (Text.trim l.code))).parenDelta =
        l.scan.parenDelta := by
  refine ⟨fun s hopen hs => ⟨fun a b => splitArguments?_eq_some_iff hopen hs,
    splitArguments?_eq_none_iff hopen hs, splitArguments?_eq_search hopen,
    ClosingSearch.search_ne_underflow hopen, ?_⟩,
    fun text l hl hentry htriple => parenDelta_withoutAnnotations hl hentry htriple⟩
  rintro p n l ⟨r, rfl⟩ h
  simpa using ClosingSearch.depth_eq hs.of_append_left h

/-- Arguments with parentheses, an escaped quote and the mark of a comment in their literals, on the
first line of a declaration that goes on. -/
theorem splitArguments?_agrees_with_scan_timedMethod :
    let a : List Char := "(value = \"http://a)\\\")\", keys = (')'))".toList
    let b : List Char := " void run(int n,".toList
    SimpleCode (a ++ b) ∧ FirstClosing (a ++ b) a ∧
      ∀ l ∈ lex ("@Timed".toList ++ (a ++ b)),
        l.entry = .code ∧ withoutAnnotations (Text.trim l.code) = "void run(int n,".toList ∧
          l.scan.parenDelta = 1 := by
  intro a b
  have hsimple : SimpleCode (a ++ b) := .of_code_eq (by decide +kernel) (by decide +kernel)
  have hsplit : splitArguments? (a ++ b) = some (a, b) := by decide +kernel
  have hagrees := (splitArguments?_agrees_with_scan.1 (a ++ b) (by decide) hsimple).1 a b
  refine ⟨hsimple, (hagrees.1 hsplit).2, fun l hl => ?_⟩
  have hline : ∀ l ∈ lex ("@Timed".toList ++ (a ++ b)), l.entry = .code ∧
      ¬ tripleQuote <:+: l.code ∧
        withoutAnnotations (Text.trim l.code) = "void run(int n,".toList := by
    decide +kernel
  obtain ⟨hentry, htriple, hdropped⟩ := hline l hl
  have hbalance := splitArguments?_agrees_with_scan.2 _ l hl hentry htriple
  rw [hdropped] at hbalance
  have hone : (Scan.ofLine .code "void run(int n,".toList).parenDelta = 1 := by decide +kernel
  exact ⟨hentry, hdropped, hbalance.symm.trans hone⟩

end QualityGate
