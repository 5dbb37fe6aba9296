import QualityGate.Proofs.Method.Body
import Mathlib.Tactic

/-!
The methods of a file as a division of its lines. No line belongs to two methods; a method ends on
the first line on which its braces are closed; and a line that could start a method is on a line of
some method, unless it is below the start of the one method that is still open at the end of the
file.

* `openAfter_succ`, `OpensAt`, `exists_opensAt`: what is open after the first lines of a file.
* `StartsAt.add_le`: the next method starts below the last line of a method.
* `MethodSpan.IsOf`: the lines of a method, said of the lines of the file.
* `methodSpans_layout`: **how the methods divide a file**.
-/

namespace QualityGate

/-! ### The lines of an open method -/

namespace OpenMethod

lemma depthChanges_run (m : OpenMethod) (ls : List LexedLine) : (m.run ls).depthChanges =
    m.depthChanges + ls.countP fun l => l.scan.depthDelta ≠ 0 := by
  induction ls generalizing m with
  | nil => rfl
  | cons l ls ih =>
      have hstep : (m.advance l).depthChanges =
          m.depthChanges + if l.scan.depthDelta = 0 then 0 else 1 := rfl
      rw [run_cons, ih, hstep, List.countP_cons]
      by_cases hl : l.scan.depthDelta = 0
      · simp [hl]
      · simp only [hl, if_false, ne_eq, not_false_eq_true, decide_true, if_true]
        omega

/-- A method goes on with the line after those that it has. -/
lemma run_take_succ (m : OpenMethod) {ls : List LexedLine} {n : ℕ} {l : LexedLine}
    (hl : ls[n]? = some l) : m.run (ls.take (n + 1)) = (m.run (ls.take n)).advance l := by
  rw [List.take_add_one, hl, run, run, List.foldl_append]
  rfl

end OpenMethod

/-! ### What is open after the first lines -/

/-- The method that is open goes on with the line after the first ones. -/
lemma openAfter_succ {n : ℕ} {current : Option OpenMethod} {ls : List LexedLine} {l : LexedLine}
    (hl : ls[n]? = some l) :
    openAfter (n + 1) current ls = openNext (openAfter n current ls) l (ls.drop (n + 1)) := by
  induction n generalizing current ls with
  | zero =>
      cases ls with
      | nil => cases hl
      | cons k ls =>
          cases hl
          rfl
  | succ n ih =>
      cases ls with
      | nil => cases hl
      | cons k ls => exact ih hl

/-- A method opens on the line with the given index, which is reached with no method open. -/
structure OpensAt (ls : List LexedLine) (i : ℕ) (m : OpenMethod) : Prop where
  reached : openAfter i none ls = none
  opening : opening? (ls.drop i) = some m

/-- The braces of a method are open after each of its lines up to the one with the given index. -/
def OpenUpTo (ls : List LexedLine) (i : ℕ) (m : OpenMethod) (k : ℕ) : Prop :=
  ∀ n, 0 < n → i + n ≤ k → (m.run ((ls.drop i).take n)).isClosed = false

section Open

variable {ls : List LexedLine} {i k : ℕ} {m : OpenMethod}

/-- A line that opens a method is there. -/
lemma lt_length_of_opening? (h : opening? (ls.drop i) = some m) : i < ls.length := by
  by_contra hle
  rw [List.drop_eq_nil_of_le (not_lt.1 hle)] at h
  cases h

/-- A method that opens has no lines yet. -/
lemma exists_start_of_opening? (h : opening? (ls.drop i) = some m) :
    ∃ d l, methodStart? (ls.drop i) = some d ∧ ls[i]? = some l ∧ m = .start d.name l.line.number := by
  have hi := lt_length_of_opening? h
  rw [List.drop_eq_getElem_cons hi] at h ⊢
  obtain ⟨d, hd, rfl⟩ := Option.map_eq_some_iff.1 h
  exact ⟨d, ls[i], hd, List.getElem?_eq_getElem hi, rfl⟩

/-- As long as the braces of a method are open, the method is. -/
lemma OpensAt.openAfter_eq (h : OpensAt ls i m) {n : ℕ} (hn : i + n + 1 ≤ ls.length)
    (hopen : OpenUpTo ls i m (i + n + 1)) :
    openAfter (i + n + 1) none ls = some (m.run ((ls.drop i).take (n + 1))) := by
  induction n with
  | zero =>
      obtain ⟨l, hl⟩ : ∃ l, ls[i]? = some l := ⟨_, List.getElem?_eq_getElem hn⟩
      have hdrop : ls.drop i = l :: ls.drop (i + 1) := by
        obtain ⟨hi, rfl⟩ := List.getElem?_eq_some_iff.1 hl
        exact List.drop_eq_getElem_cons hi
      have hfirst := hopen 1 Nat.one_pos le_rfl
      have hopening := h.opening
      rw [hdrop] at hfirst hopening ⊢
      rw [Nat.add_zero, openAfter_succ hl, h.reached]
      exact openNext_open hopening hfirst
  | succ n ih =>
      have hlt : i + n + 1 < ls.length := by omega
      obtain ⟨l, hl⟩ : ∃ l, ls[i + n + 1]? = some l := ⟨_, List.getElem?_eq_getElem hlt⟩
      have hl' : (ls.drop i)[n + 1]? = some l := by rw [List.getElem?_drop, ← hl]; rfl
      have hlast := hopen (n + 2) (by omega) (by omega)
      rw [m.run_take_succ hl'] at hlast ⊢
      have hbefore := ih hlt.le fun k hk hle => hopen k hk (by omega)
      have hindex : i + (n + 1) + 1 = i + n + 1 + 1 := by omega
      rw [hindex, openAfter_succ hl, hbefore]
      exact openNext_open rfl hlast

/-- **What is open after the first lines** opened on one of them, and its braces are open since. -/
lemma exists_opensAt {m' : OpenMethod} (h : openAfter k none ls = some m') (hk : k ≤ ls.length) :
    ∃ i m, i < k ∧ OpensAt ls i m ∧ OpenUpTo ls i m k ∧ m' = m.run ((ls.drop i).take (k - i)) := by
  induction k generalizing m' with
  | zero => cases h
  | succ k ih =>
      obtain ⟨l, hl⟩ : ∃ l, ls[k]? = some l := ⟨_, List.getElem?_eq_getElem hk⟩
      have hdrop : ls.drop k = l :: ls.drop (k + 1) := by
        obtain ⟨hi, rfl⟩ := List.getElem?_eq_some_iff.1 hl
        exact List.drop_eq_getElem_cons hi
      rw [openAfter_succ hl, openNext, Option.filter_eq_some_iff] at h
      obtain ⟨hm, hclosed⟩ := h
      obtain ⟨m₀, hm₀, rfl⟩ := Option.map_eq_some_iff.1 hm
      have hopen : (m₀.advance l).isClosed = false := by simpa using hclosed
      cases hbefore : openAfter k none ls with
      | none =>
          rw [hbefore, Option.none_or, ← hdrop] at hm₀
          have hrun : m₀.run ((ls.drop k).take 1) = m₀.advance l := by
            rw [hdrop]
            rfl
          refine ⟨k, m₀, Nat.lt_succ_self k, ⟨hbefore, hm₀⟩, fun n hn hle => ?_, ?_⟩
          · obtain rfl : n = 1 := by omega
            rw [hrun, hopen]
          · rw [Nat.add_sub_cancel_left, hrun]
      | some m₁ =>
          obtain ⟨i, m, hik, hopens, hsince, rfl⟩ := ih hbefore (Nat.le_of_succ_le hk)
          rw [hbefore, Option.some_or, Option.some.injEq] at hm₀
          subst hm₀
          have hl' : (ls.drop i)[k - i]? = some l := by
            rw [List.getElem?_drop, Nat.add_sub_cancel' hik.le, hl]
          have hrun := m.run_take_succ hl'
          have hcount : k + 1 - i = k - i + 1 := by omega
          refine ⟨i, m, by omega, hopens, fun n hn hle => ?_, by rw [hcount, hrun]⟩
          rcases Nat.lt_or_ge k (i + n) with hlt | hge
          · obtain rfl : n = k - i + 1 := by omega
            rw [hrun, hopen]
          · exact hsince n hn hge

/-- A method whose braces are closed on one of the next lines ends on such a line. -/
lemma OpensAt.exists_startsAt_of_closed (h : OpensAt ls i m) {n : ℕ} (hn : 0 < n)
    (hin : i + n ≤ k) (hk : k ≤ ls.length)
    (hclosed : (m.run ((ls.drop i).take n)).isClosed = true) :
    ∃ n, StartsAt none ls i m n ∧ i + n ≤ k := by
  classical
  let p : ℕ → Prop := fun n => 0 < n ∧ (m.run ((ls.drop i).take n)).isClosed = true
  have hp : ∃ n, p n := ⟨n, hn, hclosed⟩
  have hle : Nat.find hp ≤ n := Nat.find_le ⟨hn, hclosed⟩
  obtain ⟨hpos, hfound⟩ := Nat.find_spec hp
  refine ⟨Nat.find hp, ⟨h.reached, h.opening, ?_, hpos, hfound, fun n' hn' hlt => ?_⟩, by omega⟩
  · rw [List.length_drop]
    omega
  · rw [← Bool.not_eq_true]
    exact fun hc => Nat.find_min hp hlt ⟨hn', hc⟩

/-- A method that opens above a line that is reached with no method open ends above this line. -/
lemma OpensAt.exists_startsAt (h : OpensAt ls i m) (hik : i < k) (hk : k ≤ ls.length)
    (hreached : openAfter k none ls = none) : ∃ n, StartsAt none ls i m n ∧ i + n ≤ k := by
  by_cases hopen : OpenUpTo ls i m k
  · obtain ⟨n, rfl⟩ : ∃ n, k = i + n + 1 := ⟨k - i - 1, by omega⟩
    rw [h.openAfter_eq hk hopen] at hreached
    cases hreached
  · simp only [OpenUpTo, not_forall, Bool.not_eq_false] at hopen
    obtain ⟨n, hn, hle, hclosed⟩ := hopen
    exact h.exists_startsAt_of_closed hn hle hk hclosed

lemma StartsAt.opensAt {n : ℕ} (h : StartsAt none ls i m n) : OpensAt ls i m :=
  ⟨h.reached, h.opening⟩

/-- **A line that is reached with no method open** is below the methods that start above it. -/
lemma StartsAt.add_le {n : ℕ} (h : StartsAt none ls i m n) (hik : i < k) (hk : k ≤ ls.length)
    (hreached : openAfter k none ls = none) : i + n ≤ k := by
  obtain ⟨n', h', hle⟩ := h.opensAt.exists_startsAt hik hk hreached
  rwa [h.ends.unique h'.ends]

end Open

/-! ### The methods of a file -/

/-- The lines of a method in a file. It starts on a line that declares it and ends after the least
number of lines on which its braces are closed. -/
structure MethodSpan.IsOf (s : MethodSpan) (ls : List LexedLine) : Prop where
  start_pos : 1 ≤ s.startLine
  start_le_end : s.startLine ≤ s.endLine
  end_le : s.endLine ≤ ls.length
  starts : ∃ d, methodStart? (ls.drop (s.startLine - 1)) = some d ∧ s.name = d.name
  ends : IsLeast {n | BracesClosed ((ls.drop (s.startLine - 1)).take n)} s.lineCount
  depthChanges : s.depthChanges =
    ((ls.drop (s.startLine - 1)).take s.lineCount).countP fun l => l.scan.depthDelta ≠ 0

/-- The method that starts on the line with the given index is open at the end of the file; without
such a method, the index is the one after the last line. -/
structure IsTail (ls : List LexedLine) (t : ℕ) : Prop where
  le_length : t ≤ ls.length
  starts : t < ls.length → (methodStart? (ls.drop t)).isSome
  unclosed : t < ls.length → ∀ n, ¬ BracesClosed ((ls.drop t).take n)

section Spans

variable {text : List Char} {s : MethodSpan}

/-- The methods that are found, by the index of their first line and the number of their lines. -/
lemma exists_startsAt_of_mem (h : s ∈ methodSpans (lex text)) :
    ∃ i m, StartsAt none (lex text) i m s.lineCount ∧ s.startLine = i + 1 ∧
      s = (m.run (((lex text).drop i).take s.lineCount)).toSpan := by
  obtain ⟨i, m, n, hstarts, rfl⟩ := mem_methodSpans_iff.1 h
  obtain ⟨d, l, -, -, rfl⟩ := exists_start_of_opening? hstarts.opening
  have hline := (mem_methodSpans_startLine_iff.2 ⟨_, _, hstarts, rfl⟩).2
  have hcount := hstarts.lineCount rfl
  exact ⟨i, _, hcount.symm ▸ hstarts, hline, by rw [hcount]⟩

lemma endLine_of_startLine {i : ℕ} (hline : s.startLine = i + 1) : s.endLine = i + s.lineCount := by
  rw [MethodSpan.endLine, hline]
  omega

/-- **A method that is found** has the lines of a method. -/
theorem isOf_of_mem_methodSpans (h : s ∈ methodSpans (lex text)) : s.IsOf (lex text) := by
  obtain ⟨i, m, hstarts, hline, hs⟩ := exists_startsAt_of_mem h
  obtain ⟨d, l, hd, -, rfl⟩ := exists_start_of_opening? hstarts.opening
  have hindex : s.startLine - 1 = i := by omega
  have hpos := hstarts.ends.1
  have hwithin := hstarts.within
  have hlt := lt_length_of_opening? hstarts.opening
  rw [List.length_drop] at hwithin
  have hname : s.name = d.name := (congrArg MethodSpan.name hs).trans (OpenMethod.name_run _ _)
  have hchanges := (congrArg MethodSpan.depthChanges hs).trans (OpenMethod.depthChanges_run _ _)
  refine ⟨by omega, ?_, ?_, ?_, ?_, ?_⟩
  · rw [endLine_of_startLine hline]
    omega
  · rw [endLine_of_startLine hline]
    omega
  · exact ⟨d, by rw [hindex, hd], hname⟩
  · rw [hindex]
    exact OpenMethod.endsAfter_start_iff.1 hstarts.ends
  · rw [hindex, hchanges]
    exact Nat.zero_add _

/-- **No line belongs to two methods**, and they come in the order of their lines. -/
theorem pairwise_endLine_lt_startLine (text : List Char) :
    (methodSpans (lex text)).Pairwise fun a b => a.endLine < b.startLine := by
  refine (pairwise_methodSpans (pairwise_lex text)).imp_of_mem fun {a b} ha hb hlt => ?_
  obtain ⟨i, m, hstarts, hline, -⟩ := exists_startsAt_of_mem ha
  obtain ⟨i', m', hstarts', hline', -⟩ := exists_startsAt_of_mem hb
  have hle := (lt_length_of_opening? hstarts'.opening).le
  have := hstarts.add_le (by omega) hle hstarts'.reached
  rw [endLine_of_startLine hline]
  omega

/-- A line that could start a method is on a line of a method that opens at or above it. -/
lemma exists_opensAt_of_methodStart? {ls : List LexedLine} {i : ℕ}
    (h : (methodStart? (ls.drop i)).isSome) :
    i < ls.length ∧ ∃ i₀ m, i₀ ≤ i ∧ OpensAt ls i₀ m ∧ OpenUpTo ls i₀ m i := by
  have hi : i < ls.length := by
    by_contra hle
    rw [List.drop_eq_nil_of_le (not_lt.1 hle)] at h
    cases h
  refine ⟨hi, ?_⟩
  cases hopen : openAfter i none ls with
  | none =>
      obtain ⟨d, hd⟩ := Option.isSome_iff_exists.1 h
      obtain ⟨m, hm⟩ : ∃ m, opening? (ls.drop i) = some m := by
        rw [List.drop_eq_getElem_cons hi] at hd ⊢
        exact ⟨_, Option.map_eq_some_iff.2 ⟨d, hd, rfl⟩⟩
      exact ⟨i, m, le_rfl, ⟨hopen, hm⟩, fun n hn hle => absurd hle (by omega)⟩
  | some m' =>
      obtain ⟨i₀, m, hlt, hopens, hsince, -⟩ := exists_opensAt hopen hi.le
      exact ⟨i₀, m, hlt.le, hopens, hsince⟩

/-- **There is a tail**, which is reached with no method open. -/
theorem exists_isTail (ls : List LexedLine) :
    ∃ t, IsTail ls t ∧ openAfter t none ls = none := by
  classical
  cases hopen : openAfter ls.length none ls with
  | none =>
      have hnone {p : Prop} (h : ls.length < ls.length) : p := absurd h (lt_irrefl _)
      exact ⟨ls.length, ⟨le_rfl, hnone, hnone⟩, hopen⟩
  | some m' =>
      obtain ⟨t, m, hlt, hopens, hsince, -⟩ := exists_opensAt hopen le_rfl
      obtain ⟨d, l, hd, -, rfl⟩ := exists_start_of_opening? hopens.opening
      refine ⟨t, ⟨hlt.le, fun _ => by rw [hd]; rfl, fun _ n hclosed => ?_⟩, hopens.reached⟩
      -- The first line on which the braces are closed would be one of the file.
      have hclosed' : ∃ k, BracesClosed ((ls.drop t).take k) := ⟨n, hclosed⟩
      have hleast := Nat.isLeast_find hclosed'
      have hends : (OpenMethod.start d.name l.line.number).EndsAfter (ls.drop t) _ :=
        OpenMethod.endsAfter_start_iff.2 hleast
      have hwithin := le_length_of_isLeast hleast
      rw [List.length_drop] at hwithin
      have hopen := hsince _ hends.1 (by omega)
      rw [hends.2.1] at hopen
      cases hopen

/-- The method of the tail does not end. -/
lemma IsTail.not_startsAt {ls : List LexedLine} {t n : ℕ} (ht : IsTail ls t) (m : OpenMethod) :
    ¬ StartsAt none ls t m n := by
  intro h
  obtain ⟨d, l, -, -, rfl⟩ := exists_start_of_opening? h.opening
  have hclosed := (OpenMethod.endsAfter_start_iff.1 h.ends).1
  exact ht.unclosed (lt_length_of_opening? h.opening) n hclosed

/-- The tail is below all methods that are found. -/
lemma IsTail.endLine_le {t : ℕ} (ht : IsTail (lex text) t)
    (hreached : openAfter t none (lex text) = none) (h : s ∈ methodSpans (lex text)) :
    s.endLine ≤ t := by
  obtain ⟨i, m, hstarts, hline, -⟩ := exists_startsAt_of_mem h
  have hi := lt_length_of_opening? hstarts.opening
  rw [endLine_of_startLine hline]
  rcases Nat.lt_trichotomy i t with hlt | rfl | hgt
  · exact hstarts.add_le hlt ht.le_length hreached
  · exact absurd hstarts (ht.not_startsAt m)
  · obtain ⟨-, i₀, m₀, hle, hopens, hsince⟩ := exists_opensAt_of_methodStart? (ht.starts (by omega))
    obtain rfl : i₀ = t := by
      by_contra hne
      obtain ⟨n, hends, hn⟩ := hopens.exists_startsAt (by omega) ht.le_length hreached
      have hclosed := hsince n hends.ends.1 hn
      rw [hends.ends.2.1] at hclosed
      cases hclosed
    obtain ⟨n, hends, -⟩ := hopens.exists_startsAt hgt hi.le hstarts.reached
    exact absurd hends (ht.not_startsAt m₀)

/-- **A line that could start a method** is on a line of a method that is found, or in the tail. -/
theorem exists_span_of_methodStart? {t i : ℕ} (ht : IsTail (lex text) t)
    (hreached : openAfter t none (lex text) = none)
    (h : (methodStart? ((lex text).drop i)).isSome) :
    (∃ s ∈ methodSpans (lex text), s.startLine ≤ i + 1 ∧ i + 1 ≤ s.endLine) ∨ t ≤ i := by
  obtain ⟨hi, i₀, m, hle, hopens, hsince⟩ := exists_opensAt_of_methodStart? h
  rcases Nat.lt_or_ge i₀ t with hlt | hge
  · obtain ⟨n, hstarts, -⟩ := hopens.exists_startsAt hlt ht.le_length hreached
    obtain ⟨d, l, -, -, rfl⟩ := exists_start_of_opening? hopens.opening
    obtain ⟨hmem, hline⟩ := mem_methodSpans_startLine_iff.2 ⟨_, _, hstarts, rfl⟩
    refine .inl ⟨_, hmem, by omega, ?_⟩
    rw [endLine_of_startLine hline, hstarts.lineCount rfl]
    by_contra hend
    have hclosed := hsince n hstarts.ends.1 (by omega)
    rw [hstarts.ends.2.1] at hclosed
    cases hclosed
  · exact .inr (hge.trans hle)

/-- The violations of the limit on methods are about the methods over it, one for each. -/
lemma map_line_longMethods (path : Path) (limit : ℕ) (ls : List LexedLine) :
    (longMethods path limit ls).map Violation.line =
      ((methodSpans ls).filter fun s => limit < s.lineCount).map MethodSpan.startLine := by
  rw [longMethods, List.map_map]
  rfl

/-- **How the methods divide a file.** The methods that are found are in the order of their lines
and have no line in common. Each of them starts on a line that declares it, ends with the first of
its lines on which its braces are closed, and counts the lines on which the number of open braces
changes. A line that could start a method is on a line of one of them, or else in a tail below all
of them, which goes up to the end of the file and is not closed. The limit reports the methods with
more lines, each on its first line: not those with as many lines, and all those with one more. -/
theorem methodSpans_layout (text : List Char) :
    (methodSpans (lex text)).Pairwise (fun a b => a.endLine < b.startLine) ∧
      (∀ s ∈ methodSpans (lex text), s.IsOf (lex text)) ∧
      (∃ t, IsTail (lex text) t ∧ (∀ s ∈ methodSpans (lex text), s.endLine ≤ t) ∧
        ∀ i, (methodStart? ((lex text).drop i)).isSome →
          (∃ s ∈ methodSpans (lex text), s.startLine ≤ i + 1 ∧ i + 1 ≤ s.endLine) ∨ t ≤ i) ∧
      ∀ path limit,
        (longMethods path limit (lex text)).map Violation.line =
          ((methodSpans (lex text)).filter fun s => limit < s.lineCount).map
            MethodSpan.startLine ∧
        ∀ s ∈ methodSpans (lex text),
          (s.lineCount = limit → ∀ v ∈ longMethods path limit (lex text), v.line ≠ s.startLine) ∧
          (s.lineCount = limit + 1 →
            ∃ v ∈ longMethods path limit (lex text), v.line = s.startLine) := by
  refine ⟨pairwise_endLine_lt_startLine text, fun s => isOf_of_mem_methodSpans, ?_,
    fun path limit => ⟨map_line_longMethods path limit _, fun s hs => ⟨?_, fun hcount => ?_⟩⟩⟩
  · obtain ⟨t, ht, hreached⟩ := exists_isTail (lex text)
    exact ⟨t, ht, fun s => ht.endLine_le hreached,
      fun i => exists_span_of_methodStart? ht hreached⟩
  · rintro rfl v hv hline
    exact lt_irrefl _ ((exists_mem_longMethods_iff hs path s.lineCount).1 ⟨v, hv, hline⟩)
  · exact (exists_mem_longMethods_iff hs path limit).2 (by omega)

end Spans

end QualityGate
