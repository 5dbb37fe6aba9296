import QualityGate.Method.Span
import Mathlib.Tactic

/-!
How the methods of a file are found, line by line. At most one method is open at a time. On each
line one is opened if none is open, the open one goes on, and it ends when its braces are closed.

* `OpenMethod.run`: an open method after several lines.
* `OpenMethod.EndsAfter`: its braces are closed for the first time after so many lines.
* `BracesClosed`: some brace was opened on the lines, and no more of them than were closed.
* `openAfter`: the method that is open after the first lines of a file.
* `mem_methodSpans_iff`: **the methods that are found** are those that start on a line that is
  reached with no method open, up to the line on which their braces are closed.
-/

namespace QualityGate

/-! ### An open method -/

namespace OpenMethod

/-- A method after more lines. -/
def run (m : OpenMethod) (ls : List LexedLine) : OpenMethod := ls.foldl advance m

@[simp] lemma run_nil (m : OpenMethod) : m.run [] = m := rfl

@[simp] lemma run_cons (m : OpenMethod) (l : LexedLine) (ls : List LexedLine) :
    m.run (l :: ls) = (m.advance l).run ls := rfl

/-- A method keeps its name and its first line. -/
lemma name_run (m : OpenMethod) (ls : List LexedLine) : (m.run ls).name = m.name := by
  induction ls generalizing m with
  | nil => rfl
  | cons l ls ih => exact ih (m.advance l)

lemma startLine_run (m : OpenMethod) (ls : List LexedLine) :
    (m.run ls).startLine = m.startLine := by
  induction ls generalizing m with
  | nil => rfl
  | cons l ls ih => exact ih (m.advance l)

lemma lineCount_run (m : OpenMethod) (ls : List LexedLine) :
    (m.run ls).lineCount = m.lineCount + ls.length := by
  induction ls generalizing m with
  | nil => rfl
  | cons l ls ih =>
      have hstep : (m.advance l).lineCount = m.lineCount + 1 := rfl
      rw [run_cons, ih, hstep, List.length_cons]
      omega

lemma depth_run (m : OpenMethod) (ls : List LexedLine) :
    (m.run ls).depth = m.depth + (ls.map fun l => l.scan.depthDelta).sum := by
  induction ls generalizing m with
  | nil => simp
  | cons l ls ih =>
      have hstep : (m.advance l).depth = m.depth + l.scan.depthDelta := rfl
      rw [run_cons, ih, hstep, List.map_cons, List.sum_cons]
      omega

lemma opened_run (m : OpenMethod) (ls : List LexedLine) :
    (m.run ls).opened = true ↔ m.opened = true ∨ ∃ l ∈ ls, 0 < l.scan.opens := by
  induction ls generalizing m with
  | nil => simp
  | cons l ls ih =>
      have hstep : (m.advance l).opened = (m.opened || decide (0 < l.scan.opens)) := rfl
      rw [run_cons, ih, hstep]
      simp [or_assoc]

/-- A method is closed when a brace was opened and no more braces are open than before it. -/
lemma isClosed_iff (m : OpenMethod) : m.isClosed = true ↔ m.opened = true ∧ m.depth ≤ 0 := by
  simp [isClosed]

/-- The braces of the method are closed for the first time after this many lines. -/
def EndsAfter (m : OpenMethod) (ls : List LexedLine) (n : ℕ) : Prop :=
  0 < n ∧ (m.run (ls.take n)).isClosed = true ∧
    ∀ k, 0 < k → k < n → (m.run (ls.take k)).isClosed = false

variable {m : OpenMethod} {l : LexedLine} {ls : List LexedLine} {n : ℕ}

/-- A method that is closed after its first line ends there. -/
lemma endsAfter_one (h : (m.advance l).isClosed = true) : m.EndsAfter (l :: ls) 1 := by
  refine ⟨Nat.one_pos, by simpa using h, fun k hk hk' => ?_⟩
  omega

/-- A method that is open after its first line ends when it ends after that line. -/
lemma endsAfter_succ_iff (h : (m.advance l).isClosed = false) (hn : 0 < n) :
    m.EndsAfter (l :: ls) (n + 1) ↔ (m.advance l).EndsAfter ls n := by
  constructor
  · rintro ⟨-, hclosed, hopen⟩
    refine ⟨hn, hclosed, fun k hk hkn => ?_⟩
    exact hopen (k + 1) (by omega) (by omega)
  · rintro ⟨-, hclosed, hopen⟩
    refine ⟨by omega, hclosed, fun k hk hkn => ?_⟩
    obtain ⟨k, rfl⟩ : ∃ i, k = i + 1 := ⟨k - 1, by omega⟩
    rcases Nat.eq_zero_or_pos k with rfl | hpos
    · simpa using h
    · exact hopen k hpos (by omega)

/-- A method ends only once. -/
lemma EndsAfter.unique {n' : ℕ} (h : m.EndsAfter ls n) (h' : m.EndsAfter ls n') : n = n' := by
  obtain ⟨hpos, hclosed, hopen⟩ := h
  obtain ⟨hpos', hclosed', hopen'⟩ := h'
  rcases lt_trichotomy n n' with hlt | heq | hgt
  · have := hopen' n hpos hlt
    rw [hclosed] at this
    cases this
  · exact heq
  · have := hopen n' hpos' hgt
    rw [hclosed'] at this
    cases this

end OpenMethod

/-! ### Closed braces -/

/-- On the lines a brace is opened, and no more braces are opened than closed. -/
def BracesClosed (ls : List LexedLine) : Prop :=
  (∃ l ∈ ls, 0 < l.scan.opens) ∧ (ls.map fun l => l.scan.depthDelta).sum ≤ 0

/-- The braces are closed for the first time on a line that is there. -/
lemma le_length_of_isLeast {ls : List LexedLine} {n : ℕ}
    (h : IsLeast {k | BracesClosed (ls.take k)} n) : n ≤ ls.length := by
  by_contra hlt
  have hclosed : BracesClosed (ls.take n) := h.1
  rw [List.take_of_length_le (not_le.1 hlt).le, ← List.take_length (l := ls)] at hclosed
  exact hlt (h.2 hclosed)

namespace OpenMethod

/-- A method is closed after lines on which its braces are. -/
lemma isClosed_run_start (name : List Char) (line : ℕ) (ls : List LexedLine) :
    ((start name line).run ls).isClosed = true ↔ BracesClosed ls := by
  rw [isClosed_iff, opened_run, depth_run, BracesClosed]
  simp [start]

/-- A method ends after the least number of lines on which its braces are closed. -/
lemma endsAfter_start_iff {name : List Char} {line n : ℕ} {ls : List LexedLine} :
    (start name line).EndsAfter ls n ↔ IsLeast {k | BracesClosed (ls.take k)} n := by
  have hpos {k : ℕ} (hk : BracesClosed (ls.take k)) : 0 < k := by
    obtain ⟨⟨l, hl, -⟩, -⟩ := hk
    rcases Nat.eq_zero_or_pos k with rfl | hk
    · cases hl
    · exact hk
  constructor
  · rintro ⟨-, hclosed, hopen⟩
    refine ⟨(isClosed_run_start name line _).1 hclosed, fun k hk => ?_⟩
    by_contra hlt
    have := hopen k (hpos hk) (not_le.1 hlt)
    rw [(isClosed_run_start name line _).2 hk] at this
    cases this
  · rintro ⟨hclosed, hleast⟩
    refine ⟨hpos hclosed, (isClosed_run_start name line _).2 hclosed, fun k _ hk => ?_⟩
    rw [← Bool.not_eq_true, isClosed_run_start]
    exact fun h => absurd (hleast h) (not_le.2 hk)

end OpenMethod

/-! ### The scan of a file -/

/-- The method that the first of the lines opens. -/
def opening? : List LexedLine → Option OpenMethod
  | [] => none
  | l :: ls => (methodStart? (l :: ls)).map fun d => .start d.name l.line.number

/-- The method that is open after the first of the lines. -/
def openNext (current : Option OpenMethod) (l : LexedLine) (ls : List LexedLine) :
    Option OpenMethod :=
  ((current.or (opening? (l :: ls))).map fun m => m.advance l).filter fun m => !m.isClosed

/-- The method that is open after the first lines. -/
def openAfter : ℕ → Option OpenMethod → List LexedLine → Option OpenMethod
  | 0, current, _ => current
  | _ + 1, current, [] => current
  | n + 1, current, l :: ls => openAfter n (openNext current l ls) ls

section Step

variable {current : Option OpenMethod} {l : LexedLine} {ls : List LexedLine} {m : OpenMethod}

/-- Nothing is open and nothing is opened. -/
lemma methodSpansFrom_none (h : current.or (opening? (l :: ls)) = none) :
    methodSpansFrom current (l :: ls) = methodSpansFrom none ls := by
  have h' : current.or ((methodStart? (l :: ls)).map fun d => .start d.name l.line.number) =
      none := h
  rw [methodSpansFrom, h']

/-- The method that is open or is opened ends on the first line. -/
lemma methodSpansFrom_closed (h : current.or (opening? (l :: ls)) = some m)
    (hclosed : (m.advance l).isClosed = true) :
    methodSpansFrom current (l :: ls) = (m.advance l).toSpan :: methodSpansFrom none ls := by
  have h' : current.or ((methodStart? (l :: ls)).map fun d => .start d.name l.line.number) =
      some m := h
  rw [methodSpansFrom, h']
  exact if_pos hclosed

/-- The method that is open or is opened goes on after the first line. -/
lemma methodSpansFrom_open (h : current.or (opening? (l :: ls)) = some m)
    (hopen : (m.advance l).isClosed = false) :
    methodSpansFrom current (l :: ls) = methodSpansFrom (some (m.advance l)) ls := by
  have h' : current.or ((methodStart? (l :: ls)).map fun d => .start d.name l.line.number) =
      some m := h
  rw [methodSpansFrom, h']
  exact if_neg (by rw [hopen]; exact Bool.false_ne_true)

lemma openNext_none (h : current.or (opening? (l :: ls)) = none) :
    openNext current l ls = none := by
  rw [openNext, h]
  rfl

lemma openNext_closed (h : current.or (opening? (l :: ls)) = some m)
    (hclosed : (m.advance l).isClosed = true) : openNext current l ls = none := by
  rw [openNext, h]
  simp [hclosed]

lemma openNext_open (h : current.or (opening? (l :: ls)) = some m)
    (hopen : (m.advance l).isClosed = false) : openNext current l ls = some (m.advance l) := by
  rw [openNext, h]
  simp [hopen]

end Step

/-- The methods that end on later lines are among the methods that are found. -/
lemma methodSpansFrom_openAfter_suffix (n : ℕ) (current : Option OpenMethod)
    (ls : List LexedLine) :
    methodSpansFrom (openAfter n current ls) (ls.drop n) <:+ methodSpansFrom current ls := by
  induction n generalizing current ls with
  | zero => exact List.suffix_rfl
  | succ n ih =>
      cases ls with
      | nil => exact List.suffix_rfl
      | cons l ls =>
          refine (ih (openNext current l ls) ls).trans ?_
          cases hm : current.or (opening? (l :: ls)) with
          | none => rw [openNext_none hm, methodSpansFrom_none hm]
          | some m =>
              cases hclosed : (m.advance l).isClosed with
              | true =>
                  rw [openNext_closed hm hclosed, methodSpansFrom_closed hm hclosed]
                  exact List.suffix_cons _ _
              | false => rw [openNext_open hm hclosed, methodSpansFrom_open hm hclosed]

/-- A method that ends is found, up to the line on which it ends. -/
lemma mem_methodSpansFrom_of_endsAfter {m : OpenMethod} {ls : List LexedLine} {n : ℕ}
    (h : m.EndsAfter ls n) (hn : n ≤ ls.length) {current : Option OpenMethod}
    (hcurrent : current.or (opening? ls) = some m) :
    (m.run (ls.take n)).toSpan ∈ methodSpansFrom current ls := by
  induction ls generalizing m n current with
  | nil =>
      have := h.1
      rw [List.length_nil] at hn
      omega
  | cons l ls ih =>
      cases hclosed : (m.advance l).isClosed with
      | true =>
          obtain rfl : n = 1 := h.unique (OpenMethod.endsAfter_one hclosed)
          rw [methodSpansFrom_closed hcurrent hclosed]
          exact List.mem_cons_self
      | false =>
          obtain ⟨n, rfl⟩ : ∃ k, n = k + 1 := ⟨n - 1, by have := h.1; omega⟩
          have hpos : 0 < n := by
            rcases Nat.eq_zero_or_pos n with rfl | hpos
            · have hone : (m.advance l).isClosed = true := h.2.1
              rw [hclosed] at hone
              cases hone
            · exact hpos
          rw [methodSpansFrom_open hcurrent hclosed, List.take_succ_cons, OpenMethod.run_cons]
          rw [List.length_cons] at hn
          exact ih ((OpenMethod.endsAfter_succ_iff hclosed hpos).1 h) (by omega) rfl

/-- A method starts on the line with the given index, which is reached with no method open, and it
goes on for the given number of lines. -/
structure StartsAt (current : Option OpenMethod) (ls : List LexedLine) (i : ℕ) (m : OpenMethod)
    (n : ℕ) : Prop where
  reached : openAfter i current ls = none
  opening : opening? (ls.drop i) = some m
  within : n ≤ (ls.drop i).length
  ends : m.EndsAfter (ls.drop i) n

/-- What starts later starts at a later index of all lines. -/
lemma StartsAt.cons {current : Option OpenMethod} {l : LexedLine} {ls : List LexedLine} {i n : ℕ}
    {m : OpenMethod} (h : StartsAt (openNext current l ls) ls i m n) :
    StartsAt current (l :: ls) (i + 1) m n :=
  ⟨h.reached, h.opening, h.within, h.ends⟩

/-- A method that is found was open, or starts on a line that is reached with no method open, and
ends when its braces are closed. -/
lemma exists_of_mem_methodSpansFrom {current : Option OpenMethod} {ls : List LexedLine}
    {s : MethodSpan} (h : s ∈ methodSpansFrom current ls) :
    (∃ m n, current = some m ∧ n ≤ ls.length ∧ m.EndsAfter ls n ∧
      s = (m.run (ls.take n)).toSpan) ∨
    ∃ i m n, StartsAt current ls i m n ∧ s = (m.run ((ls.drop i).take n)).toSpan := by
  induction ls generalizing current with
  | nil => cases h
  | cons l ls ih =>
      have hlater (hnext : openNext current l ls = none) (h : s ∈ methodSpansFrom none ls) :
          ∃ i m n, StartsAt current (l :: ls) i m n ∧
            s = (m.run (((l :: ls).drop i).take n)).toSpan := by
        rcases ih h with ⟨m, n, hm, -⟩ | ⟨i, m, n, hstarts, hs⟩
        · cases hm
        · rw [← hnext] at hstarts
          exact ⟨i + 1, m, n, hstarts.cons, hs⟩
      cases hm : current.or (opening? (l :: ls)) with
      | none =>
          rw [methodSpansFrom_none hm] at h
          exact .inr (hlater (openNext_none hm) h)
      | some m =>
          -- The method on the first line was open before it, or the line opens it.
          have hhere {n : ℕ} (hn : n ≤ (l :: ls).length) (hends : m.EndsAfter (l :: ls) n) :
              (∃ m' n', current = some m' ∧ n' ≤ (l :: ls).length ∧ m'.EndsAfter (l :: ls) n' ∧
                (m.run ((l :: ls).take n)).toSpan = (m'.run ((l :: ls).take n')).toSpan) ∨
              ∃ i m' n', StartsAt current (l :: ls) i m' n' ∧ (m.run ((l :: ls).take n)).toSpan =
                (m'.run (((l :: ls).drop i).take n')).toSpan := by
            cases current with
            | some m' =>
                cases hm
                exact .inl ⟨m, n, rfl, hn, hends, rfl⟩
            | none => exact .inr ⟨0, m, n, ⟨rfl, hm, hn, hends⟩, rfl⟩
          cases hclosed : (m.advance l).isClosed with
          | true =>
              rw [methodSpansFrom_closed hm hclosed] at h
              rcases List.mem_cons.1 h with rfl | h
              · exact hhere (Nat.le_add_left 1 ls.length) (OpenMethod.endsAfter_one hclosed)
              · exact .inr (hlater (openNext_closed hm hclosed) h)
          | false =>
              rw [methodSpansFrom_open hm hclosed] at h
              rcases ih h with ⟨m', n, hm', hn, hends, rfl⟩ | ⟨i, m', n, hstarts, hs⟩
              · cases hm'
                exact hhere (Nat.succ_le_succ hn)
                  ((OpenMethod.endsAfter_succ_iff hclosed hends.1).2 hends)
              · rw [← openNext_open hm hclosed] at hstarts
                exact .inr ⟨i + 1, m', n, hstarts.cons, hs⟩

/-- **The methods of a file** are those that start on a line that is reached with no method open,
and each goes on to the first line after which its braces are closed. -/
theorem mem_methodSpans_iff {ls : List LexedLine} {s : MethodSpan} :
    s ∈ methodSpans ls ↔
      ∃ i m n, StartsAt none ls i m n ∧ s = (m.run ((ls.drop i).take n)).toSpan := by
  constructor
  · intro h
    rcases exists_of_mem_methodSpansFrom h with ⟨m, n, hm, -⟩ | h
    · cases hm
    · exact h
  · rintro ⟨i, m, n, hstarts, rfl⟩
    refine (methodSpansFrom_openAfter_suffix i none ls).subset ?_
    rw [hstarts.reached]
    exact mem_methodSpansFrom_of_endsAfter hstarts.ends hstarts.within hstarts.opening

end QualityGate
