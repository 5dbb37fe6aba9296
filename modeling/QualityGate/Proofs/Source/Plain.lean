import QualityGate.Proofs.Source.Lexing
import Mathlib.Tactic

/-!
The plain code of a line, character by character. A scan only counts; here the characters that it
counts stand in their order, so that one can say which brace closes which.

* `scan_of_mem_lex`: the lines of a text are scanned into what the marks of their characters give.
* `plainFrom`: the plain code of several lines, each character with the index of its line.
* `balance`: opening less closing marks.
* `sum_depthDelta_take`: the braces of the first lines, by their plain code.
* `parensAfter`: the parentheses that are open after the first lines.
-/

namespace QualityGate

/-! ### The plain code of a line -/

/-- The characters of plain code on a line, in order. -/
def LexedLine.plain (l : LexedLine) : List Char := plainChars (marksFrom l.entry l.line.text)

/-- No line of a text holds a line feed. -/
lemma newline_not_mem_of_mem_lines {t line : List Char} (h : line ∈ Text.lines t) :
    '\n' ∉ line := by
  generalize hls : Text.lines t = ls at h
  induction ls generalizing t with
  | nil => cases h
  | cons l ls ih =>
      have ht : t ≠ [] := by rintro rfl; cases hls
      obtain ⟨first, rest, -, hfirst, hlines, -⟩ := exists_firstLine_marks .code ht
      obtain ⟨rfl, hrest⟩ := List.cons.inj (hlines.symm.trans hls)
      rcases List.mem_cons.1 h with rfl | h
      · exact hfirst
      · exact ih hrest h

/-- Lines are scanned from the states in which they start. -/
lemma scan_of_mem_lexFrom {s : LexState} {ls : List Line} {l : LexedLine}
    (h : l ∈ lexFrom s ls) : l.line ∈ ls ∧ l.scan = Scan.ofLine l.entry l.line.text := by
  induction ls generalizing s with
  | nil => cases h
  | cons k ls ih =>
      rcases List.mem_cons.1 h with rfl | h
      · exact ⟨List.mem_cons_self, rfl⟩
      · exact ⟨List.mem_cons_of_mem k (ih h).1, (ih h).2⟩

/-- The text of a numbered line is one of the texts. -/
lemma text_mem_of_mem_numberedFrom {n : ℕ} {ts : List (List Char)} {l : Line}
    (h : l ∈ numberedFrom n ts) : l.text ∈ ts := by
  induction ts generalizing n with
  | nil => cases h
  | cons t ts ih =>
      rcases List.mem_cons.1 h with rfl | h
      · exact List.mem_cons_self
      · exact List.mem_cons_of_mem t (ih h)

/-- **The lines of a text are scanned** into what the marks of their characters give. -/
theorem scan_of_mem_lex {t : List Char} {l : LexedLine} (h : l ∈ lex t) :
    l.scan = scanOf l.entry (marksFrom l.entry l.line.text) := by
  obtain ⟨hline, hscan⟩ := scan_of_mem_lexFrom h
  have hnewline := newline_not_mem_of_mem_lines (text_mem_of_mem_numberedFrom hline)
  rw [hscan, ofLine_eq_scanOf l.entry hnewline]

/-- The lines of a text are numbered from one. -/
lemma number_of_getElem?_lex {text : List Char} {i : ℕ} {l : LexedLine}
    (h : (lex text)[i]? = some l) : l.line.number = i + 1 := by
  have hnumbered (n : ℕ) (ts : List (List Char)) (i : ℕ) (l : Line)
      (h : (numberedFrom n ts)[i]? = some l) : l.number = n + i := by
    induction ts generalizing n i with
    | nil => cases h
    | cons t ts ih =>
        cases i with
        | zero =>
            cases h
            rfl
        | succ i =>
            have := ih (n + 1) i h
            omega
  have hline : (sourceLines text)[i]? = some l.line := by
    rw [← lexFrom_line .code (sourceLines text), List.getElem?_map]
    exact congrArg (Option.map LexedLine.line) h
  have := hnumbered 1 (Text.lines text) i l.line hline
  omega

/-! ### Plain code over lines -/

/-- The plain code of lines, each character with the index of its line; the first line has the given
index. -/
def plainFrom (k : ℕ) : List LexedLine → List (ℕ × Char)
  | [] => []
  | l :: ls => l.plain.map (Prod.mk k) ++ plainFrom (k + 1) ls

/-- How often a character occurs. -/
def occurrences (c : Char) (s : List (ℕ × Char)) : ℕ := (s.map Prod.snd).count c

/-- Opening less closing marks. -/
def balance (opening closing : Char) (s : List (ℕ × Char)) : ℤ :=
  (occurrences opening s : ℤ) - occurrences closing s

section Balance

variable {o c : Char} {s t : List (ℕ × Char)}

@[simp] lemma occurrences_append : occurrences o (s ++ t) = occurrences o s + occurrences o t := by
  simp [occurrences]

@[simp] lemma occurrences_cons (k : ℕ) (d : Char) :
    occurrences o ((k, d) :: s) = occurrences o s + if d = o then 1 else 0 := by
  simp [occurrences, List.count_cons]

@[simp] lemma balance_append : balance o c (s ++ t) = balance o c s + balance o c t := by
  simp only [balance, occurrences_append]
  omega

/-- Opening and closing marks count by one. -/
lemma balance_cons_opening (h : o ≠ c) (k : ℕ) :
    balance o c ((k, o) :: s) = balance o c s + 1 := by
  simp only [balance, occurrences_cons, if_true, if_neg h]
  omega

lemma balance_cons_closing (h : o ≠ c) (k : ℕ) :
    balance o c ((k, c) :: s) = balance o c s - 1 := by
  simp only [balance, occurrences_cons, if_true, if_neg h.symm]
  omega

end Balance

/-- The indices of the characters are those of the lines. -/
lemma fst_of_mem_plainFrom {k : ℕ} {ls : List LexedLine} {x : ℕ × Char}
    (h : x ∈ plainFrom k ls) : k ≤ x.1 ∧ x.1 < k + ls.length := by
  induction ls generalizing k with
  | nil => cases h
  | cons l ls ih =>
      rw [List.length_cons]
      rcases List.mem_append.1 h with h | h
      · obtain ⟨c, -, rfl⟩ := List.mem_map.1 h
        exact ⟨le_rfl, by dsimp only; omega⟩
      · have := ih h
        omega

/-- The characters of a line are those with its index. -/
lemma mem_plainFrom_iff {k : ℕ} {ls : List LexedLine} {n : ℕ} {c : Char} :
    (k + n, c) ∈ plainFrom k ls ↔ ∃ l, ls[n]? = some l ∧ c ∈ l.plain := by
  induction ls generalizing k n with
  | nil => simp [plainFrom]
  | cons l ls ih =>
      rw [plainFrom, List.mem_append]
      cases n with
      | zero =>
          have hlater : (k, c) ∉ plainFrom (k + 1) ls := fun h => by
            have := (fst_of_mem_plainFrom h).1
            omega
          simp [hlater]
      | succ n =>
          have hfirst : (k + (n + 1), c) ∉ l.plain.map (Prod.mk k) := by
            simp
          have hshift : k + (n + 1) = k + 1 + n := by omega
          rw [or_iff_right hfirst, hshift, ih, List.getElem?_cons_succ]

/-- The characters stand in the order of the lines. -/
lemma pairwise_plainFrom (k : ℕ) (ls : List LexedLine) :
    (plainFrom k ls).Pairwise fun x y => x.1 ≤ y.1 := by
  induction ls generalizing k with
  | nil => exact List.Pairwise.nil
  | cons l ls ih =>
      refine List.pairwise_append.2 ⟨?_, ih (k + 1), fun x hx y hy => ?_⟩
      · exact List.pairwise_map.2 (List.pairwise_of_forall fun _ _ => le_rfl)
      · obtain ⟨c, -, rfl⟩ := List.mem_map.1 hx
        have := (fst_of_mem_plainFrom hy).1
        dsimp only
        omega

/-- The characters of the first lines are those with a smaller index. -/
lemma filter_plainFrom (k n : ℕ) (ls : List LexedLine) :
    (plainFrom k ls).filter (fun x => x.1 < k + n) = plainFrom k (ls.take n) := by
  induction ls generalizing k n with
  | nil => simp [plainFrom]
  | cons l ls ih =>
      cases n with
      | zero =>
          rw [List.take_zero, plainFrom.eq_1, List.filter_eq_nil_iff]
          intro x hx
          have := (fst_of_mem_plainFrom hx).1
          simpa using this
      | succ n =>
          have hshift : k + (n + 1) = k + 1 + n := by omega
          have hfirst : (l.plain.map (Prod.mk k)).filter (fun x => x.1 < k + (n + 1)) =
              l.plain.map (Prod.mk k) := by
            rw [List.filter_eq_self]
            intro x hx
            obtain ⟨c, -, rfl⟩ := List.mem_map.1 hx
            simp
          rw [plainFrom, List.filter_append, hfirst, hshift, ih, List.take_succ_cons, plainFrom]

/-- Lines of a text. -/
def Scanned (ls : List LexedLine) : Prop :=
  ∀ l ∈ ls, l.scan = scanOf l.entry (marksFrom l.entry l.line.text)

lemma scanned_lex (t : List Char) : Scanned (lex t) := fun _ h => scan_of_mem_lex h

lemma Scanned.drop {ls : List LexedLine} (h : Scanned ls) (n : ℕ) : Scanned (ls.drop n) :=
  fun l hl => h l (List.mem_of_mem_drop hl)

lemma Scanned.take {ls : List LexedLine} (h : Scanned ls) (n : ℕ) : Scanned (ls.take n) :=
  fun l hl => h l (List.mem_of_mem_take hl)

/-- A line has an opening brace if there is one in its plain code. -/
lemma Scanned.opens_pos_iff {ls : List LexedLine} (h : Scanned ls) {l : LexedLine} (hl : l ∈ ls) :
    0 < l.scan.opens ↔ '{' ∈ l.plain := by
  rw [h l hl]
  exact List.count_pos_iff

/-- The braces of lines, by their plain code. -/
lemma sum_depthDelta {ls : List LexedLine} (h : Scanned ls) (k : ℕ) :
    (ls.map fun l => l.scan.depthDelta).sum = balance '{' '}' (plainFrom k ls) := by
  induction ls generalizing k with
  | nil => rfl
  | cons l ls ih =>
      have hl := h l List.mem_cons_self
      have hcount : l.scan.depthDelta = balance '{' '}' (l.plain.map (Prod.mk k)) := by
        rw [hl, balance, occurrences, occurrences, List.map_map]
        simp [Function.comp_def, Scan.depthDelta, scanOf, LexedLine.plain]
      have hrest := ih (fun l' hl' => h l' (List.mem_cons_of_mem l hl')) (k + 1)
      rw [List.map_cons, List.sum_cons, hrest, plainFrom, balance_append, hcount]

/-- The braces of the first lines, by the plain code. -/
lemma sum_depthDelta_take {ls : List LexedLine} (h : Scanned ls) (n : ℕ) :
    ((ls.take n).map fun l => l.scan.depthDelta).sum =
      balance '{' '}' ((plainFrom 0 ls).filter fun x => x.1 < n) := by
  have hfilter := filter_plainFrom 0 n ls
  rw [Nat.zero_add] at hfilter
  rw [hfilter, sum_depthDelta (h.take n) 0]

/-! ### Parentheses over lines -/

/-- Opening less closing parentheses on the first lines. -/
def parensAfter (ls : List LexedLine) (n : ℕ) : ℤ :=
  ((ls.take n).map fun l => l.scan.parenDelta).sum

lemma parensAfter_cons (l : LexedLine) (ls : List LexedLine) (n : ℕ) :
    parensAfter (l :: ls) (n + 1) = l.scan.parenDelta + parensAfter ls n := by
  simp [parensAfter]

lemma parensAfter_zero (ls : List LexedLine) : parensAfter ls 0 = 0 := rfl

end QualityGate
