import QualityGate.Proofs.Analysis.Distinct
import QualityGate.Proofs.Method.Run
import QualityGate.Proofs.Source.Plain
import Mathlib.Tactic

/-!
Where a method ends. The lines of a method are counted by their braces, a whole line at a time; what
a reader looks for is the brace that closes the body, a single character. A `MethodLayout` is the
plain code of a method cut at the two braces of its body. The two agree on where the method ends
exactly if the layout `IsMeasured`.

* `opensBody_cons`, `opensBody_of_first`, `opensBody_of_undecided`: the lines that are passed over,
  and the first one that decides whether there is a body.
* `hasBody_iff`: **when a declaration is taken to have a body**.
* `bracesClosed_take_iff`: when the braces of the first lines are closed, by their plain code.
* `MethodLayout.IsOf.bracesClosed_head_iff`, `bracesClosed_body_iff`, `bracesClosed_close_iff`: when
  the braces are closed at the end of a line, in front of the body, in it and at its end.
* `MethodLayout.IsOf.isLeast_iff`: when they are so for the first time at the end of the body.
* `methodSpans_of_declared`: **the span of a declared method**.
* `exists_not_isMeasured`: each of the three conditions of `IsMeasured` can fail alone.
-/

namespace QualityGate

/-! ### Declarations with a body -/

/-- The line is recognised as the declaration of a method or a constructor. -/
def LexedLine.Declares (l : LexedLine) (d : Declaration) : Prop :=
  l.entry = .code ∧ l.line.isComment = false ∧ memberDeclaration? l.code = some d

instance (l : LexedLine) (d : Declaration) : Decidable (l.Declares d) :=
  inferInstanceAs (Decidable (_ ∧ _ ∧ _))

/-- The code of the line ends in a semicolon. -/
def LexedLine.EndsStatement (l : LexedLine) : Prop := [';'].isSuffixOf (Text.trimEnd l.code) = true

instance (l : LexedLine) : Decidable l.EndsStatement :=
  inferInstanceAs (Decidable ([';'].isSuffixOf (Text.trimEnd l.code) = true))

/-- The code of the line has the word for a list of exceptions in it. -/
def LexedLine.MentionsThrows (l : LexedLine) : Prop :=
  occursIn "throws".toList (Text.trimEnd l.code) = true

instance (l : LexedLine) : Decidable l.MentionsThrows :=
  inferInstanceAs (Decidable (occursIn "throws".toList (Text.trimEnd l.code) = true))

/-- A line starts a method if it declares one that has a body. -/
lemma methodStart?_eq_some {l : LexedLine} {ls : List LexedLine} {d : Declaration}
    (h : l.Declares d) (hbody : hasBody (l :: ls) = true) : methodStart? (l :: ls) = some d := by
  obtain ⟨hentry, hcomment, hdeclares⟩ := h
  simp [methodStart?, hentry, hcomment, hdeclares, hbody]

lemma methodStart?_eq_none {l : LexedLine} {ls : List LexedLine}
    (hbody : hasBody (l :: ls) = false) : methodStart? (l :: ls) = none := by
  simp [methodStart?, hbody]

section Decide

variable {p : ℤ} {throwing : Bool} {l : LexedLine} {ls : List LexedLine}

/-- A line that does not decide is passed over. Exceptions on it count if the parentheses are
closed. -/
lemma opensBody_cons (h : 0 < l.scan.opens ∨ l.EndsStatement → 0 < p + l.scan.parenDelta) :
    opensBody p throwing (l :: ls) = opensBody (p + l.scan.parenDelta)
      (throwing || decide (l.MentionsThrows ∧ p + l.scan.parenDelta ≤ 0)) ls := by
  rw [opensBody]
  by_cases hp : 0 < p + l.scan.parenDelta
  · rw [if_pos hp, decide_eq_false fun h => not_le.2 hp h.2, Bool.or_false]
  · obtain ⟨hopens, hends⟩ := not_or.1 (mt h hp)
    have hsemicolon : [';'].isSuffixOf (Text.trimEnd l.code) ≠ true := hends
    rw [if_neg hp, if_neg hopens, if_neg hsemicolon]
    simp [LexedLine.MentionsThrows, not_lt.1 hp]

/-- The first line on which the parentheses are closed and which has a brace or ends in a semicolon
decides: for a body, if it has a brace. -/
lemma opensBody_of_first {n : ℕ} (hl : ls[n]? = some l)
    (hdecides : 0 < l.scan.opens ∨ l.EndsStatement) (hclosed : p + parensAfter ls (n + 1) ≤ 0)
    (hfirst : ∀ k < n, ∀ l', ls[k]? = some l' → 0 < l'.scan.opens ∨ l'.EndsStatement →
      0 < p + parensAfter ls (k + 1)) :
    opensBody p throwing ls = true ↔ 0 < l.scan.opens := by
  induction ls generalizing p throwing n with
  | nil => cases hl
  | cons l' ls ih =>
      cases n with
      | zero =>
          cases hl
          rw [parensAfter_cons, parensAfter_zero, add_zero] at hclosed
          rw [opensBody, if_neg (not_lt.2 hclosed)]
          by_cases hopens : 0 < l.scan.opens
          · rw [if_pos hopens]
            exact iff_of_true rfl hopens
          · have hsemicolon : [';'].isSuffixOf (Text.trimEnd l.code) = true :=
              hdecides.resolve_left hopens
            rw [if_neg hopens, if_pos hsemicolon]
            exact iff_of_false Bool.false_ne_true hopens
      | succ n =>
          rw [opensBody_cons fun hdecides' => ?_]
          · rw [parensAfter_cons, ← add_assoc] at hclosed
            refine ih hl hclosed fun k hk l'' hl'' hdecides'' => ?_
            have := hfirst (k + 1) (Nat.succ_lt_succ hk) l'' hl'' hdecides''
            rwa [parensAfter_cons, ← add_assoc] at this
          · have := hfirst 0 (Nat.succ_pos n) l' rfl hdecides'
            rwa [parensAfter_cons, parensAfter_zero, add_zero] at this

/-- If no line decides, one does on which exceptions are mentioned. -/
lemma opensBody_of_undecided (h : ∀ n l, ls[n]? = some l → 0 < l.scan.opens ∨ l.EndsStatement →
      0 < p + parensAfter ls (n + 1)) :
    opensBody p throwing ls = true ↔ throwing = true ∨
      ∃ n l, ls[n]? = some l ∧ l.MentionsThrows ∧ p + parensAfter ls (n + 1) ≤ 0 := by
  induction ls generalizing p throwing with
  | nil => simp [opensBody]
  | cons l ls ih =>
      have hfirst : p + parensAfter (l :: ls) 1 = p + l.scan.parenDelta := by
        rw [parensAfter_cons, parensAfter_zero, add_zero]
      have hlater (n : ℕ) : p + parensAfter (l :: ls) (n + 1 + 1) =
          p + l.scan.parenDelta + parensAfter ls (n + 1) := by
        rw [parensAfter_cons, add_assoc]
      rw [← Nat.or_exists_add_one, opensBody_cons fun hdecides => hfirst ▸ h 0 l rfl hdecides,
        ih fun n l' hl' hdecides => hlater n ▸ h (n + 1) l' hl' hdecides]
      simp only [List.getElem?_cons_zero, List.getElem?_cons_succ, Option.some.injEq, zero_add,
        hlater, exists_eq_left', hfirst, Bool.or_eq_true, decide_eq_true_eq, or_assoc]

end Decide

/-- On the line with the given index the parentheses are closed, and it says whether the declaration
on the first of the lines has a body: with a brace, or with a semicolon at its end. -/
def DecidesBody (ls : List LexedLine) (n : ℕ) : Prop :=
  ∃ l, ls[n]? = some l ∧ ('{' ∈ l.plain ∨ l.EndsStatement) ∧ parensAfter ls (n + 1) ≤ 0

/-- The declaration on the first of the lines opens its body. The first line that decides has a
brace. -/
structure OpensInBrace (ls : List LexedLine) (n : ℕ) : Prop where
  first : IsLeast {k | DecidesBody ls k} n
  brace : ∃ l, ls[n]? = some l ∧ '{' ∈ l.plain

/-- The declaration on the first of the lines ends in a semicolon. The first line that decides has
no brace. -/
structure EndsInSemicolon (ls : List LexedLine) (n : ℕ) : Prop where
  first : IsLeast {k | DecidesBody ls k} n
  no_brace : ¬ ∃ l, ls[n]? = some l ∧ '{' ∈ l.plain

/-- The lines confirm that the declaration on the first of them has a body. It opens the body, or no
line decides and exceptions are mentioned on one where the parentheses are closed. -/
def ConfirmsBody (ls : List LexedLine) : Prop :=
  (∃ n, OpensInBrace ls n) ∨
    (¬ ∃ n, DecidesBody ls n) ∧
      ∃ n l, ls[n]? = some l ∧ l.MentionsThrows ∧ parensAfter ls (n + 1) ≤ 0

section Confirm

variable {ls : List LexedLine} {n : ℕ}

/-- The first line that decides does so by its braces. -/
lemma hasBody_iff_of_isLeast (hls : Scanned ls) (h : IsLeast {k | DecidesBody ls k} n) :
    hasBody ls = true ↔ ∃ l, ls[n]? = some l ∧ '{' ∈ l.plain := by
  have hopens {k : ℕ} {l : LexedLine} (hl : ls[k]? = some l) : 0 < l.scan.opens ↔ '{' ∈ l.plain :=
    hls.opens_pos_iff (List.mem_of_getElem? hl)
  obtain ⟨⟨l, hl, hdecides, hclosed⟩, hfirst⟩ := h
  rw [← hopens hl] at hdecides
  rw [hasBody, opensBody_of_first hl hdecides (by rwa [zero_add]) fun k hk l' hl' hdecides' => ?_,
    hopens hl]
  · simp only [hl, Option.some.injEq, exists_eq_left']
  · rw [hopens hl'] at hdecides'
    rw [zero_add]
    by_contra hle
    exact absurd (hfirst ⟨l', hl', hdecides', not_lt.1 hle⟩) (not_le.2 hk)

/-- A declaration that ends in a semicolon has no body. -/
lemma EndsInSemicolon.hasBody (h : EndsInSemicolon ls n) (hls : Scanned ls) :
    hasBody ls = false := by
  rw [← Bool.not_eq_true, hasBody_iff_of_isLeast hls h.first]
  exact h.no_brace

/-- **A declaration is taken to have a body** if its lines confirm it. -/
theorem hasBody_iff (hls : Scanned ls) : hasBody ls = true ↔ ConfirmsBody ls := by
  classical
  by_cases hdecided : ∃ n, DecidesBody ls n
  · rw [ConfirmsBody, or_iff_left fun h => h.1 hdecided]
    constructor
    · intro hbody
      have hfirst := Nat.isLeast_find hdecided
      exact ⟨_, hfirst, (hasBody_iff_of_isLeast hls hfirst).1 hbody⟩
    · rintro ⟨n, hfirst, hbrace⟩
      exact (hasBody_iff_of_isLeast hls hfirst).2 hbrace
  · have hnone : ¬ ∃ n, OpensInBrace ls n := fun ⟨n, hopens⟩ => hdecided ⟨n, hopens.first.1⟩
    rw [ConfirmsBody, or_iff_right hnone, and_iff_right hdecided, hasBody,
      opensBody_of_undecided fun n l hl hdecides => ?_]
    · simp only [Bool.false_eq_true, false_or, zero_add]
    · rw [hls.opens_pos_iff (List.mem_of_getElem? hl)] at hdecides
      rw [zero_add]
      by_contra hle
      exact hdecided ⟨n, l, hl, hdecides, not_lt.1 hle⟩

end Confirm

/-! ### The braces of the first lines -/

/-- The characters on the lines above the one with the given index. -/
def charsAbove (n : ℕ) (s : List (ℕ × Char)) : List (ℕ × Char) := s.filter fun c => c.1 < n

section Above

variable {n : ℕ} {s t : List (ℕ × Char)}

@[simp] lemma charsAbove_append : charsAbove n (s ++ t) = charsAbove n s ++ charsAbove n t :=
  List.filter_append ..

lemma charsAbove_cons_of_lt {c : ℕ × Char} (h : c.1 < n) :
    charsAbove n (c :: s) = c :: charsAbove n s :=
  List.filter_cons_of_pos (by simpa using h)

lemma charsAbove_eq_self (h : ∀ c ∈ s, c.1 < n) : charsAbove n s = s :=
  List.filter_eq_self.2 fun c hc => by simpa using h c hc

lemma charsAbove_eq_nil (h : ∀ c ∈ s, n ≤ c.1) : charsAbove n s = [] :=
  List.filter_eq_nil_iff.2 fun c hc => by simpa using h c hc

/-- Of characters in the order of their lines, those of the first lines come first. -/
lemma exists_charsAbove_eq_take (h : s.Pairwise fun c d => c.1 ≤ d.1) (n : ℕ) :
    ∃ k ≤ s.length, charsAbove n s = s.take k := by
  induction s with
  | nil => exact ⟨0, le_rfl, rfl⟩
  | cons c s ih =>
      obtain ⟨hc, hs⟩ := List.pairwise_cons.1 h
      by_cases hn : c.1 < n
      · obtain ⟨k, hk, heq⟩ := ih hs
        refine ⟨k + 1, Nat.succ_le_succ hk, ?_⟩
        rw [charsAbove_cons_of_lt hn, heq, List.take_succ_cons]
      · refine ⟨0, Nat.zero_le _, charsAbove_eq_nil fun d hd => ?_⟩
        rcases List.mem_cons.1 hd with rfl | hd
        · exact not_lt.1 hn
        · exact (not_lt.1 hn).trans (hc d hd)

/-- The braces of the first lines are closed, by the plain code. -/
lemma bracesClosed_take_iff {ls : List LexedLine} (hls : Scanned ls) (n : ℕ) :
    BracesClosed (ls.take n) ↔ '{' ∈ (charsAbove n (plainFrom 0 ls)).map Prod.snd ∧
      balance '{' '}' (charsAbove n (plainFrom 0 ls)) ≤ 0 := by
  rw [BracesClosed, sum_depthDelta_take hls]
  refine and_congr_left fun _ => ?_
  constructor
  · rintro ⟨l, hl, hopens⟩
    obtain ⟨k, hk, rfl⟩ := List.mem_take_iff_getElem.1 hl
    have hbrace := (hls.opens_pos_iff (List.getElem_mem _)).1 hopens
    have hmem := (mem_plainFrom_iff (k := 0)).2 ⟨_, List.getElem?_eq_getElem (by omega), hbrace⟩
    refine List.mem_map.2 ⟨_, List.mem_filter.2 ⟨hmem, ?_⟩, rfl⟩
    simp only [decide_eq_true_eq]
    omega
  · intro hmem
    obtain ⟨⟨k, c⟩, hc, rfl⟩ := List.mem_map.1 hmem
    obtain ⟨hplain, hk⟩ := List.mem_filter.1 hc
    rw [← Nat.zero_add k] at hplain
    obtain ⟨l, hl, hbrace⟩ := mem_plainFrom_iff.1 hplain
    refine ⟨l, List.mem_of_getElem? (i := k) ?_, ?_⟩
    · rw [List.getElem?_take_of_lt (of_decide_eq_true hk), hl]
    · exact (hls.opens_pos_iff (List.mem_of_getElem? hl)).2 hbrace

end Above

/-! ### The plain code of a method -/

/-- The plain code of the lines from a declaration on, cut at the braces of the body. The characters
come with the index of their line, and the declaration is on the line with index zero. -/
structure MethodLayout where
  head : List (ℕ × Char)
  openLine : ℕ
  body : List (ℕ × Char)
  closeLine : ℕ
  rest : List (ℕ × Char)
  deriving DecidableEq, Repr

namespace MethodLayout

/-- All characters, in order. -/
def chars (x : MethodLayout) : List (ℕ × Char) :=
  x.head ++ (x.openLine, '{') :: (x.body ++ (x.closeLine, '}') :: x.rest)

/-- Plain code, cut at two of its characters. -/
def cut (s : List (ℕ × Char)) (opening closing : ℕ) : MethodLayout where
  head := s.take opening
  openLine := (s.getD opening (0, '{')).1
  body := (s.take closing).drop (opening + 1)
  closeLine := (s.getD closing (0, '}')).1
  rest := s.drop (closing + 1)

/-- The lines are laid out in this way. The body opens with the first brace that is outside of all
parentheses, those of annotation arguments and of the parameter list; no semicolon ends the
declaration before it. The braces of the body are nested, so that the two braces belong
together. -/
structure IsOf (x : MethodLayout) (ls : List LexedLine) : Prop where
  chars_eq : plainFrom 0 ls = x.chars
  closed : balance '(' ')' x.head = 0
  first : ∀ n < x.head.length, x.head[n]?.map Prod.snd ∈ [some '{', some ';'] →
    0 < balance '(' ')' (x.head.take n)
  nested : ∀ n < x.body.length, 0 ≤ balance '{' '}' (x.body.take n)
  balanced : balance '{' '}' x.body = 0

instance (x : MethodLayout) (ls : List LexedLine) : Decidable (x.IsOf ls) :=
  decidable_of_iff (plainFrom 0 ls = x.chars ∧ balance '(' ')' x.head = 0 ∧
    (∀ n < x.head.length, x.head[n]?.map Prod.snd ∈ [some '{', some ';'] →
      0 < balance '(' ')' (x.head.take n)) ∧
    (∀ n < x.body.length, 0 ≤ balance '{' '}' (x.body.take n)) ∧ balance '{' '}' x.body = 0)
    ⟨fun ⟨h₁, h₂, h₃, h₄, h₅⟩ => ⟨h₁, h₂, h₃, h₄, h₅⟩,
      fun ⟨h₁, h₂, h₃, h₄, h₅⟩ => ⟨h₁, h₂, h₃, h₄, h₅⟩⟩

/-- Once a brace in front of the body was opened, one is open at the end of each line above the one
where the body opens. -/
def HeadStaysOpen (x : MethodLayout) : Prop :=
  ∀ n ≤ x.openLine, '{' ∈ (charsAbove n x.head).map Prod.snd →
    0 < balance '{' '}' (charsAbove n x.head)

/-- Together with the braces in front of it, the body is open at the end of each line above the one
where it closes. -/
def BodyStaysOpen (x : MethodLayout) : Prop :=
  ∀ n ≤ x.closeLine, x.openLine < n →
    0 < balance '{' '}' x.head + 1 + balance '{' '}' (charsAbove n x.body)

/-- On the line where the body closes no more braces are opened after it than are closed, those in
front of the body included. -/
def ClosesLine (x : MethodLayout) : Prop :=
  balance '{' '}' x.head + balance '{' '}' (x.rest.filter fun c => c.1 = x.closeLine) ≤ 0

instance (x : MethodLayout) : Decidable x.HeadStaysOpen :=
  inferInstanceAs (Decidable (∀ n ≤ x.openLine, _ → _))

instance (x : MethodLayout) : Decidable x.BodyStaysOpen :=
  inferInstanceAs (Decidable (∀ n ≤ x.closeLine, _ → _))

instance (x : MethodLayout) : Decidable x.ClosesLine :=
  inferInstanceAs (Decidable (_ ≤ _))

/-- Once a brace was opened, one is open at the end of each line above the one where the body
closes. -/
structure StaysOpen (x : MethodLayout) : Prop where
  head : x.HeadStaysOpen
  body : x.BodyStaysOpen

instance (x : MethodLayout) : Decidable x.StaysOpen :=
  decidable_of_iff (x.HeadStaysOpen ∧ x.BodyStaysOpen)
    ⟨fun h => ⟨h.1, h.2⟩, fun h => ⟨h.head, h.body⟩⟩

/-- Counted a line at a time, the method ends where its body does. Its lines confirm the body, its
braces stay open up to the line where the body closes, and this line closes them. -/
structure IsMeasured (x : MethodLayout) (ls : List LexedLine) : Prop where
  confirmed : ConfirmsBody ls
  staysOpen : x.StaysOpen
  closesLine : x.ClosesLine

section Depth

variable {x : MethodLayout} {ls : List LexedLine} {n : ℕ}

/-- The characters stand in the order of their lines. -/
lemma IsOf.lines (h : x.IsOf ls) :
    (∀ c ∈ x.head, c.1 ≤ x.openLine) ∧ x.openLine ≤ x.closeLine ∧
      (∀ c ∈ x.body, x.openLine ≤ c.1 ∧ c.1 ≤ x.closeLine) ∧ (∀ c ∈ x.rest, x.closeLine ≤ c.1) ∧
      x.body.Pairwise fun c d => c.1 ≤ d.1 := by
  have hsorted := pairwise_plainFrom 0 ls
  rw [h.chars_eq, chars] at hsorted
  obtain ⟨-, hopen, hhead⟩ := List.pairwise_append.1 hsorted
  obtain ⟨hopen, hafter⟩ := List.pairwise_cons.1 hopen
  obtain ⟨hbody, hclose, hbefore⟩ := List.pairwise_append.1 hafter
  obtain ⟨hclose, -⟩ := List.pairwise_cons.1 hclose
  refine ⟨fun c hc => hhead c hc _ List.mem_cons_self, hopen (x.closeLine, '}') (by simp),
    fun c hc => ⟨hopen c (List.mem_append_left _ hc), hbefore c hc _ List.mem_cons_self⟩,
    fun c hc => hclose c hc, hbody⟩

/-- Up to the line where the body opens, the braces are those in front of it. -/
lemma IsOf.bracesClosed_head_iff (h : x.IsOf ls) (hls : Scanned ls) (hn : n ≤ x.openLine) :
    BracesClosed (ls.take n) ↔
      '{' ∈ (charsAbove n x.head).map Prod.snd ∧ balance '{' '}' (charsAbove n x.head) ≤ 0 := by
  obtain ⟨-, hle, hbody, hrest, -⟩ := h.lines
  have htail :
      charsAbove n ((x.openLine, '{') :: (x.body ++ (x.closeLine, '}') :: x.rest)) = [] := by
    refine charsAbove_eq_nil fun c hc => hn.trans ?_
    rcases List.mem_cons.1 hc with rfl | hc
    · exact le_rfl
    rcases List.mem_append.1 hc with hc | hc
    · exact (hbody c hc).1
    rcases List.mem_cons.1 hc with rfl | hc
    · exact hle
    · exact hle.trans (hrest c hc)
  rw [bracesClosed_take_iff hls, h.chars_eq, chars, charsAbove_append, htail, List.append_nil]

/-- Between its two braces the body counts. -/
lemma IsOf.bracesClosed_body_iff (h : x.IsOf ls) (hls : Scanned ls) (hn : x.openLine < n)
    (hn' : n ≤ x.closeLine) :
    BracesClosed (ls.take n) ↔
      balance '{' '}' x.head + 1 + balance '{' '}' (charsAbove n x.body) ≤ 0 := by
  obtain ⟨hhead, -, -, hrest, -⟩ := h.lines
  have hheadAll : charsAbove n x.head = x.head :=
    charsAbove_eq_self fun c hc => (hhead c hc).trans_lt hn
  have htail : charsAbove n ((x.closeLine, '}') :: x.rest) = [] := by
    refine charsAbove_eq_nil fun c hc => hn'.trans ?_
    rcases List.mem_cons.1 hc with rfl | hc
    · exact le_rfl
    · exact hrest c hc
  have habove : charsAbove n (plainFrom 0 ls) =
      x.head ++ (x.openLine, '{') :: charsAbove n x.body := by
    rw [h.chars_eq, chars, charsAbove_append, hheadAll, charsAbove_cons_of_lt hn,
      charsAbove_append, htail, List.append_nil]
  rw [bracesClosed_take_iff hls, habove, and_iff_right (by simp), balance_append,
    balance_cons_opening (by decide)]
  omega

/-- At the end of the line that closes the body, those braces count that are in front of the body or
follow it on the line. -/
lemma IsOf.bracesClosed_close_iff (h : x.IsOf ls) (hls : Scanned ls) :
    BracesClosed (ls.take (x.closeLine + 1)) ↔ x.ClosesLine := by
  obtain ⟨hhead, hle, hbody, hrest, -⟩ := h.lines
  have hheadAll : charsAbove (x.closeLine + 1) x.head = x.head :=
    charsAbove_eq_self fun c hc => Nat.lt_succ_of_le ((hhead c hc).trans hle)
  have hbodyAll : charsAbove (x.closeLine + 1) x.body = x.body :=
    charsAbove_eq_self fun c hc => Nat.lt_succ_of_le (hbody c hc).2
  have hrestLine :
      charsAbove (x.closeLine + 1) x.rest = x.rest.filter fun c => c.1 = x.closeLine := by
    refine List.filter_congr fun c hc => ?_
    have := hrest c hc
    simp only [decide_eq_decide]
    omega
  have hopenLine : x.openLine < x.closeLine + 1 := Nat.lt_succ_of_le hle
  have hcloseLine : x.closeLine < x.closeLine + 1 := Nat.lt_succ_self _
  have habove : charsAbove (x.closeLine + 1) (plainFrom 0 ls) = x.head ++ (x.openLine, '{') ::
      (x.body ++ (x.closeLine, '}') :: x.rest.filter fun c => c.1 = x.closeLine) := by
    rw [h.chars_eq, chars, charsAbove_append, hheadAll, charsAbove_cons_of_lt hopenLine,
      charsAbove_append, hbodyAll, charsAbove_cons_of_lt hcloseLine, hrestLine]
  rw [bracesClosed_take_iff hls, habove, and_iff_right (by simp), balance_append,
    balance_cons_opening (by decide), balance_append, h.balanced,
    balance_cons_closing (by decide), ClosesLine]
  omega

/-- The braces are not closed above the line where the body closes. -/
lemma IsOf.staysOpen_iff (h : x.IsOf ls) (hls : Scanned ls) :
    x.StaysOpen ↔ ∀ n ≤ x.closeLine, ¬ BracesClosed (ls.take n) := by
  constructor
  · rintro ⟨hhead, hbody⟩ n hn hclosed
    rcases le_or_gt n x.openLine with hle | hlt
    · obtain ⟨hopened, hdepth⟩ := (h.bracesClosed_head_iff hls hle).1 hclosed
      exact not_lt.2 hdepth (hhead n hle hopened)
    · exact not_lt.2 ((h.bracesClosed_body_iff hls hlt hn).1 hclosed) (hbody n hn hlt)
  · intro hopen
    have hle := h.lines.2.1
    refine ⟨fun n hn hopened => ?_, fun n hn hlt => ?_⟩
    · by_contra hdepth
      exact hopen n (hn.trans hle)
        ((h.bracesClosed_head_iff hls hn).2 ⟨hopened, not_lt.1 hdepth⟩)
    · by_contra hdepth
      exact hopen n hn ((h.bracesClosed_body_iff hls hlt hn).2 (not_lt.1 hdepth))

/-- **The braces are closed for the first time** at the end of the line where the body closes, if
they stay open above it and the line closes them. -/
theorem IsOf.isLeast_iff (h : x.IsOf ls) (hls : Scanned ls) :
    IsLeast {n | BracesClosed (ls.take n)} (x.closeLine + 1) ↔ x.StaysOpen ∧ x.ClosesLine := by
  rw [h.staysOpen_iff hls, ← h.bracesClosed_close_iff hls, and_comm]
  refine and_congr_right fun _ => ⟨?_, ?_⟩
  · intro hleast n hn hclosed
    exact absurd (hleast hclosed) (by omega)
  · intro hopen n hclosed
    by_contra hlt
    exact hopen n (by omega) hclosed

/-- If the braces in front of the body are balanced, its own braces keep it open, and on the line
where it closes those behind it count. -/
theorem IsOf.isMeasured_iff (h : x.IsOf ls) (hbalanced : balance '{' '}' x.head = 0) :
    x.IsMeasured ls ↔ ConfirmsBody ls ∧ x.HeadStaysOpen ∧
      balance '{' '}' (x.rest.filter fun c => c.1 = x.closeLine) ≤ 0 := by
  have hbody : x.BodyStaysOpen := by
    intro n hn hlt
    obtain ⟨k, hk, heq⟩ := exists_charsAbove_eq_take h.lines.2.2.2.2 n
    have hnested : 0 ≤ balance '{' '}' (charsAbove n x.body) := by
      rw [heq]
      rcases Nat.lt_or_eq_of_le hk with hlt | rfl
      · exact h.nested k hlt
      · rw [List.take_length, h.balanced]
    omega
  have hcloses : x.ClosesLine ↔
      balance '{' '}' (x.rest.filter fun c => c.1 = x.closeLine) ≤ 0 := by
    rw [ClosesLine, hbalanced, zero_add]
  rw [← hcloses]
  exact ⟨fun ⟨hconfirmed, hopen, hcloses⟩ => ⟨hconfirmed, hopen.head, hcloses⟩,
    fun ⟨hconfirmed, hhead, hcloses⟩ => ⟨hconfirmed, ⟨hhead, hbody⟩, hcloses⟩⟩

end Depth

end MethodLayout

/-! ### The span of a declared method -/

/-- A method opens on the line with its number. -/
lemma startLine_of_opening? {text : List Char} {i : ℕ} {m : OpenMethod}
    (h : opening? ((lex text).drop i) = some m) : m.startLine = i + 1 := by
  cases hls : (lex text).drop i with
  | nil =>
      rw [hls] at h
      cases h
  | cons l ls =>
      rw [hls] at h
      obtain ⟨d, -, rfl⟩ := Option.map_eq_some_iff.1 h
      have hhead := congrArg List.head? hls
      rw [List.head?_drop] at hhead
      exact number_of_getElem?_lex hhead

/-- The lines of a method that is found. -/
lemma StartsAt.lineCount {current : Option OpenMethod} {ls : List LexedLine} {i n : ℕ}
    {m : OpenMethod} (h : StartsAt current ls i m n) (hm : m.lineCount = 0) :
    (m.run ((ls.drop i).take n)).toSpan.lineCount = n := by
  have hcount := m.lineCount_run ((ls.drop i).take n)
  rw [hm, List.length_take_of_le h.within, Nat.zero_add] at hcount
  exact hcount

/-- The spans that start on a line are those of the method that is opened there. -/
lemma mem_methodSpans_startLine_iff {text : List Char} {s : MethodSpan} {i : ℕ} :
    s ∈ methodSpans (lex text) ∧ s.startLine = i + 1 ↔
      ∃ m n, StartsAt none (lex text) i m n ∧
        s = (m.run (((lex text).drop i).take n)).toSpan := by
  have hline {i : ℕ} {m : OpenMethod} {n : ℕ} (h : StartsAt none (lex text) i m n) :
      (m.run (((lex text).drop i).take n)).startLine = i + 1 := by
    rw [OpenMethod.startLine_run, startLine_of_opening? h.opening]
  rw [mem_methodSpans_iff]
  constructor
  · rintro ⟨⟨i', m, n, hstarts, rfl⟩, hs⟩
    obtain rfl : i' = i := Nat.succ.inj ((hline hstarts).symm.trans hs)
    exact ⟨m, n, hstarts, rfl⟩
  · rintro ⟨m, n, hstarts, rfl⟩
    exact ⟨⟨i, m, n, hstarts, rfl⟩, hline hstarts⟩

/-- A method is reported on the line where it starts if it has more lines than the limit. -/
lemma exists_mem_longMethods_iff {text : List Char} {s : MethodSpan}
    (hs : s ∈ methodSpans (lex text)) (path : Path) (limit : ℕ) :
    (∃ v ∈ longMethods path limit (lex text), v.line = s.startLine) ↔ limit < s.lineCount := by
  have hnodup : ((methodSpans (lex text)).map MethodSpan.startLine).Nodup :=
    List.pairwise_map.2 ((pairwise_methodSpans (pairwise_lex text)).imp fun h => h.ne)
  constructor
  · rintro ⟨v, hv, hline⟩
    obtain ⟨s', hs', rfl⟩ := List.mem_map.1 hv
    obtain ⟨hs', hlimit⟩ := List.mem_filter.1 hs'
    obtain rfl : s' = s := List.inj_on_of_nodup_map hnodup hs' hs hline
    exact of_decide_eq_true hlimit
  · intro hlimit
    refine ⟨longMethod path limit s, List.mem_map.2 ⟨s, List.mem_filter.2 ⟨hs, ?_⟩, rfl⟩, rfl⟩
    exact decide_eq_true hlimit

section Declared

variable {text : List Char} {i : ℕ} {l : LexedLine} {d : Declaration} {s : MethodSpan}

/-- A declaration opens a method if it has a body. -/
lemma opening?_of_declares (hl : (lex text)[i]? = some l) (hd : l.Declares d) :
    opening? ((lex text).drop i) =
      if hasBody ((lex text).drop i) then some (.start d.name (i + 1)) else none := by
  obtain ⟨hi, rfl⟩ := List.getElem?_eq_some_iff.1 hl
  rw [List.drop_eq_getElem_cons hi, opening?]
  cases hbody : hasBody ((lex text)[i] :: (lex text).drop (i + 1)) with
  | true =>
      rw [methodStart?_eq_some hd hbody, Option.map_some, number_of_getElem?_lex hl, if_pos rfl]
  | false => rw [methodStart?_eq_none hbody, Option.map_none, if_neg Bool.false_ne_true]

/-- A span from the line of a declaration on ends with the first line on which the braces are
closed, and the lines confirm a body. -/
lemma isLeast_of_mem_methodSpans (hl : (lex text)[i]? = some l) (hd : l.Declares d)
    (hs : s ∈ methodSpans (lex text)) (hline : s.startLine = i + 1) :
    ConfirmsBody ((lex text).drop i) ∧
      IsLeast {n | BracesClosed (((lex text).drop i).take n)} s.lineCount := by
  obtain ⟨m, n, hstarts, rfl⟩ := mem_methodSpans_startLine_iff.1 ⟨hs, hline⟩
  have hopening := opening?_of_declares hl hd
  rw [hstarts.opening] at hopening
  obtain ⟨hbody, hm⟩ := Option.some_eq_ite_none_right.1 hopening
  obtain rfl := Option.some.inj hm
  rw [hstarts.lineCount rfl]
  exact ⟨(hasBody_iff ((scanned_lex text).drop i)).1 hbody,
    OpenMethod.endsAfter_start_iff.1 hstarts.ends⟩

/-- There is this span if the lines confirm a body and the braces are closed on one of them. -/
lemma exists_mem_methodSpans_of_isLeast (hl : (lex text)[i]? = some l) (hd : l.Declares d)
    (hreached : openAfter i none (lex text) = none) (hconfirmed : ConfirmsBody ((lex text).drop i))
    {n : ℕ} (hleast : IsLeast {n | BracesClosed (((lex text).drop i).take n)} n) :
    ∃ s ∈ methodSpans (lex text), s.name = d.name ∧ s.startLine = i + 1 ∧ s.lineCount = n := by
  have hopening := opening?_of_declares hl hd
  rw [if_pos ((hasBody_iff ((scanned_lex text).drop i)).2 hconfirmed)] at hopening
  have hstarts : StartsAt none (lex text) i (.start d.name (i + 1)) n :=
    ⟨hreached, hopening, le_length_of_isLeast hleast, OpenMethod.endsAfter_start_iff.2 hleast⟩
  obtain ⟨hmem, hline⟩ := mem_methodSpans_startLine_iff.2 ⟨_, _, hstarts, rfl⟩
  exact ⟨_, hmem, OpenMethod.name_run _ _, hline, hstarts.lineCount rfl⟩

/-- **The span of a declared method.** Let a declaration be reached with no method open. There is a
span from its line on exactly if the lines confirm a body and their braces are closed at the end of
one of them. For a body that is cut out at its two braces, the span has the declared name and ends
on the line with the closing brace exactly if the layout is measured, and then the limit on methods
applies to all of its lines; it does not end above this line if the braces stay open. A declaration
that ends in a semicolon has no span. -/
theorem methodSpans_of_declared (hl : (lex text)[i]? = some l) (hd : l.Declares d)
    (hreached : openAfter i none (lex text) = none) :
    ((∃ s ∈ methodSpans (lex text), s.startLine = i + 1) ↔
      ConfirmsBody ((lex text).drop i) ∧ ∃ n, BracesClosed (((lex text).drop i).take n)) ∧
    (∀ x : MethodLayout, x.IsOf ((lex text).drop i) →
      ((∃ s ∈ methodSpans (lex text), s.name = d.name ∧ s.startLine = i + 1 ∧
        s.endLine = i + 1 + x.closeLine) ↔ x.IsMeasured ((lex text).drop i)) ∧
      (x.StaysOpen →
        ∀ s ∈ methodSpans (lex text), s.startLine = i + 1 → i + 1 + x.closeLine ≤ s.endLine) ∧
      (x.IsMeasured ((lex text).drop i) → ∀ path limit,
        (∃ v ∈ longMethods path limit (lex text), v.line = i + 1) ↔ limit < x.closeLine + 1)) ∧
    ∀ n, EndsInSemicolon ((lex text).drop i) n →
      ∀ s ∈ methodSpans (lex text), s.startLine ≠ i + 1 := by
  classical
  have hscanned := (scanned_lex text).drop i
  have hleast {s : MethodSpan} := isLeast_of_mem_methodSpans (s := s) hl hd
  have hfound {n : ℕ} := exists_mem_methodSpans_of_isLeast (n := n) hl hd hreached
  refine ⟨⟨?_, ?_⟩, fun x hx => ?_, fun n hends s hs hline => ?_⟩
  · rintro ⟨s, hs, hline⟩
    obtain ⟨hconfirmed, hclosed, -⟩ := hleast hs hline
    exact ⟨hconfirmed, _, hclosed⟩
  · rintro ⟨hconfirmed, hclosed⟩
    obtain ⟨s, hs, -, hline, -⟩ := hfound hconfirmed (Nat.isLeast_find hclosed)
    exact ⟨s, hs, hline⟩
  · have hmeasured (h : x.IsMeasured ((lex text).drop i)) := hfound h.confirmed
      ((hx.isLeast_iff hscanned).2 ⟨h.staysOpen, h.closesLine⟩)
    refine ⟨⟨?_, fun h => ?_⟩, fun hopen s hs hline => ?_, fun h path limit => ?_⟩
    · rintro ⟨s, hs, -, hline, hend⟩
      obtain ⟨hconfirmed, hclosed⟩ := hleast hs hline
      have hcount : s.lineCount = x.closeLine + 1 := by
        rw [MethodSpan.endLine, hline] at hend
        omega
      rw [hcount, hx.isLeast_iff hscanned] at hclosed
      exact ⟨hconfirmed, hclosed.1, hclosed.2⟩
    · obtain ⟨s, hs, hname, hline, hcount⟩ := hmeasured h
      refine ⟨s, hs, hname, hline, ?_⟩
      rw [MethodSpan.endLine, hline, hcount]
      omega
    · have hbelow : x.closeLine < s.lineCount := by
        by_contra hle
        exact (hx.staysOpen_iff hscanned).1 hopen _ (not_lt.1 hle) (hleast hs hline).2.1
      rw [MethodSpan.endLine, hline]
      omega
    · obtain ⟨s, hs, -, hline, hcount⟩ := hmeasured h
      rw [← hline, exists_mem_longMethods_iff hs path limit, hcount]
  · have hbody := (hasBody_iff hscanned).2 (hleast hs hline).1
    rw [hends.hasBody hscanned] at hbody
    cases hbody

end Declared

/-- The text of lines. -/
def fileText (lines : List String) : List Char := lines.flatMap fun l => l.toList ++ ['\n']

/-- A class with a method that has no body, and two methods that have braces in the arguments of an
annotation and in the body. -/
def calculatorText : List Char :=
  fileText ["class A \x7b", "  abstract int neg(int a);", "  @T(\x7b\"\x7b\"\x7d) int one() \x7b",
    "    \x7b \x7d", "    return 1;", "  \x7d", "  int dbl(@N(\x7b", "      \"a\"\x7d) int a) \x7b",
    "    return a + a;", "  \x7d", "\x7d"]

/-- The declaration without a body has no span, and the methods have the spans of their bodies. -/
theorem methodSpans_of_declared_calculatorText :
    let ls := lex calculatorText
    let one := MethodLayout.cut (plainFrom 0 (ls.drop 2)) 19 42
    let dbl := MethodLayout.cut (plainFrom 0 (ls.drop 6)) 30 50
    (EndsInSemicolon (ls.drop 1) 0 ∧ ∀ s ∈ methodSpans ls, s.startLine ≠ 2) ∧
    (one.IsOf (ls.drop 2) ∧ one.IsMeasured (ls.drop 2) ∧
      (∃ s ∈ methodSpans ls, s.name = "one".toList ∧ s.startLine = 3 ∧ s.endLine = 6) ∧
      ∀ path limit, (∃ v ∈ longMethods path limit ls, v.line = 3) ↔ limit < 4) ∧
    dbl.IsOf (ls.drop 6) ∧ dbl.IsMeasured (ls.drop 6) ∧
      ∃ s ∈ methodSpans ls, s.name = "dbl".toList ∧ s.startLine = 7 ∧ s.endLine = 10 := by
  intro ls one dbl
  have hline {i : ℕ} (hi : i < ls.length) : ls[i]? = some (ls.get ⟨i, hi⟩) :=
    List.getElem?_eq_getElem hi
  have hbody (i : ℕ) := hasBody_iff ((scanned_lex calculatorText).drop i)
  -- The declaration that ends in a semicolon.
  have hneg := methodSpans_of_declared (hline (i := 1) (by decide +kernel))
    (d := ⟨"neg".toList, .package, .method⟩) (by decide +kernel) (by decide +kernel)
  have hends : EndsInSemicolon (ls.drop 1) 0 := by
    have hfirst : (ls.drop 1)[0]? = some (ls.get ⟨1, by decide +kernel⟩) := by
      rw [List.getElem?_drop, hline]
    refine ⟨⟨⟨_, hfirst, ?_, ?_⟩, fun k _ => Nat.zero_le k⟩, fun ⟨l, hl, hbrace⟩ => ?_⟩
    · decide +kernel
    · decide +kernel
    · obtain rfl := Option.some.inj (hfirst.symm.trans hl)
      revert hbrace
      decide +kernel
  -- The methods, whose layouts are measured.
  have hone := methodSpans_of_declared (hline (i := 2) (by decide +kernel))
    (d := ⟨"one".toList, .package, .method⟩) (by decide +kernel) (by decide +kernel)
  have hdbl := methodSpans_of_declared (hline (i := 6) (by decide +kernel))
    (d := ⟨"dbl".toList, .package, .method⟩) (by decide +kernel) (by decide +kernel)
  obtain ⟨hone', honeLine, honeHead, honeBody, honeOpen, honeRest⟩ :
      one.IsOf (ls.drop 2) ∧ one.closeLine = 3 ∧ balance '{' '}' one.head = 0 ∧
        hasBody (ls.drop 2) = true ∧ one.HeadStaysOpen ∧
        balance '{' '}' (one.rest.filter fun c => c.1 = one.closeLine) ≤ 0 := by decide +kernel
  obtain ⟨hdbl', hdblLine, hdblHead, hdblBody, hdblOpen, hdblRest⟩ :
      dbl.IsOf (ls.drop 6) ∧ dbl.closeLine = 3 ∧ balance '{' '}' dbl.head = 0 ∧
        hasBody (ls.drop 6) = true ∧ dbl.HeadStaysOpen ∧
        balance '{' '}' (dbl.rest.filter fun c => c.1 = dbl.closeLine) ≤ 0 := by decide +kernel
  have honeMeasured := (hone'.isMeasured_iff honeHead).2 ⟨(hbody 2).1 honeBody, honeOpen, honeRest⟩
  have hdblMeasured := (hdbl'.isMeasured_iff hdblHead).2 ⟨(hbody 6).1 hdblBody, hdblOpen, hdblRest⟩
  have honeSpan := hone.2.1 one hone'
  have hdblSpan := hdbl.2.1 dbl hdbl'
  rw [honeLine] at honeSpan
  rw [hdblLine] at hdblSpan
  exact ⟨⟨hends, hneg.2.2 0 hends⟩,
    ⟨hone', honeMeasured, honeSpan.1.2 honeMeasured, honeSpan.2.2 honeMeasured⟩,
    hdbl', hdblMeasured, hdblSpan.1.2 hdblMeasured⟩

/-- A method whose annotation has braces, and whose body opens on the next line. -/
def annotatedText : List Char :=
  fileText ["class A \x7b", "  @T(\x7b\"a\"\x7d) void run()", "  \x7b", "    a();", "  \x7d",
    "\x7d"]

/-- The layout of this method, whose body closes on the fourth line. -/
def annotatedLayout : MethodLayout := .cut (plainFrom 0 ((lex annotatedText).drop 1)) 21 32

lemma annotatedLayout_isOf :
    annotatedLayout.IsOf ((lex annotatedText).drop 1) ∧ annotatedLayout.closeLine = 3 ∧
      methodSpans (lex annotatedText) = [⟨"run".toList, 2, 1, 0⟩] := by decide +kernel

/-- The braces of the annotation close the method on the line where it is declared. -/
theorem not_forall_endLine_eq_closeLine :
    ¬ ∀ (text : List Char) (i : ℕ) (l : LexedLine) (d : Declaration) (x : MethodLayout),
      (lex text)[i]? = some l → l.Declares d → openAfter i none (lex text) = none →
        x.IsOf ((lex text).drop i) →
          ∃ s ∈ methodSpans (lex text), s.startLine = i + 1 ∧ s.endLine = i + 1 + x.closeLine := by
  intro h
  obtain ⟨hlayout, hline, hspans⟩ := annotatedLayout_isOf
  have hrun : ((lex annotatedText).get ⟨1, by decide +kernel⟩).Declares
      ⟨"run".toList, .package, .method⟩ := by decide +kernel
  obtain ⟨s, hs, -, hend⟩ := h annotatedText 1 _ _ _ (List.getElem?_eq_some_iff.2 ⟨_, rfl⟩) hrun
    (by decide +kernel) hlayout
  rw [hspans, List.mem_singleton] at hs
  rw [hs, hline] at hend
  cases hend

/-- A method with a call on the line where its body opens, which goes on on the next one. -/
def openCallText : List Char :=
  fileText ["class A \x7b", "  void run() \x7b a(", "    b);", "  \x7d", "\x7d"]

/-- Two methods, the second of which is declared on the line that closes the first. -/
def stackedText : List Char :=
  fileText ["class A \x7b", "  void run() \x7b", "  \x7d void end() \x7b", "  \x7d", "\x7d"]

/-- **Each condition on a layout can fail alone**, and the method ends above the line where its body
does, is not found, or ends below this line. -/
theorem exists_not_isMeasured :
    (∃ x : MethodLayout, x.IsOf ((lex annotatedText).drop 1) ∧ x.closeLine = 3 ∧
      methodSpans (lex annotatedText) = [⟨"run".toList, 2, 1, 0⟩] ∧
      ConfirmsBody ((lex annotatedText).drop 1) ∧ ¬ x.StaysOpen ∧ x.ClosesLine) ∧
    (∃ x : MethodLayout, x.IsOf ((lex openCallText).drop 1) ∧ x.closeLine = 2 ∧
      methodSpans (lex openCallText) = [] ∧
      ¬ ConfirmsBody ((lex openCallText).drop 1) ∧ x.StaysOpen ∧ x.ClosesLine) ∧
    ∃ x : MethodLayout, x.IsOf ((lex stackedText).drop 1) ∧ x.closeLine = 1 ∧
      methodSpans (lex stackedText) = [⟨"run".toList, 2, 3, 2⟩] ∧
      ConfirmsBody ((lex stackedText).drop 1) ∧ x.StaysOpen ∧ ¬ x.ClosesLine := by
  have hbody (text : List Char) := hasBody_iff ((scanned_lex text).drop 1)
  obtain ⟨hlayout, hline, hspans⟩ := annotatedLayout_isOf
  simp only [← hbody]
  refine ⟨⟨annotatedLayout, hlayout, hline, hspans, ?_⟩,
    ⟨.cut (plainFrom 0 ((lex openCallText).drop 1)) 13 26, ?_⟩,
    ⟨.cut (plainFrom 0 ((lex stackedText).drop 1)) 13 16, ?_⟩⟩ <;>
    decide +kernel

/-- A declaration that ends in a semicolon has a span if there are braces on its line. -/
example : methodSpans (lex (fileText ["class A \x7b",
    "  @T(\x7b\"a\"\x7d) abstract int neg(int a);", "\x7d"])) = [⟨"neg".toList, 2, 1, 0⟩] := by
  decide +kernel

end QualityGate
