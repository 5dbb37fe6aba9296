import QualityGate.Proofs.Text.Blank
import QualityGate.Proofs.Text.Numeral
import QualityGate.Text.Column
import QualityGate.Text.Styled
import Mathlib.Tactic

/-!
Texts in colour and without. The control sequences around painted runs can be told from the texts of
the runs by their escape character, so deleting them leaves the texts, as long as these have no
escape character of their own.

* `withoutControls`: a text without the control sequences in it.
* `IsEscapeFree`: a text has no escape character; so have texts that are put together from others.
* `Styled.withoutControls_render`: **without its control sequences** a text in colour is the text
  without colour.
-/

namespace QualityGate.Text

/-! ### Deleting control sequences -/

/-- What follows the control sequence at the front of a text: an escape character, a bracket, one
digit or more and the letter m. -/
def afterControl? : List Char → Option (List Char)
  | '\x1b' :: '[' :: rest =>
    match rest.takeWhile Char.isDigit, rest.dropWhile Char.isDigit with
    | _ :: _, 'm' :: more => some more
    | _, _ => none
  | _ => none

lemma length_lt_of_afterControl? {s more : List Char} (h : afterControl? s = some more) :
    more.length < s.length := by
  unfold afterControl? at h
  split at h
  · next rest =>
    split at h
    · next digits hdrop =>
      cases h
      have hle := (List.dropWhile_suffix (l := rest) Char.isDigit).length_le
      rw [hdrop, List.length_cons] at hle
      rw [List.length_cons, List.length_cons]
      omega
    · cases h
  · cases h

/-- The text without its control sequences, which are deleted from its front to its end. -/
def withoutControls : List Char → List Char
  | [] => []
  | c :: rest =>
    match _h : afterControl? (c :: rest) with
    | some more => withoutControls more
    | none => c :: withoutControls rest
termination_by s => s.length
decreasing_by
  · exact length_lt_of_afterControl? _h
  · exact Nat.lt_succ_self _

/-- A control sequence is deleted. -/
lemma withoutControls_of_some {s more : List Char} (h : afterControl? s = some more) :
    withoutControls s = withoutControls more := by
  cases s with
  | nil => cases h
  | cons c rest =>
      rw [withoutControls]
      split
      · next more' hmore => rw [Option.some.inj (h.symm.trans hmore)]
      · next hnone => cases h.symm.trans hnone

/-- What begins no control sequence is kept. -/
lemma withoutControls_cons {c : Char} (hc : c ≠ '\x1b') (rest : List Char) :
    withoutControls (c :: rest) = c :: withoutControls rest := by
  have hnone : afterControl? (c :: rest) = none := by
    unfold afterControl?
    split
    · next hcons => exact absurd (List.cons.inj hcons).1 hc
    · rfl
  rw [withoutControls]
  split
  · next more hmore => cases hnone.symm.trans hmore
  · rfl

/-- A text without escape characters is kept. -/
lemma withoutControls_append {s : List Char} (hs : '\x1b' ∉ s) (rest : List Char) :
    withoutControls (s ++ rest) = s ++ withoutControls rest := by
  induction s with
  | nil => rfl
  | cons c s ih =>
      rw [List.mem_cons, not_or] at hs
      rw [List.cons_append, withoutControls_cons (Ne.symm hs.1), ih hs.2, List.cons_append]

/-- The sequences around painted texts are control sequences. -/
lemma withoutControls_controlSequence (code : ℕ) (rest : List Char) :
    withoutControls (controlSequence code ++ rest) = withoutControls rest := by
  obtain ⟨d, ds, hcode⟩ := List.exists_cons_of_ne_nil (toList_toString_ne_nil code)
  obtain ⟨htake, hdrop⟩ := takeWhile_append_of_head (v := 'm' :: rest)
    (fun c hc => isDigit_of_mem_toString hc) (by simp)
  have htext : controlSequence code ++ rest =
      '\x1b' :: '[' :: ((toString code).toList ++ 'm' :: rest) := by
    simp [controlSequence]
  have hafter : afterControl? (controlSequence code ++ rest) = some rest := by
    rw [htext, afterControl?, htake, hdrop, hcode]
    rfl
  exact withoutControls_of_some hafter

/-! ### Texts without escape characters -/

/-- The text has no escape character. -/
def IsEscapeFree (s : String) : Prop := '\x1b' ∉ s.toList

instance (s : String) : Decidable (IsEscapeFree s) := inferInstanceAs (Decidable (_ ∉ _))

@[simp]
lemma isEscapeFree_append {s t : String} :
    IsEscapeFree (s ++ t) ↔ IsEscapeFree s ∧ IsEscapeFree t := by
  simp [IsEscapeFree, not_or]

@[simp]
lemma isEscapeFree_toString (s : String) : IsEscapeFree (toString s) ↔ IsEscapeFree s := Iff.rfl

/-- The digits of a number are no escape characters. -/
@[simp]
lemma isEscapeFree_repr (n : ℕ) : IsEscapeFree n.repr := by
  intro h
  exact absurd (isDigit_of_mem_toString h) (by decide)

/-- Neither are the blanks of a column. -/
@[simp]
lemma isEscapeFree_padRight {width : ℕ} {s : String} :
    IsEscapeFree (padRight width s) ↔ IsEscapeFree s := by
  simp [IsEscapeFree, padRight, List.mem_replicate]

@[simp]
lemma isEscapeFree_padLeft {width : ℕ} {s : String} :
    IsEscapeFree (padLeft width s) ↔ IsEscapeFree s := by
  simp [IsEscapeFree, padLeft, List.mem_replicate]

/-! ### Styled texts -/

namespace Styled

/-- No run has an escape character in its text. -/
def IsEscapeFree (s : Styled) : Prop := ∀ r ∈ s, Text.IsEscapeFree r.text

@[simp]
lemma isEscapeFree_nil : IsEscapeFree [] := List.forall_mem_nil _

@[simp]
lemma isEscapeFree_cons {r : Run} {s : Styled} :
    IsEscapeFree (r :: s) ↔ Text.IsEscapeFree r.text ∧ IsEscapeFree s := List.forall_mem_cons

@[simp]
lemma isEscapeFree_append {s t : Styled} :
    IsEscapeFree (s ++ t) ↔ IsEscapeFree s ∧ IsEscapeFree t := List.forall_mem_append

@[simp]
lemma isEscapeFree_flatMap {α : Type} {xs : List α} {f : α → Styled} :
    IsEscapeFree (xs.flatMap f) ↔ ∀ x ∈ xs, IsEscapeFree (f x) := by
  simp only [IsEscapeFree, List.mem_flatMap]
  exact ⟨fun h x hx r hr => h r ⟨x, hx, hr⟩, fun h r ⟨x, hx, hr⟩ => h x hx r hr⟩

@[simp]
lemma isEscapeFree_ite {p : Prop} [Decidable p] {s t : Styled} :
    IsEscapeFree (if p then s else t) ↔ (p → IsEscapeFree s) ∧ (¬p → IsEscapeFree t) := by
  split_ifs with h <;> simp [h]

@[simp]
lemma text_plain (text : String) : (Run.plain text).text = text := rfl

@[simp]
lemma text_painted (style : Style) (text : String) : (Run.painted style text).text = text := rfl

/-- A run in colour is its text between control sequences. -/
lemma withoutControls_run {r : Run} (hr : Text.IsEscapeFree r.text) (rest : List Char) :
    withoutControls (r.render true ++ rest) = r.text.toList ++ withoutControls rest := by
  cases r with
  | plain text => exact withoutControls_append hr rest
  | painted style text =>
      have hcodes (codes : List ℕ) (rest : List Char) :
          withoutControls (codes.flatMap controlSequence ++ rest) = withoutControls rest := by
        induction codes with
        | nil => rfl
        | cons code codes ih =>
            rw [List.flatMap_cons, List.append_assoc, withoutControls_controlSequence, ih]
      have hkept := withoutControls_append hr (controlSequence 0 ++ rest)
      rw [withoutControls_controlSequence] at hkept
      rw [Run.render, if_pos rfl, List.append_assoc, List.append_assoc, hcodes]
      exact hkept

/-- **Without its control sequences** a text in colour is the text without colour. -/
theorem withoutControls_render {s : Styled} (hs : s.IsEscapeFree) :
    withoutControls (s.render true) = s.render false := by
  rw [render_false, render]
  induction s with
  | nil => rw [List.flatMap_nil, withoutControls, List.flatMap_nil]
  | cons r s ih =>
      obtain ⟨hr, hs⟩ := isEscapeFree_cons.1 hs
      rw [List.flatMap_cons, withoutControls_run hr, ih hs, List.flatMap_cons]

/-- A text without colour has the escape characters of its runs only. -/
lemma not_mem_render_false {s : Styled} (hs : s.IsEscapeFree) : '\x1b' ∉ s.render false := by
  rw [render_false, List.mem_flatMap]
  rintro ⟨r, hr, hmem⟩
  exact hs r hr hmem

end Styled

end QualityGate.Text
