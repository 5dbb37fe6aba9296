import QualityGate.Json.Basic
import QualityGate.Proofs.Text.Numeral
import Mathlib.Tactic

/-!
JSON documents. The grammar is that of RFC 8259: white space may stand around every value, the names
of members and the characters of strings can be spelled in several ways. What a value is spelled
like is said value by value; numbers are whole numbers here, so a number with a fraction or an
exponent stands for no value.

* `JsonValue.ind`: what is inherited from the parts of values holds of all values.
* `JsonValue.Spells`, `JsonValue.IsDocument`: **the texts that stand for a value**.
* `JsonValue.isDocument_render`: the text of a value is a document for it.
-/

namespace QualityGate

namespace JsonValue

/-- The induction principle of the nested type of values: what is inherited from the items of arrays
and the values of members holds of every value. -/
@[elab_as_elim]
theorem ind {P : JsonValue → Prop} (null : P .null) (bool : ∀ b, P (.bool b))
    (number : ∀ n, P (.number n)) (string : ∀ s, P (.string s))
    (array : ∀ vs, (∀ v ∈ vs, P v) → P (.array vs))
    (object : ∀ ms : List (String × JsonValue), (∀ m ∈ ms, P m.2) → P (.object ms))
    (v : JsonValue) : P v :=
  JsonValue.rec (motive_1 := P) (motive_2 := fun vs => ∀ v ∈ vs, P v)
    (motive_3 := fun ms => ∀ m ∈ ms, P m.2) (motive_4 := fun m => P m.2)
    null bool number string array object
    (List.forall_mem_nil _) (fun _ _ hv hvs => List.forall_mem_cons.2 ⟨hv, hvs⟩)
    (List.forall_mem_nil _) (fun _ _ hm hms => List.forall_mem_cons.2 ⟨hm, hms⟩)
    (fun _ _ hv => hv) v

/-! ### White space and lists -/

/-- White space between the parts of a document. -/
def isGapChar (c : Char) : Bool := c == ' ' || c == '\t' || c == '\n' || c == '\r'

/-- Nothing but white space. -/
def IsGap (s : List Char) : Prop := ∀ c ∈ s, isGapChar c = true

/-- Things with commas in between, each of them spelled with white space around it. -/
inductive Listed {α : Type} (P : α → List Char → Prop) : List α → List Char → Prop where
  | nil {gap : List Char} (hgap : IsGap gap) : Listed P [] gap
  | one {x : α} {before s after : List Char} (hbefore : IsGap before) (hs : P x s)
      (hafter : IsGap after) : Listed P [x] (before ++ s ++ after)
  | cons {x y : α} {xs : List α} {before s after t : List Char} (hbefore : IsGap before)
      (hs : P x s) (hafter : IsGap after) (ht : Listed P (y :: xs) t) :
      Listed P (x :: y :: xs) (before ++ s ++ after ++ ',' :: t)

/-! ### Strings -/

/-- The value of a hexadecimal digit, in either case. -/
def hexDigitValue? (c : Char) : Option ℕ :=
  if '0' ≤ c ∧ c ≤ '9' then some (c.toNat - '0'.toNat)
  else if 'a' ≤ c ∧ c ≤ 'f' then some (c.toNat - 'a'.toNat + 10)
  else if 'A' ≤ c ∧ c ≤ 'F' then some (c.toNat - 'A'.toNat + 10)
  else none

/-- The value of four hexadecimal digits. -/
def hexValue? : List Char → Option ℕ
  | [a, b, c, d] => do
    return (((← hexDigitValue? a) * 16 + (← hexDigitValue? b)) * 16 + (← hexDigitValue? c)) * 16 +
      (← hexDigitValue? d)
  | _ => none

/-- The letters that stand for a character after a backslash, with these characters. -/
def escapeLetters : List (Char × Char) :=
  [('"', '"'), ('\\', '\\'), ('/', '/'), ('b', '\x08'), ('f', '\x0c'), ('n', '\n'), ('r', '\r'),
   ('t', '\t')]

/-- A character as it can be spelled inside a string: as it is, if it is neither a quote nor a
backslash nor a control character; by a letter after a backslash; by its code; or by the two codes
that UTF-16 has for it. -/
inductive SpellsChar : Char → List Char → Prop where
  | plain {c : Char} (hc : 0x20 ≤ c.toNat) (hquote : c ≠ '"') (hslash : c ≠ '\\') : SpellsChar c [c]
  | letter {l c : Char} (h : (l, c) ∈ escapeLetters) : SpellsChar c ['\\', l]
  | code {c : Char} {digits : List Char} (h : hexValue? digits = some c.toNat) :
      SpellsChar c ('\\' :: 'u' :: digits)
  | pair {c : Char} {high low : List Char} (hc : 0x10000 ≤ c.toNat)
      (hhigh : hexValue? high = some (0xd800 + (c.toNat - 0x10000) / 0x400))
      (hlow : hexValue? low = some (0xdc00 + (c.toNat - 0x10000) % 0x400)) :
      SpellsChar c ('\\' :: 'u' :: high ++ '\\' :: 'u' :: low)

/-- A string: its characters between quotes. -/
inductive SpellsString : String → List Char → Prop where
  | mk {x : List Char} {parts : List (List Char)} (h : List.Forall₂ SpellsChar x parts) :
      SpellsString (String.ofList x) ('"' :: parts.flatten ++ ['"'])

/-! ### Numbers -/

/-- A row of digits that is not empty and starts with a zero only if that is all. -/
structure IsNumeral (digits : List Char) : Prop where
  ne_nil : digits ≠ []
  isDigit : ∀ c ∈ digits, c.isDigit = true
  zero : digits.head? = some '0' → digits = ['0']

/-- A whole number: its digits, possibly after a minus sign. -/
inductive SpellsNumber : ℤ → List Char → Prop where
  | natural {digits : List Char} (h : IsNumeral digits) :
      SpellsNumber (Nat.ofDigitChars 10 digits 0) digits
  | negative {digits : List Char} (h : IsNumeral digits) :
      SpellsNumber (-(Nat.ofDigitChars 10 digits 0 : ℤ)) ('-' :: digits)

/-! ### Values -/

/-- A member of an object: its name, a colon and its value. -/
inductive SpellsMember (P : JsonValue → List Char → Prop) : String × JsonValue → List Char → Prop
    where
  | mk {key : String} {v : JsonValue} {k before after s : List Char} (hkey : SpellsString key k)
      (hbefore : IsGap before) (hafter : IsGap after) (hs : P v s) :
      SpellsMember P (key, v) (k ++ before ++ ':' :: after ++ s)

/-- **The texts that stand for a value.** -/
inductive Spells : JsonValue → List Char → Prop where
  | null : Spells .null "null".toList
  | bool (b : Bool) : Spells (.bool b) (if b then "true" else "false").toList
  | number {n : ℤ} {s : List Char} (h : SpellsNumber n s) : Spells (.number n) s
  | string {x : String} {s : List Char} (h : SpellsString x s) : Spells (.string x) s
  | array {vs : List JsonValue} {s : List Char} (h : Listed Spells vs s) :
      Spells (.array vs) ('[' :: s ++ [']'])
  | object {ms : List (String × JsonValue)} {s : List Char}
      (h : Listed (SpellsMember Spells) ms s) : Spells (.object ms) ('\x7b' :: s ++ ['\x7d'])

/-- A document for a value: the value with white space around it. -/
def IsDocument (v : JsonValue) (s : List Char) : Prop :=
  ∃ before t after, IsGap before ∧ Spells v t ∧ IsGap after ∧ s = before ++ t ++ after

/-! ### The text of a value -/

lemma isGap_newLine (level : ℕ) : IsGap (newLine level) := by
  intro c hc
  rcases List.mem_cons.1 hc with rfl | hc
  · decide
  · rw [List.eq_of_mem_replicate hc]
    decide

lemma isGap_nil : IsGap [] := List.forall_mem_nil _

/-- Rows with commas between them, each on a line of its own. -/
lemma listed_rows {α : Type} {P : α → List Char → Prop} {f : α → List Char} {gap after : List Char}
    (hgap : IsGap gap) (hafter : IsGap after) (x : α) (xs : List α)
    (h : ∀ y ∈ x :: xs, P y (f y)) :
    Listed P (x :: xs) (gap ++ f x ++ xs.flatMap (fun y => ',' :: gap ++ f y) ++ after) := by
  induction xs generalizing x with
  | nil =>
      rw [List.flatMap_nil, List.append_nil]
      exact .one hgap (h x List.mem_cons_self) hafter
  | cons y ys ih =>
      have htail := ih y fun z hz => h z (List.mem_cons_of_mem x hz)
      have hall := Listed.cons hgap (h x List.mem_cons_self) isGap_nil htail
      simpa [List.flatMap_cons, List.append_assoc] using hall

lemma hexDigitValue?_hexDigit {n : ℕ} (h : n < 16) : hexDigitValue? (hexDigit n) = some n := by
  revert n
  decide

lemma mem_escapeLetters {c l : Char} (h : escapeLetter? c = some l) : (l, c) ∈ escapeLetters := by
  unfold escapeLetter? at h
  split_ifs at h <;> subst_vars <;> cases h <;> decide

lemma spellsChar_escapeChar (c : Char) : SpellsChar c (escapeChar c) := by
  unfold escapeChar
  split
  · next l hl => exact .letter (mem_escapeLetters hl)
  · next hl =>
    split
    · next hc =>
      refine .code ?_
      have hhigh := hexDigitValue?_hexDigit (n := c.toNat / 16) (by omega)
      have hlow := hexDigitValue?_hexDigit (n := c.toNat % 16) (by omega)
      have hzero : hexDigitValue? '0' = some 0 := by decide
      simp only [hexValue?, hhigh, hlow, hzero, Option.pure_def, Option.bind_eq_bind,
        Option.bind_some, Option.some.injEq]
      omega
    · next hc =>
      refine .plain (by omega) ?_ ?_
      · rintro rfl
        exact absurd hl (by decide)
      · rintro rfl
        exact absurd hl (by decide)

lemma spellsString_quote (s : String) : SpellsString s (quote s) := by
  have h : List.Forall₂ SpellsChar s.toList (s.toList.map escapeChar) := by
    rw [List.forall₂_map_right_iff, List.forall₂_same]
    exact fun c _ => spellsChar_escapeChar c
  have hs := SpellsString.mk h
  rwa [String.ofList_toList, ← List.flatMap_def] at hs

/-- The digits of a number other than zero start with another digit. -/
lemma head?_toDigits {n : ℕ} (hn : 0 < n) : (Nat.toDigits 10 n).head? ≠ some '0' := by
  induction n using Nat.strong_induction_on with
  | _ n ih =>
      rcases Nat.lt_or_ge n 10 with h | h
      · rw [Nat.toDigits_of_lt_base h]
        interval_cases n <;> decide
      · rw [Nat.toDigits_of_base_le (by decide) h,
          List.head?_append_of_ne_nil _ Nat.toDigits_ne_nil]
        exact ih (n / 10) (by omega) (by omega)

lemma isNumeral_toDigits (n : ℕ) : IsNumeral (Nat.toDigits 10 n) where
  ne_nil := Nat.toDigits_ne_nil
  isDigit := fun _ hc => Nat.isDigit_of_mem_toDigits (by decide) (by decide) hc
  zero := fun h => by
    rcases Nat.eq_zero_or_pos n with rfl | hn
    · exact Nat.toDigits_zero 10
    · exact absurd h (head?_toDigits hn)

lemma spellsNumber_toString (n : ℤ) : SpellsNumber n (toString n).toList := by
  cases n with
  | ofNat n =>
      have htext : (toString (Int.ofNat n)).toList = Nat.toDigits 10 n := Text.toList_toString n
      have h := SpellsNumber.natural (isNumeral_toDigits n)
      rw [Nat.ofDigitChars_ten_toDigits] at h
      rw [htext]
      exact h
  | negSucc n =>
      have htext : (toString (Int.negSucc n)).toList = '-' :: Nat.toDigits 10 (n + 1) := by
        rw [← Text.toList_toString]
        exact String.toList_append
      have h := SpellsNumber.negative (isNumeral_toDigits (n + 1))
      rw [Nat.ofDigitChars_ten_toDigits] at h
      rw [htext]
      exact h

lemma renderItems_eq_flatMap (level : ℕ) (vs : List JsonValue) :
    renderItems level vs = vs.flatMap fun v => ',' :: newLine level ++ renderAt level v := by
  induction vs with
  | nil => simp [renderItems]
  | cons v vs ih => simp [renderItems, ih]

lemma renderMembers_eq_flatMap (level : ℕ) (ms : List (String × JsonValue)) :
    renderMembers level ms = ms.flatMap fun m =>
      ',' :: newLine level ++ (quote m.1 ++ ':' :: ' ' :: renderAt level m.2) := by
  induction ms with
  | nil => simp [renderMembers]
  | cons m ms ih => simp [renderMembers, ih]

/-- The text of a value on any level stands for the value. -/
lemma spells_renderAt (v : JsonValue) (level : ℕ) : Spells v (renderAt level v) := by
  induction v using ind generalizing level with
  | null =>
      rw [renderAt]
      exact .null
  | bool b =>
      rw [renderAt]
      exact .bool b
  | number n =>
      rw [renderAt]
      exact .number (spellsNumber_toString n)
  | string s =>
      rw [renderAt]
      exact .string (spellsString_quote s)
  | array vs ih =>
      cases vs with
      | nil =>
          rw [renderAt]
          exact .array (.nil isGap_nil)
      | cons v vs =>
          have h := Spells.array (listed_rows (isGap_newLine (level + 1)) (isGap_newLine level) v vs
            fun w hw => ih w hw (level + 1))
          rw [renderAt, renderItems_eq_flatMap]
          simpa only [List.cons_append, List.append_assoc] using h
  | object ms ih =>
      cases ms with
      | nil =>
          rw [renderAt]
          exact .object (.nil isGap_nil)
      | cons m ms =>
          have hblank : IsGap [' '] := by simp [IsGap, isGapChar]
          have hmember : ∀ w ∈ m :: ms, SpellsMember Spells w
              (quote w.1 ++ ':' :: ' ' :: renderAt (level + 1) w.2) := fun w hw => by
            have h := SpellsMember.mk (spellsString_quote w.1) isGap_nil hblank
              (ih w hw (level + 1))
            rwa [List.append_nil, List.append_assoc] at h
          have h := Spells.object
            (listed_rows (isGap_newLine (level + 1)) (isGap_newLine level) m ms hmember)
          rw [renderAt, renderMembers_eq_flatMap]
          simpa only [List.cons_append, List.append_assoc] using h

/-- **The text of a value** is a document for it. -/
theorem isDocument_render (v : JsonValue) : IsDocument v v.render.toList := by
  refine ⟨[], renderAt 0 v, [], isGap_nil, spells_renderAt v 0, isGap_nil, ?_⟩
  rw [render, String.toList_ofList, List.nil_append, List.append_nil]

end JsonValue

end QualityGate
