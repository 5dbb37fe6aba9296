import QualityGate.Proofs.Json.Document
import QualityGate.Proofs.Text.Blank
import Mathlib.Data.List.TakeWhile
import Mathlib.Tactic

/-!
Reading JSON documents. A reader takes a thing from the front of a text and leaves the rest; it is
given so many steps as the text has characters. Every spelling of a value is read as this value, so
a text is a document for one value at most.

* `JsonValue.Takes`: a reader takes every spelling from the front of a text.
* `JsonValue.takes_readValue`: the reader of values does.
* `JsonValue.read?_eq_some`: **a document is read as the value it stands for**.
* `JsonValue.IsDocument.unique`: it stands for no other value.
-/

namespace QualityGate

namespace JsonValue

/-! ### The reader -/

/-- The text after the white space in front of it. -/
def skipGap (s : List Char) : List Char := s.dropWhile isGapChar

/-- The number of four hexadecimal digits at the front of a text. -/
def readHex : List Char → Option (ℕ × List Char)
  | a :: b :: c :: d :: rest => (hexValue? [a, b, c, d]).map fun n => (n, rest)
  | _ => none

/-- The low half of a pair of codes, after the high half. -/
def readLow (high : ℕ) : List Char → Option (Char × List Char)
  | '\\' :: 'u' :: rest => do
    let (low, rest) ← readHex rest
    if 0xdc00 ≤ low ∧ low < 0xe000 then
      some (Char.ofNat (0x10000 + (high - 0xd800) * 0x400 + (low - 0xdc00)), rest)
    else none
  | _ => none

/-- A character that is spelled with a backslash, after the backslash. -/
def readEscape : List Char → Option (Char × List Char)
  | 'u' :: rest => do
    let (n, rest) ← readHex rest
    if 0xd800 ≤ n ∧ n < 0xdc00 then readLow n rest
    else if n.isValidChar then some (Char.ofNat n, rest)
    else none
  | l :: rest => (escapeLetters.lookup l).map fun c => (c, rest)
  | [] => none

/-- A character of a string. -/
def readChar : List Char → Option (Char × List Char)
  | '\\' :: rest => readEscape rest
  | c :: rest => if 0x20 ≤ c.toNat ∧ c ≠ '"' then some (c, rest) else none
  | [] => none

/-- The characters of a string up to the quote that ends it. -/
def readChars : ℕ → List Char → Option (List Char × List Char)
  | _, '"' :: rest => some ([], rest)
  | 0, _ => none
  | fuel + 1, s => do
    let (c, rest) ← readChar s
    let (x, rest) ← readChars fuel rest
    some (c :: x, rest)

/-- A string with its quotes. -/
def readString (fuel : ℕ) : List Char → Option (String × List Char)
  | '"' :: rest => (readChars fuel rest).map fun x => (String.ofList x.1, x.2)
  | _ => none

/-- Digits that are a numeral, as a number. -/
def readDigits (s : List Char) : Option (ℕ × List Char) :=
  let digits := s.takeWhile Char.isDigit
  if digits = [] ∨ (digits.head? = some '0' ∧ digits ≠ ['0']) then none
  else some (Nat.ofDigitChars 10 digits 0, s.dropWhile Char.isDigit)

/-- A whole number. -/
def readNumber : List Char → Option (ℤ × List Char)
  | '-' :: rest => (readDigits rest).map fun n => (-(n.1 : ℤ), n.2)
  | s => (readDigits s).map fun n => ((n.1 : ℤ), n.2)

section Lists

variable {α : Type} (item : List Char → Option (α × List Char)) (close : Char)

/-- At least one item, up to the character that closes the list. -/
def readItems : ℕ → List Char → Option (List α × List Char)
  | 0, _ => none
  | fuel + 1, s => do
    let (x, rest) ← item (skipGap s)
    match skipGap rest with
    | [] => none
    | c :: rest =>
      if c = close then some ([x], rest)
      else if c = ',' then (readItems fuel rest).map fun xs => (x :: xs.1, xs.2)
      else none

/-- A list with its closing character. -/
def readListed (fuel : ℕ) (s : List Char) : Option (List α × List Char) :=
  match skipGap s with
  | [] => none
  | c :: rest => if c = close then some ([], rest) else readItems item close fuel s

end Lists

/-- A member of an object. -/
def readMember (value : List Char → Option (JsonValue × List Char)) (fuel : ℕ) (s : List Char) :
    Option ((String × JsonValue) × List Char) := do
  let (key, rest) ← readString fuel s
  match skipGap rest with
  | ':' :: rest => (value (skipGap rest)).map fun v => ((key, v.1), v.2)
  | _ => none

/-- A value. -/
def readValue : ℕ → List Char → Option (JsonValue × List Char)
  | 0, _ => none
  | fuel + 1, s =>
    match s with
    | 'n' :: 'u' :: 'l' :: 'l' :: rest => some (.null, rest)
    | 't' :: 'r' :: 'u' :: 'e' :: rest => some (.bool true, rest)
    | 'f' :: 'a' :: 'l' :: 's' :: 'e' :: rest => some (.bool false, rest)
    | '"' :: _ => (readString fuel s).map fun x => (.string x.1, x.2)
    | '[' :: rest => (readListed (readValue fuel) ']' fuel rest).map fun vs => (.array vs.1, vs.2)
    | '\x7b' :: rest =>
      (readListed (readMember (readValue fuel) fuel) '\x7d' fuel rest).map fun ms =>
        (.object ms.1, ms.2)
    | _ => (readNumber s).map fun n => (.number n.1, n.2)

/-- **The value of a document**, if the text is one. -/
def read? (text : String) : Option JsonValue :=
  match readValue (text.toList.length + 1) (skipGap text.toList) with
  | some (v, rest) => if skipGap rest = [] then some v else none
  | none => none

/-! ### White space -/

/-- No digit stands at the front of a text, so that a number before it has come to its end. -/
def NoDigit (s : List Char) : Prop := ∀ c ∈ s.head?, c.isDigit = false

/-- A reader takes every spelling of at most so many characters from the front of a text that does
not go on with a digit. -/
def Takes {α : Type} (P : α → List Char → Prop) (n : ℕ)
    (read : List Char → Option (α × List Char)) : Prop :=
  ∀ x s rest, P x s → s.length ≤ n → NoDigit rest → read (s ++ rest) = some (x, rest)

lemma isDigit_of_isGapChar {c : Char} (h : isGapChar c = true) : c.isDigit = false := by
  simp only [isGapChar, Bool.or_eq_true, beq_iff_eq] at h
  rcases h with ((rfl | rfl) | rfl) | rfl <;> rfl

lemma noDigit_gap_cons {gap : List Char} {c : Char} (hgap : IsGap gap) (hc : c.isDigit = false)
    (rest : List Char) : NoDigit (gap ++ c :: rest) :=
  forall_head?_append_cons (fun d hd => isDigit_of_isGapChar (hgap d hd)) hc rest

lemma skipGap_gap_cons {gap : List Char} {c : Char} (hgap : IsGap gap) (hc : isGapChar c = false)
    (rest : List Char) : skipGap (gap ++ c :: rest) = c :: rest :=
  (takeWhile_append_of_head hgap (by simpa using hc)).2

/-! ### Strings -/

lemma readHex_append {digits : List Char} {n : ℕ} (h : hexValue? digits = some n)
    (rest : List Char) : readHex (digits ++ rest) = some (n, rest) := by
  match digits, h with
  | [a, b, c, d], h =>
      change (hexValue? [a, b, c, d]).map (fun n => (n, rest)) = some (n, rest)
      rw [h, Option.map_some]

lemma toNat_isValidChar (c : Char) : c.toNat.isValidChar := c.valid

/-- Two codes are read as the character that they have together. -/
lemma readEscape_pair {high low : List Char} {u l : ℕ} (hhigh : hexValue? high = some u)
    (hlow : hexValue? low = some l) (hu : 0xd800 ≤ u ∧ u < 0xdc00) (hl : 0xdc00 ≤ l ∧ l < 0xe000)
    (rest : List Char) :
    readEscape ('u' :: (high ++ '\\' :: 'u' :: (low ++ rest))) =
      some (Char.ofNat (0x10000 + (u - 0xd800) * 0x400 + (l - 0xdc00)), rest) := by
  rw [readEscape, readHex_append hhigh, Option.bind_eq_bind, Option.bind_some]
  simp only [if_pos hu]
  rw [readLow, readHex_append hlow, Option.bind_eq_bind, Option.bind_some]
  simp only [if_pos hl]

/-- A spelled character is read, whatever comes after it. -/
lemma readChar_append {c : Char} {s : List Char} (h : SpellsChar c s) (rest : List Char) :
    readChar (s ++ rest) = some (c, rest) := by
  have hvalid := toNat_isValidChar c
  cases h with
  | plain hc hquote hslash =>
      rw [List.singleton_append, readChar, if_pos ⟨hc, hquote⟩]
      rintro rfl
      exact absurd rfl hslash
  | letter hl =>
      simp only [escapeLetters, List.mem_cons, Prod.mk.injEq, List.not_mem_nil, or_false] at hl
      rcases hl with ⟨rfl, rfl⟩ | ⟨rfl, rfl⟩ | ⟨rfl, rfl⟩ | ⟨rfl, rfl⟩ | ⟨rfl, rfl⟩ | ⟨rfl, rfl⟩ |
        ⟨rfl, rfl⟩ | ⟨rfl, rfl⟩ <;> rfl
  | @code _ digits hdigits =>
      have hnot : ¬(0xd800 ≤ c.toNat ∧ c.toNat < 0xdc00) := by
        unfold Nat.isValidChar at hvalid
        omega
      rw [List.cons_append, List.cons_append, readChar, readEscape, readHex_append hdigits]
      simp only [Option.bind_eq_bind, Option.bind_some, if_neg hnot, if_pos hvalid,
        Char.ofNat_toNat]
  | @pair _ high low hc hhigh hlow =>
      have hlt : c.toNat < 0x110000 := by
        unfold Nat.isValidChar at hvalid
        omega
      have hcode : 0x10000 + (0xd800 + (c.toNat - 0x10000) / 0x400 - 0xd800) * 0x400 +
          (0xdc00 + (c.toNat - 0x10000) % 0x400 - 0xdc00) = c.toNat := by omega
      have hread := readEscape_pair hhigh hlow (by omega) (by omega) rest
      rw [hcode, Char.ofNat_toNat] at hread
      rw [List.append_assoc, List.cons_append, List.cons_append, List.cons_append, List.cons_append,
        readChar, hread]

lemma SpellsChar.exists_cons {c : Char} {s : List Char} (h : SpellsChar c s) :
    ∃ d t, s = d :: t ∧ d ≠ '"' := by
  cases h with
  | plain _ hquote _ => exact ⟨c, [], rfl, hquote⟩
  | letter _ => exact ⟨_, _, rfl, by decide⟩
  | code _ => exact ⟨_, _, rfl, by decide⟩
  | pair _ _ _ => exact ⟨_, _, rfl, by decide⟩

/-- The characters of a string are read up to the quote. -/
lemma readChars_append {x : List Char} {parts : List (List Char)}
    (h : List.Forall₂ SpellsChar x parts) {fuel : ℕ} (hfuel : parts.flatten.length ≤ fuel)
    (rest : List Char) : readChars fuel (parts.flatten ++ '"' :: rest) = some (x, rest) := by
  induction h generalizing fuel with
  | nil => rw [List.flatten_nil, List.nil_append, readChars]
  | @cons c s x parts hc _ ih =>
      obtain ⟨d, t, rfl, hd⟩ := hc.exists_cons
      rw [List.flatten_cons, List.cons_append, List.length_cons] at hfuel
      obtain ⟨fuel, rfl⟩ : ∃ k, fuel = k + 1 := ⟨fuel - 1, by omega⟩
      have hread := readChar_append hc (parts.flatten ++ '"' :: rest)
      rw [List.length_append] at hfuel
      have htail := @ih fuel (by omega)
      rw [List.flatten_cons, List.append_assoc, readChars, hread]
      · simp only [Option.bind_eq_bind, Option.bind_some, htail]
      · intro u hu
        exact hd (List.cons.inj hu).1

/-- A string is read, whatever comes after it. -/
lemma readString_append {x : String} {s : List Char} (h : SpellsString x s) (fuel : ℕ)
    (hfuel : s.length ≤ fuel + 1) (rest : List Char) :
    readString fuel (s ++ rest) = some (x, rest) := by
  obtain ⟨hparts⟩ := h
  simp only [List.cons_append, List.length_cons, List.length_append, List.length_nil] at hfuel
  have hread := @readChars_append _ _ hparts fuel (by omega) rest
  rw [List.cons_append, List.cons_append, List.append_assoc, List.singleton_append, readString,
    hread, Option.map_some]

/-! ### Numbers -/

lemma readDigits_append {digits : List Char} (h : IsNumeral digits) {rest : List Char}
    (hrest : NoDigit rest) :
    readDigits (digits ++ rest) = some (Nat.ofDigitChars 10 digits 0, rest) := by
  obtain ⟨htake, hdrop⟩ := takeWhile_append_of_head h.isDigit hrest
  have hnumeral : ¬(digits = [] ∨ (digits.head? = some '0' ∧ digits ≠ ['0'])) := by
    rintro (hnil | ⟨hzero, hne⟩)
    · exact h.ne_nil hnil
    · exact hne (h.zero hzero)
  simp only [readDigits, htake, hdrop, if_neg hnumeral]

lemma IsNumeral.exists_cons {digits : List Char} (h : IsNumeral digits) :
    ∃ d t, digits = d :: t ∧ d.isDigit = true := by
  obtain ⟨d, t, rfl⟩ := List.exists_cons_of_ne_nil h.ne_nil
  exact ⟨d, t, rfl, h.isDigit d List.mem_cons_self⟩

lemma readNumber_append {n : ℤ} {s rest : List Char} (h : SpellsNumber n s)
    (hrest : NoDigit rest) : readNumber (s ++ rest) = some (n, rest) := by
  cases h with
  | natural hs =>
      have hread := readDigits_append hs hrest
      obtain ⟨d, t, rfl, hd⟩ := hs.exists_cons
      rw [readNumber, hread, Option.map_some]
      intro u hu
      rw [(List.cons.inj hu).1] at hd
      exact absurd hd (by decide)
  | negative hs =>
      rw [List.cons_append, readNumber, readDigits_append hs hrest, Option.map_some]

/-! ### Lists -/

section Lists

variable {α : Type} {P : α → List Char → Prop} {item : List Char → Option (α × List Char)}
  {close : Char} {n : ℕ}

/-- Every spelling starts with a character that is neither white space nor the given one. -/
def Starts (P : α → List Char → Prop) (close : Char) : Prop :=
  ∀ x s, P x s → ∃ c t, s = c :: t ∧ isGapChar c = false ∧ c ≠ close

/-- The first item is read up to the character after it. -/
lemma readItems_append_cons (hitem : Takes P n item) (hstarts : Starts P close) {c : Char}
    (hgap : isGapChar c = false) (hdigit : c.isDigit = false) {x : α} {before s after : List Char}
    (hbefore : IsGap before) (hs : P x s) (hafter : IsGap after) (hn : s.length ≤ n) (fuel : ℕ)
    (rest : List Char) :
    readItems item close (fuel + 1) (before ++ s ++ after ++ c :: rest) =
      if c = close then some ([x], rest)
      else if c = ',' then (readItems item close fuel rest).map fun xs => (x :: xs.1, xs.2)
      else none := by
  have hread := hitem x s (after ++ c :: rest) hs hn (noDigit_gap_cons hafter hdigit rest)
  obtain ⟨d, t, rfl, hd, -⟩ := hstarts x s hs
  rw [List.cons_append] at hread
  rw [List.append_assoc, List.append_assoc, List.cons_append, readItems,
    skipGap_gap_cons hbefore hd, hread]
  simp only [Option.bind_eq_bind, Option.bind_some, skipGap_gap_cons hafter hgap]

/-- Items are read up to the character that closes the list. The induction is on the spelled list;
each comma takes one step. -/
lemma readItems_append (hitem : Takes P n item) (hstarts : Starts P close)
    (hgap : isGapChar close = false) (hcomma : close ≠ ',') (hdigit : close.isDigit = false)
    {xs : List α} {s : List Char} (h : Listed P xs s) (hxs : xs ≠ []) {fuel : ℕ}
    (hn : s.length ≤ n) (hfuel : s.length < fuel) (rest : List Char) :
    readItems item close fuel (s ++ close :: rest) = some (xs, rest) := by
  induction h generalizing fuel with
  | nil _ => exact absurd rfl hxs
  | one hbefore hs hafter =>
      obtain ⟨fuel, rfl⟩ : ∃ k, fuel = k + 1 := ⟨fuel - 1, by omega⟩
      simp only [List.length_append] at hn
      rw [readItems_append_cons hitem hstarts hgap hdigit hbefore hs hafter (by omega), if_pos rfl]
  | @cons x y xs before s after t hbefore hs hafter _ ih =>
      obtain ⟨fuel, rfl⟩ : ∃ k, fuel = k + 1 := ⟨fuel - 1, by omega⟩
      simp only [List.length_append, List.length_cons] at hn hfuel
      have htail := @ih (List.cons_ne_nil y xs) fuel (by omega) (by omega)
      rw [List.append_assoc _ (',' :: t), List.cons_append,
        readItems_append_cons hitem hstarts (by decide) (by decide) hbefore hs hafter (by omega),
        if_neg hcomma.symm, if_pos rfl, htail, Option.map_some]

lemma Listed.exists_start (hstarts : Starts P close) {x : α} {xs : List α} {s : List Char}
    (h : Listed P (x :: xs) s) :
    ∃ before c t, s = before ++ c :: t ∧ IsGap before ∧ isGapChar c = false ∧ c ≠ close := by
  cases h with
  | @one _ before s after hbefore hs _ =>
      obtain ⟨c, t, rfl, hc⟩ := hstarts x s hs
      exact ⟨before, c, t ++ after, by simp, hbefore, hc⟩
  | @cons _ _ _ before s after u hbefore hs _ _ =>
      obtain ⟨c, t, rfl, hc⟩ := hstarts x s hs
      exact ⟨before, c, t ++ after ++ ',' :: u, by simp, hbefore, hc⟩

/-- A list is read with the character that closes it. -/
lemma readListed_append (hitem : Takes P n item) (hstarts : Starts P close)
    (hgap : isGapChar close = false) (hcomma : close ≠ ',') (hdigit : close.isDigit = false)
    {xs : List α} {s : List Char} (h : Listed P xs s) (fuel : ℕ) (hn : s.length ≤ n)
    (hfuel : s.length < fuel) (rest : List Char) :
    readListed item close fuel (s ++ close :: rest) = some (xs, rest) := by
  cases xs with
  | nil =>
      obtain ⟨hs⟩ := h
      simp only [readListed, skipGap_gap_cons hs hgap, if_true]
  | cons x xs =>
      have hitems := readItems_append hitem hstarts hgap hcomma hdigit h (List.cons_ne_nil x xs) hn
        hfuel rest
      obtain ⟨before, c, t, rfl, hbefore, hc, hclose⟩ := h.exists_start hstarts
      rw [List.append_assoc, List.cons_append] at hitems ⊢
      simp only [readListed, skipGap_gap_cons hbefore hc, if_neg hclose, hitems]

end Lists

/-! ### Values -/

lemma SpellsString.exists_cons {x : String} {s : List Char} (h : SpellsString x s) :
    ∃ t, s = '"' :: t := by
  obtain ⟨_⟩ := h
  exact ⟨_, rfl⟩

lemma starts_spellsMember (P : JsonValue → List Char → Prop) : Starts (SpellsMember P) '\x7d' := by
  rintro _ _ ⟨hkey, -, -, -⟩
  obtain ⟨t, rfl⟩ := hkey.exists_cons
  exact ⟨_, _, rfl, by decide, by decide⟩

/-- A number starts with a digit or a minus sign. -/
lemma SpellsNumber.exists_cons {n : ℤ} {s : List Char} (h : SpellsNumber n s) :
    ∃ c t, s = c :: t ∧ (c.isDigit = true ∨ c = '-') := by
  cases h with
  | natural hs =>
      obtain ⟨d, t, rfl, hd⟩ := hs.exists_cons
      exact ⟨d, t, rfl, .inl hd⟩
  | negative _ => exact ⟨_, _, rfl, .inr rfl⟩

lemma starts_spells : Starts Spells ']' := by
  intro v s h
  cases h with
  | null => exact ⟨_, _, rfl, by decide, by decide⟩
  | bool b => cases b <;> exact ⟨_, _, rfl, by decide, by decide⟩
  | number h =>
      obtain ⟨c, t, rfl, hc | rfl⟩ := h.exists_cons
      · refine ⟨c, t, rfl, Bool.eq_false_iff.2 fun hgap => ?_, ?_⟩
        · rw [isDigit_of_isGapChar hgap] at hc
          cases hc
        · rintro rfl
          exact absurd hc (by decide)
      · exact ⟨_, _, rfl, by decide, by decide⟩
  | string h =>
      obtain ⟨t, rfl⟩ := h.exists_cons
      exact ⟨_, _, rfl, by decide, by decide⟩
  | array _ => exact ⟨_, _, rfl, by decide, by decide⟩
  | object _ => exact ⟨_, _, rfl, by decide, by decide⟩

lemma takes_readMember {P : JsonValue → List Char → Prop} {n : ℕ}
    {value : List Char → Option (JsonValue × List Char)} (hvalue : Takes P n value)
    (hstarts : Starts P ']') : Takes (SpellsMember P) n (readMember value n) := by
  rintro _ _ rest ⟨hkey, hbefore, hafter, hs⟩ hn hrest
  simp only [List.length_append, List.length_cons] at hn
  have hread := hvalue _ _ rest hs (by omega) hrest
  obtain ⟨c, t, rfl, hc, -⟩ := hstarts _ _ hs
  rw [List.cons_append] at hread
  simp only [readMember, List.append_assoc, List.cons_append,
    readString_append hkey n (by omega), Option.bind_eq_bind, Option.bind_some,
    skipGap_gap_cons hbefore (c := ':') (by decide), skipGap_gap_cons hafter hc, hread,
    Option.map_some]

/-- **Every spelling of a value** is read as this value. The induction is on the length that is
allowed; the parts of a value are shorter by what encloses them. -/
theorem takes_readValue (n : ℕ) : Takes Spells n (readValue n) := by
  induction n with
  | zero =>
      intro v s rest h hn _
      obtain ⟨c, t, rfl, -⟩ := starts_spells v s h
      exact absurd hn (by simp)
  | succ n ih =>
      intro v s rest h hn hrest
      cases h with
      | null => rfl
      | bool b => cases b <;> rfl
      | number h =>
          have hread := readNumber_append h hrest
          obtain ⟨c, t, rfl, hc⟩ := h.exists_cons
          rw [List.cons_append] at hread ⊢
          rw [readValue, hread, Option.map_some]
          all_goals
            intro u hu
            rw [(List.cons.inj hu).1] at hc
            exact absurd hc (by decide)
      | string h =>
          have hread := readString_append h n hn rest
          obtain ⟨t, rfl⟩ := h.exists_cons
          rw [List.cons_append] at hread ⊢
          rw [readValue, hread, Option.map_some]
      | array h =>
          simp only [List.cons_append, List.length_cons, List.length_append, List.length_nil] at hn
          have hread := readListed_append ih starts_spells (by decide) (by decide) (by decide) h n
            (by omega) (by omega) rest
          rw [List.cons_append, List.cons_append, List.append_assoc, List.singleton_append,
            readValue, hread, Option.map_some]
      | object h =>
          simp only [List.cons_append, List.length_cons, List.length_append, List.length_nil] at hn
          have hread := readListed_append (takes_readMember ih starts_spells)
            (starts_spellsMember Spells) (by decide) (by decide) (by decide) h n (by omega)
            (by omega) rest
          rw [List.cons_append, List.cons_append, List.append_assoc, List.singleton_append,
            readValue, hread, Option.map_some]

/-! ### Documents -/

/-- **A document is read** as the value it stands for. -/
theorem read?_eq_some {v : JsonValue} {text : String} (h : IsDocument v text.toList) :
    read? text = some v := by
  obtain ⟨before, s, after, hbefore, hs, hafter, htext⟩ := h
  have hlength := congrArg List.length htext
  simp only [List.length_append] at hlength
  have hafter' : NoDigit after := fun c hc =>
    isDigit_of_isGapChar (hafter c (List.mem_of_mem_head? hc))
  have hread := takes_readValue (text.toList.length + 1) v s after hs (by omega) hafter'
  obtain ⟨c, t, rfl, hc, -⟩ := starts_spells v s hs
  rw [List.cons_append] at hread
  have hskip : skipGap text.toList = c :: (t ++ after) := by
    rw [htext, List.append_assoc, List.cons_append, skipGap_gap_cons hbefore hc]
  have hrest : skipGap after = [] := List.dropWhile_eq_nil_iff.2 hafter
  simp only [read?, hskip, hread, hrest, if_true]

example : read? " [1, \"\\u0041\\n\"]" = some (.array [.number 1, .string "A\n"]) := by rfl

example : read? "[1,]" = none := by rfl

/-- A text is a document for one value at most. -/
theorem IsDocument.unique {v w : JsonValue} {s : List Char} (hv : IsDocument v s)
    (hw : IsDocument w s) : v = w := by
  rw [← String.toList_ofList (l := s)] at hv hw
  exact Option.some.inj ((read?_eq_some hv).symm.trans (read?_eq_some hw))

/-- The text of a value is read back as the value. -/
theorem read?_render (v : JsonValue) : read? v.render = some v :=
  read?_eq_some (isDocument_render v)

end JsonValue

end QualityGate
