/-!
Text as bytes in UTF-8. Reading bytes either refuses a text that is not well formed, or puts the
replacement character in the place of each part that is not: of a sequence that breaks off, the
part up to the break.

* `segments`: the characters of a byte sequence, and the places of the parts that are none.
* `decode?_eq_some_iff`: bytes are a text exactly if no part is malformed.
-/

namespace QualityGate.Text.Utf8

/-- The bytes of a text. -/
def encode (s : List Char) : List UInt8 := s.flatMap String.utf8EncodeChar

/-- What the first byte of a sequence says: how many bytes follow, the bits it gives itself, and the
bounds of the byte after it. -/
structure Lead where
  more : Nat
  bits : Nat
  least : Nat
  most : Nat

/-- The first byte of a longer sequence. -/
def lead? (b : Nat) : Option Lead :=
  if 0xC2 ≤ b ∧ b ≤ 0xDF then some ⟨1, b - 0xC0, 0x80, 0xBF⟩
  else if b = 0xE0 then some ⟨2, 0, 0xA0, 0xBF⟩
  else if b = 0xED then some ⟨2, 0xD, 0x80, 0x9F⟩
  else if 0xE1 ≤ b ∧ b ≤ 0xEF then some ⟨2, b - 0xE0, 0x80, 0xBF⟩
  else if b = 0xF0 then some ⟨3, 0, 0x90, 0xBF⟩
  else if 0xF1 ≤ b ∧ b ≤ 0xF3 then some ⟨3, b - 0xF0, 0x80, 0xBF⟩
  else if b = 0xF4 then some ⟨3, 4, 0x80, 0x8F⟩
  else none

/-- The rest of a sequence: the number of the character if nothing breaks off, and the bytes after
what was used. -/
def continuation (least most bits : Nat) : Nat → List UInt8 → Option Nat × List UInt8
  | 0, bytes => (some bits, bytes)
  | _ + 1, [] => (none, [])
  | more + 1, b :: bytes =>
    if least ≤ b.toNat ∧ b.toNat ≤ most then
      continuation 0x80 0xBF (bits * 64 + (b.toNat - 0x80)) more bytes
    else (none, b :: bytes)

/-- A continuation uses bytes from the front. -/
theorem length_continuation_le (least most bits more : Nat) (bytes : List UInt8) :
    (continuation least most bits more bytes).2.length ≤ bytes.length := by
  induction bytes generalizing least most bits more with
  | nil => cases more <;> simp [continuation]
  | cons b bytes ih =>
    cases more with
    | zero => simp [continuation]
    | succ more =>
      simp only [continuation]
      split
      · exact Nat.le_trans (ih ..) (Nat.le_succ _)
      · simp

/-- The first character of a byte sequence, unless it is malformed, and the bytes after it. -/
def segment (b : UInt8) (bytes : List UInt8) : Option Char × List UInt8 :=
  if b.toNat < 0x80 then (some (Char.ofNat b.toNat), bytes)
  else match lead? b.toNat with
    | none => (none, bytes)
    | some lead =>
      let (n?, rest) := continuation lead.least lead.most lead.bits lead.more bytes
      (n?.map Char.ofNat, rest)

/-- A segment uses bytes from the front. -/
theorem length_segment_le (b : UInt8) (bytes : List UInt8) :
    (segment b bytes).2.length ≤ bytes.length := by
  unfold segment
  split
  · simp
  · split
    · simp
    · exact length_continuation_le ..

/-- The characters of a byte sequence; a malformed part is none. -/
def segments : List UInt8 → List (Option Char)
  | [] => []
  | b :: bytes => (segment b bytes).1 :: segments (segment b bytes).2
  termination_by bytes => bytes.length
  decreasing_by exact Nat.lt_succ_of_le (length_segment_le b bytes)

/-- The text that bytes stand for, if they are well formed. -/
def decode? (bytes : List UInt8) : Option (List Char) := (segments bytes).mapM id

/-- The text that bytes stand for, with a replacement character for each malformed part. -/
def decodeLossy (bytes : List UInt8) : List Char :=
  (segments bytes).map fun c? => c?.getD '\ufffd'

/-- Bytes are a text exactly if no part of them is malformed. -/
theorem decode?_eq_some_iff {bytes : List UInt8} {s : List Char} :
    decode? bytes = some s ↔ segments bytes = s.map some := by
  unfold decode?
  generalize segments bytes = cs
  induction cs generalizing s with
  | nil => cases s <;> simp
  | cons c cs ih =>
    cases c with
    | none => cases s <;> simp [List.mapM_cons]
    | some c =>
      cases s with
      | nil => cases h : cs.mapM id <;> simp [List.mapM_cons, h]
      | cons d s =>
        simp only [List.mapM_cons, id_eq, Option.pure_def, Option.bind_eq_bind, Option.bind_some,
          Option.bind_eq_some_iff, Option.some.injEq, List.cons.injEq, List.map_cons]
        constructor
        · rintro ⟨t, ht, rfl, rfl⟩
          exact ⟨rfl, ih.1 ht⟩
        · rintro ⟨rfl, h⟩
          exact ⟨s, ih.2 h, rfl, rfl⟩

/-- On well-formed bytes the two ways of reading agree. -/
theorem decodeLossy_of_decode? {bytes : List UInt8} {s : List Char} (h : decode? bytes = some s) :
    decodeLossy bytes = s := by
  rw [decode?_eq_some_iff] at h
  simp [decodeLossy, h, Function.comp_def]

end QualityGate.Text.Utf8
