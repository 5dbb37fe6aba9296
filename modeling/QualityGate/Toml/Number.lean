import QualityGate.Toml.Quoted

/-!
Numbers and points in time in TOML documents.

* `integer?`: decimal integers, and hexadecimal, octal and binary ones.
* `isFloat`, `isDateTime`: the shapes of the values that are not evaluated.
-/

namespace QualityGate.Toml

/-! ### Digits -/

/-- Digits of a class in groups with a single underscore between them: the digits alone. -/
def grouped? (isDigit : Char → Bool) : List Char → Option (List Char)
  | [] => none
  | [c] => if isDigit c then some [c] else none
  | c :: '_' :: d :: rest =>
    if isDigit c && isDigit d then (grouped? isDigit (d :: rest)).map (c :: ·) else none
  | c :: rest => if isDigit c then (grouped? isDigit rest).map (c :: ·) else none

/-- The value of digits in a base, given the value of each digit. -/
def valueIn (base : Nat) (digits : List Char) : Nat :=
  digits.foldl (fun n c => n * base + (hexValue? c).getD 0) 0

/-- A text without its sign, and whether the sign is a minus. -/
def splitSign : List Char → Bool × List Char
  | '-' :: rest => (true, rest)
  | '+' :: rest => (false, rest)
  | s => (false, s)

/-- Decimal digits of a whole number. Only the number zero starts with a zero. -/
def wholeDigits? (s : List Char) : Option (List Char) :=
  (grouped? Char.isDigit s).filter fun digits => digits.head? != some '0' || digits.length == 1

/-! ### Integers -/

/-- The greatest integer that a document can hold. -/
def maxInteger : Nat := Nat.pow 2 128 - 1

/-- The least integer that a document can hold, without its sign. -/
def maxNegative : Nat := Nat.pow 2 127

/-- Integers that a document can hold. -/
def isInRange (n : Int) : Bool := -(maxNegative : Int) ≤ n && n ≤ (maxInteger : Int)

/-- An integer with a base in front. -/
def basedInteger? (base : Nat) (isDigit : Char → Bool) (s : List Char) : Option Int :=
  (grouped? isDigit s).map fun digits => (valueIn base digits : Int)

/-- Whether a character is a digit in some base up to sixteen. -/
def isDigitIn (base : Nat) (c : Char) : Bool := (hexValue? c).any (· < base)

/-- An integer. -/
def integer? (s : List Char) : Option Int :=
  let n? := match s with
    | '0' :: 'x' :: rest => basedInteger? 16 (isDigitIn 16) rest
    | '0' :: 'o' :: rest => basedInteger? 8 (isDigitIn 8) rest
    | '0' :: 'b' :: rest => basedInteger? 2 (isDigitIn 2) rest
    | _ =>
      let (negative, unsigned) := splitSign s
      (wholeDigits? unsigned).map fun digits =>
        if negative then -(valueIn 10 digits : Int) else (valueIn 10 digits : Int)
  n?.filter isInRange

/-! ### Floating-point numbers -/

/-- The parts of a text before and after the first character of a class. -/
def cutAt (p : Char → Bool) (s : List Char) : List Char × Option (List Char) :=
  match s.dropWhile fun c => !p c with
  | [] => (s, none)
  | _ :: rest => (s.takeWhile fun c => !p c, some rest)

/-- A number beyond all finite floating-point numbers: digits with a decimal exponent. -/
def overflows (digits : List Char) (exponent : Int) : Bool :=
  let significant := digits.dropWhile (· == '0')
  let places : Int := significant.length + exponent
  let bound := Nat.pow 2 1024 - Nat.pow 2 970
  if significant.isEmpty || places < 309 then false
  else if 309 < places then true
  else if 0 ≤ exponent then bound ≤ valueIn 10 significant * Nat.pow 10 exponent.toNat
  else bound * Nat.pow 10 (-exponent).toNat ≤ valueIn 10 significant

/-- A floating-point number with a fraction, an exponent or both, which is not too large. -/
def isFiniteFloat (unsigned : List Char) : Bool :=
  let (mantissa, exponent?) := cutAt (fun c => c == 'e' || c == 'E') unsigned
  let (whole, fraction?) := cutAt (· == '.') mantissa
  let exponentDigits? := match exponent? with
    | none => some []
    | some e => grouped? Char.isDigit (splitSign e).2
  let fractionDigits? := match fraction? with
    | none => some []
    | some f => grouped? Char.isDigit f
  match wholeDigits? whole, fractionDigits?, exponentDigits? with
  | some w, some f, some e =>
    let size : Int := valueIn 10 e
    let exponent := if (exponent?.map fun e => (splitSign e).1).getD false then -size else size
    (fraction?.isSome || exponent?.isSome) && !overflows (w ++ f) (exponent - f.length)
  | _, _, _ => false

/-- A floating-point number. -/
def isFloat (s : List Char) : Bool :=
  let unsigned := (splitSign s).2
  unsigned == "inf".toList || unsigned == "nan".toList || isFiniteFloat unsigned

/-! ### Points in time -/

/-- A number of the given count of digits, with bounds. -/
def fixed? (count least most : Nat) (s : List Char) : Option (Nat × List Char) :=
  let digits := s.take count
  if digits.length = count ∧ digits.all Char.isDigit then
    let n := valueIn 10 digits
    if least ≤ n ∧ n ≤ most then some (n, s.drop count) else none
  else none

/-- A text without a given character at its front. -/
def after? (c : Char) : List Char → Option (List Char)
  | d :: rest => if c = d then some rest else none
  | [] => none

/-- A year with a day more. -/
def isLeapYear (y : Nat) : Bool := (y % 4 == 0 && y % 100 != 0) || y % 400 == 0

/-- The number of days of a month. -/
def daysOf (year month : Nat) : Nat :=
  if month = 2 then (if isLeapYear year then 29 else 28)
  else if month = 4 ∨ month = 6 ∨ month = 9 ∨ month = 11 then 30
  else 31

/-- The text after a date. -/
def date? (s : List Char) : Option (List Char) := do
  let (year, s) ← fixed? 4 0 9999 s
  let s ← after? '-' s
  let (month, s) ← fixed? 2 1 12 s
  let s ← after? '-' s
  let (_, s) ← fixed? 2 1 (daysOf year month) s
  return s

/-- The text after the seconds of a time, which may be left out. -/
def seconds? : List Char → Option (List Char)
  | ':' :: s => do
    let (_, s) ← fixed? 2 0 60 s
    match s with
    | '.' :: s =>
      let rest := s.dropWhile Char.isDigit
      if rest.length = s.length then none else some rest
    | s => some s
  | s => some s

/-- The text after a time. -/
def time? (s : List Char) : Option (List Char) := do
  let (_, s) ← fixed? 2 0 23 s
  let s ← after? ':' s
  let (_, s) ← fixed? 2 0 59 s
  seconds? s

/-- The text is a distance from universal time, or empty. -/
def isOffset : List Char → Bool
  | [] | ['Z'] | ['z'] => true
  | '+' :: s | '-' :: s =>
    ((fixed? 2 0 23 s).bind fun (_, s) => (after? ':' s).bind (fixed? 2 0 59)).any fun (_, s) =>
      s.isEmpty
  | _ => false

/-- A date, a time, or a date with a time. -/
def isDateTime (s : List Char) : Bool :=
  match date? s with
  | none => (time? s).any List.isEmpty
  | some [] => true
  | some (c :: rest) => (c == 'T' || c == 't' || c == ' ') && (time? rest).any isOffset

end QualityGate.Toml
