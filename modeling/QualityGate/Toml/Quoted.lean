import QualityGate.Text.Numeral

/-!
Quoted strings of TOML documents: basic strings with escapes and literal strings without, on one
line or over several lines.

* `string?`: the string at the front of a text, and the text after it.
-/

namespace QualityGate.Toml

/-- White space inside a line. -/
def isBlank (c : Char) : Bool := c == ' ' || c == '\t'

/-- Control characters, which stand nowhere in a document except as tabs and line ends. -/
def isControl (c : Char) : Bool := (c.toNat < 0x20 && c != '\t') || c.toNat == 0x7F

/-- The value of a hexadecimal digit. -/
def hexValue? (c : Char) : Option Nat :=
  if '0' ≤ c ∧ c ≤ '9' then some (c.toNat - '0'.toNat)
  else if 'a' ≤ c ∧ c ≤ 'f' then some (c.toNat - 'a'.toNat + 10)
  else if 'A' ≤ c ∧ c ≤ 'F' then some (c.toNat - 'A'.toNat + 10)
  else none

/-- The value of hexadecimal digits. -/
def hexNumber? (digits : List Char) : Option Nat :=
  digits.foldl (fun n? c => n?.bind fun n => (hexValue? c).map (n * 16 + ·)) (some 0)

/-- The character whose number hexadecimal digits give. -/
def hexChar? (digits : List Char) : Option Char :=
  (hexNumber? digits).bind fun n => if n.isValidChar then some (Char.ofNat n) else none

/-- The character that a letter stands for after a backslash. -/
def escaped? : Char → Option Char
  | 'b' => some '\x08'
  | 't' => some '\t'
  | 'n' => some '\n'
  | 'f' => some '\x0c'
  | 'r' => some '\r'
  | 'e' => some '\x1b'
  | '"' => some '"'
  | '\\' => some '\\'
  | _ => none

/-- What has been read, with one more character before it. -/
def consRead (c : Char) (read : Option (List Char × List Char)) :
    Option (List Char × List Char) :=
  read.map fun (s, rest) => (c :: s, rest)

/-- A character that may be missing, before what has been read. -/
def consEscape (c? : Option Char) (read : Option (List Char × List Char)) :
    Option (List Char × List Char) :=
  c?.bind fun c => consRead c read

/-- The rest of a basic string on one line. -/
def basic? : List Char → Option (List Char × List Char)
  | [] => none
  | '"' :: rest => some ([], rest)
  | '\\' :: 'x' :: a :: b :: rest => consEscape (hexChar? [a, b]) (basic? rest)
  | '\\' :: 'u' :: a :: b :: c :: d :: rest => consEscape (hexChar? [a, b, c, d]) (basic? rest)
  | '\\' :: 'U' :: a :: b :: c :: d :: e :: f :: g :: h :: rest =>
    consEscape (hexChar? [a, b, c, d, e, f, g, h]) (basic? rest)
  | '\\' :: c :: rest => consEscape (escaped? c) (basic? rest)
  | c :: rest => if isControl c then none else consRead c (basic? rest)

/-- The rest of a literal string on one line. -/
def literal? : List Char → Option (List Char × List Char)
  | [] => none
  | '\'' :: rest => some ([], rest)
  | c :: rest => if isControl c then none else consRead c (literal? rest)

/-- The end of a string over several lines: up to two quotes before the closing ones belong to the
string. The text starts after three quotes. -/
def closeLines (quote : Char) : List Char → List Char × List Char
  | a :: b :: rest =>
    if a = quote then (if b = quote then ([a, b], rest) else ([a], b :: rest))
    else ([], a :: b :: rest)
  | [a] => if a = quote then ([a], []) else ([], [a])
  | [] => ([], [])

/-- A backslash before this text stands at the end of a line. -/
def endsLine (s : List Char) : Bool :=
  match s.dropWhile isBlank with
  | '\n' :: _ | '\r' :: '\n' :: _ => true
  | _ => false

/-- The rest of a basic string over several lines. A backslash at the end of a line takes all white
space up to the next character out of the string; `skips` says that such a backslash came before. -/
def basicLines? (skips : Bool) : List Char → Option (List Char × List Char)
  | [] => none
  | '"' :: '"' :: '"' :: rest => some (closeLines '"' rest)
  | '\n' :: rest =>
    if skips then basicLines? true rest else consRead '\n' (basicLines? false rest)
  | '\r' :: '\n' :: rest =>
    if skips then basicLines? true rest
    else consRead '\r' (consRead '\n' (basicLines? false rest))
  | '\\' :: 'x' :: a :: b :: rest => consEscape (hexChar? [a, b]) (basicLines? false rest)
  | '\\' :: 'u' :: a :: b :: c :: d :: rest =>
    consEscape (hexChar? [a, b, c, d]) (basicLines? false rest)
  | '\\' :: 'U' :: a :: b :: c :: d :: e :: f :: g :: h :: rest =>
    consEscape (hexChar? [a, b, c, d, e, f, g, h]) (basicLines? false rest)
  | '\\' :: c :: rest =>
    if endsLine (c :: rest) then
      (if c = '\n' ∨ c = '\r' ∨ isBlank c then basicLines? true rest else none)
    else consEscape (escaped? c) (basicLines? false rest)
  | c :: rest =>
    if skips && isBlank c then basicLines? true rest
    else if isControl c then none
    else consRead c (basicLines? false rest)

/-- The rest of a literal string over several lines. -/
def literalLines? : List Char → Option (List Char × List Char)
  | [] => none
  | '\'' :: '\'' :: '\'' :: rest => some (closeLines '\'' rest)
  | '\n' :: rest => consRead '\n' (literalLines? rest)
  | '\r' :: '\n' :: rest => consRead '\r' (consRead '\n' (literalLines? rest))
  | c :: rest => if isControl c then none else consRead c (literalLines? rest)

/-- A text without a line end at its front. -/
def dropLineEnd : List Char → List Char
  | '\n' :: rest => rest
  | '\r' :: '\n' :: rest => rest
  | s => s

/-- The string on one line at the front of a text, and the text after it. -/
def lineString? : List Char → Option (List Char × List Char)
  | '"' :: rest => basic? rest
  | '\'' :: rest => literal? rest
  | _ => none

/-- The string at the front of a text, and the text after it. -/
def string? : List Char → Option (List Char × List Char)
  | '"' :: '"' :: '"' :: rest => basicLines? false (dropLineEnd rest)
  | '\'' :: '\'' :: '\'' :: rest => literalLines? (dropLineEnd rest)
  | s => lineString? s

end QualityGate.Toml
