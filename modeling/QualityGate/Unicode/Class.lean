import QualityGate.Unicode.Letters
import QualityGate.Unicode.Marks
import QualityGate.Unicode.Symbols

/-!
Character classes made of general categories. The ASCII part of each class is written out, so that
it can be read, and reasoned about, without the tables; the tables decide the other characters.

* `isWord_of_ascii`, `isAlphanumeric_of_ascii`: what the classes are on ASCII characters.
-/

namespace QualityGate.Unicode

/-- Characters below 128. -/
def isAscii (c : Char) : Bool := c.toNat < 128

/-- The letters and digits of ASCII. -/
def isAsciiAlphanumeric (c : Char) : Bool := c.isAlphanum

/-- Letters. -/
def isLetter (c : Char) : Bool :=
  if isAscii c then c.isAlpha
  else inSpans upperCase c || inSpans lowerCase c || inSpans titleCase c ||
    inSpans modifierLetter c || inSpans otherLetter c

/-- Marks. -/
def isMark (c : Char) : Bool :=
  !isAscii c && (inSpans nonspacingMark c || inSpans spacingMark c || inSpans enclosingMark c)

/-- Decimal digits. -/
def isDigit (c : Char) : Bool :=
  if isAscii c then c.isDigit else inSpans decimalDigit c

/-- Characters that count as letters in words. -/
def isAlphabetic (c : Char) : Bool :=
  if isAscii c then c.isAlpha
  else isLetter c || inSpans letterNumber c || inSpans otherAlphabetic c

/-- Alphabetic characters and all kinds of numbers. -/
def isAlphanumeric (c : Char) : Bool :=
  if isAscii c then isAsciiAlphanumeric c
  else isAlphabetic c || inSpans decimalDigit c || inSpans otherNumber c

/-- The characters of words: alphabetic characters, marks, decimal digits, connectors and the two
joiners. -/
def isWord (c : Char) : Bool :=
  if isAscii c then isAsciiAlphanumeric c || c == '_'
  else isAlphabetic c || isMark c || inSpans decimalDigit c || inSpans connectorPunctuation c ||
    c.toNat == 0x200C || c.toNat == 0x200D

/-- Characters that attach to the one before them. -/
def isGraphemeExtend (c : Char) : Bool :=
  !isAscii c &&
    (inSpans nonspacingMark c || inSpans enclosingMark c || inSpans otherGraphemeExtend c)

/-- Characters with a visible form of their own, and the space. -/
def isPrintable (c : Char) : Bool :=
  if isAscii c then 0x20 ≤ c.toNat && c.toNat < 0x7F
  else isLetter c || isMark c || inSpans decimalDigit c || inSpans letterNumber c ||
    inSpans otherNumber c || inSpans connectorPunctuation c || inSpans dashPunctuation c ||
    inSpans openPunctuation c || inSpans closePunctuation c || inSpans initialPunctuation c ||
    inSpans finalPunctuation c || inSpans otherPunctuation c || inSpans mathSymbol c ||
    inSpans currencySymbol c || inSpans modifierSymbol c || inSpans otherSymbol c

/-- An ASCII character of words is a letter, a digit or the underscore. -/
theorem isWord_of_ascii {c : Char} (h : isAscii c = true) :
    isWord c = (c.isAlphanum || c == '_') := by
  simp [isWord, h, isAsciiAlphanumeric]

/-- An ASCII alphanumeric character is a letter or a digit. -/
theorem isAlphanumeric_of_ascii {c : Char} (h : isAscii c = true) :
    isAlphanumeric c = c.isAlphanum := by
  simp [isAlphanumeric, h, isAsciiAlphanumeric]

end QualityGate.Unicode
