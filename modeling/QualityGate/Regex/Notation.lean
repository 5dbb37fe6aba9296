import QualityGate.Regex.Basic
import QualityGate.Regex.Property

/-!
The notation of regular expressions: literals, classes, groups, choices, loops, conditions and
flags. `Regex.ofText?` reads a text in this notation and gives nothing for a text that is none, that
nests too deeply or that stands for too large an expression, by an estimate of its size.

Reading goes from left to right, and each step uses up some text, so the length of the text bounds
the number of steps.
-/

namespace QualityGate.Regex

/-! ### Flags -/

/-- What the flags say at a point of the text. -/
structure Flags where
  /-- `i`: letters match in both cases. -/
  caseless : Bool
  /-- `m`: the anchors match at lines. -/
  multiLine : Bool
  /-- `s`: the dot matches line feeds too. -/
  dotAll : Bool
  /-- `U`: loops are lazy unless marked. -/
  swapGreed : Bool
  /-- `u`: classes are those of the Unicode standard, else those of ASCII. -/
  unicode : Bool
  /-- `R`: carriage returns end lines too. -/
  crlf : Bool
  /-- `x`: white space and comments do not count. -/
  verbose : Bool
  deriving DecidableEq, Repr

/-- The flags at the start. -/
def Flags.initial : Flags := ⟨false, false, false, false, true, false, false⟩

/-- The flags after one of them was switched. -/
def Flags.set (f : Flags) (on : Bool) : Char → Flags
  | 'i' => { f with caseless := on }
  | 'm' => { f with multiLine := on }
  | 's' => { f with dotAll := on }
  | 'U' => { f with swapGreed := on }
  | 'u' => { f with unicode := on }
  | 'R' => { f with crlf := on }
  | 'x' => { f with verbose := on }
  | _ => f

/-- The letters of flags. -/
def isFlag (c : Char) : Bool := "imsUuRx".toList.contains c

/-- Where nothing counts: white space, and comments up to the end of their line. -/
def skipVerbose : List Char → List Char
  | [] => []
  | '#' :: rest => skipComment rest
  | c :: rest => if Text.isBlank c then skipVerbose rest else c :: rest
where
  /-- The text after a comment. -/
  skipComment : List Char → List Char
  | [] => []
  | c :: rest => if c = '\n' then skipVerbose rest else skipComment rest

/-- The text from the next character on that counts. -/
def Flags.skip (f : Flags) (s : List Char) : List Char := if f.verbose then skipVerbose s else s

/-! ### Classes and single characters -/

/-- The class of words. -/
def Flags.word (f : Flags) : CharSet :=
  if f.unicode then .ofClass .word
  else .unionAll [.range 'a' 'z', .range 'A' 'Z', .range '0' '9', .single '_']

/-- A set in both cases, if letters match so. -/
def Flags.fold (f : Flags) (s : CharSet) : CharSet :=
  if f.caseless then (if f.unicode then .folded s else .foldedAscii s) else s

/-- The complement of a set. It would hold no more than ASCII where only that can match. -/
def Flags.negate? (f : Flags) (negated : Bool) (s : CharSet) : Option CharSet :=
  if negated then (if f.unicode then some (.not s) else none) else some s

/-- The class that the letter after a backslash stands for. -/
def Flags.letterClass? (f : Flags) (c : Char) : Option CharSet :=
  match c.toLower with
  | 'w' => f.negate? (c == 'W') f.word
  | 'd' => f.negate? (c == 'D') (if f.unicode then .ofClass .digit else .range '0' '9')
  | 's' => f.negate? (c == 'S')
      (if f.unicode then .ofClass .blank else .ofList [' ', '\t', '\n', '\x0b', '\x0c', '\r'])
  | _ => none

/-- The classes with a name of their own in brackets. -/
def bracketClass? (name : List Char) : Option CharSet :=
  let upper : CharSet := .range 'A' 'Z'
  let lower : CharSet := .range 'a' 'z'
  let digit : CharSet := .range '0' '9'
  match String.ofList name with
  | "alnum" => some (.unionAll [upper, lower, digit])
  | "alpha" => some (.union upper lower)
  | "ascii" => some (.range '\x00' '\x7f')
  | "blank" => some (.ofList ['\t', ' '])
  | "cntrl" => some (.union (.range '\x00' '\x1f') (.single '\x7f'))
  | "digit" => some digit
  | "graph" => some (.range '!' '~')
  | "lower" => some lower
  | "print" => some (.range ' ' '~')
  | "punct" =>
    some (.unionAll [.range '!' '/', .range ':' '@', .range '[' '\x60', .range '\x7b' '~'])
  | "space" => some (.ofList ['\t', '\n', '\x0b', '\x0c', '\r', ' '])
  | "upper" => some upper
  | "word" => some (.unionAll [upper, lower, digit, .single '_'])
  | "xdigit" => some (.unionAll [digit, .range 'A' 'F', .range 'a' 'f'])
  | _ => none

/-- What a single item stands for. -/
inductive Item where
  /-- A character, and whether it was given as a byte. -/
  | char (c : Char) (byte : Bool)
  | set (s : CharSet)
  | look (l : Look)
  deriving Repr

/-- The value of a hexadecimal digit. -/
def hexValue? (c : Char) : Option Nat :=
  if c.isDigit then some (c.toNat - '0'.toNat)
  else if 'a' ≤ c ∧ c ≤ 'f' then some (c.toNat - 'a'.toNat + 10)
  else if 'A' ≤ c ∧ c ≤ 'F' then some (c.toNat - 'A'.toNat + 10)
  else none

/-- The number that hexadecimal digits stand for. -/
def hexNumber? (digits : List Char) : Option Nat :=
  digits.foldl (fun n d => n.bind fun n => (hexValue? d).map fun v => n * 16 + v) (some 0)

/-- The character with the given code. -/
def charOfCode? (n : Nat) : Option Char := if n.isValidChar then some (Char.ofNat n) else none

/-- A character given by its code: so many digits, or any number of them in braces. -/
def hexItem? (f : Flags) (digits : Nat) (s : List Char) : Option (Item × List Char) :=
  match f.skip s with
  | '{' :: rest =>
    let inside := (rest.filter fun c => !(f.verbose && Text.isBlank c)).takeWhile (· != '\x7d')
    match rest.dropWhile (· != '\x7d') with
    | _ :: after =>
      if inside.isEmpty then none
      else ((hexNumber? inside).bind charOfCode?).map fun c => (.char c false, after)
    | [] => none
  | s =>
    let code := s.take digits
    if code.length < digits then none
    else ((hexNumber? code).bind charOfCode?).map fun c =>
      (.char c (digits == 2 && c.toNat ≥ 128), s.drop digits)

/-- A class given by a property: one letter, or a name in braces. -/
def propertyItem? (f : Flags) (negated : Bool) (s : List Char) : Option (Item × List Char) :=
  let finish (name after : List Char) : Option (Item × List Char) :=
    if f.unicode then
      (namedSet? name).map fun set =>
        let set := f.fold set
        (.set (if negated then .not set else set), after)
    else none
  match f.skip s with
  | [] => none
  | '{' :: rest =>
    match rest.dropWhile (· != '\x7d') with
    | _ :: after => finish (rest.takeWhile (· != '\x7d')) after
    | [] => none
  | c :: rest => if c = '\\' then none else finish [c] rest

/-- The condition that a word in braces after a word boundary stands for. -/
def wordLook? (w : CharSet) (name : List Char) : Option Look :=
  match String.ofList name with
  | "start" => some (.wordStart w)
  | "end" => some (.wordEnd w)
  | "start-half" => some (.wordStartHalf w)
  | "end-half" => some (.wordEndHalf w)
  | _ => none

/-- A word boundary, to which a word in braces may belong. -/
def boundaryItem? (f : Flags) (s : List Char) : Option (Item × List Char) :=
  let plain : Item := .look (.wordBoundary f.word)
  let isLetter (c : Char) : Bool := c.isAlpha || c == '-'
  match s with
  | '{' :: rest =>
    match f.skip rest with
    | [] => none
    | c :: inside =>
      if isLetter c then
        match (c :: inside).dropWhile isLetter with
        | '\x7d' :: after =>
          (wordLook? f.word ((c :: inside).takeWhile isLetter)).map fun l => (.look l, after)
        | _ => none
      else some (plain, s)
  | _ => some (plain, s)

/-- Characters that a backslash takes their meaning from. -/
def isEscapable (c : Char) : Bool :=
  Unicode.isAscii c && !c.isAlphanum && c != '<' && c != '>'

/-- What a backslash and the text after it stand for. -/
def escapeItem? (f : Flags) : List Char → Option (Item × List Char)
  | [] => none
  | c :: rest =>
    if isEscapable c then some (.char c false, rest)
    else match c with
      | 'x' => hexItem? f 2 rest
      | 'u' => hexItem? f 4 rest
      | 'U' => hexItem? f 8 rest
      | 'p' => propertyItem? f false rest
      | 'P' => propertyItem? f true rest
      | 'w' | 'W' | 'd' | 'D' | 's' | 'S' => (f.letterClass? c).map fun s => (.set s, rest)
      | 'a' => some (.char '\x07' false, rest)
      | 'f' => some (.char '\x0c' false, rest)
      | 't' => some (.char '\t' false, rest)
      | 'n' => some (.char '\n' false, rest)
      | 'r' => some (.char '\r' false, rest)
      | 'v' => some (.char '\x0b' false, rest)
      | 'A' => some (.look .textStart, rest)
      | 'z' => some (.look .textEnd, rest)
      | 'b' => boundaryItem? f rest
      | 'B' => some (.look (.notWordBoundary f.word), rest)
      | '<' => some (.look (.wordStart f.word), rest)
      | '>' => some (.look (.wordEnd f.word), rest)
      | _ => none

/-! ### Classes in brackets -/

/-- An operation between two classes in brackets. -/
inductive SetOperation where
  | inter
  | diff
  | symmDiff
  deriving DecidableEq, Repr

/-- The class left of an operation, the operation, and the class right of it. -/
def combine (f : Flags) (left : Option (CharSet × SetOperation)) (right : CharSet) : CharSet :=
  match left with
  | none => right
  | some (l, .inter) => .inter (f.fold l) (f.fold right)
  | some (l, .diff) => .diff (f.fold l) (f.fold right)
  | some (l, .symmDiff) => .symmDiff (f.fold l) (f.fold right)

/-- A named class in brackets of its own: its set and the text after it. -/
def namedBracket? (f : Flags) (s : List Char) : Option (Option CharSet × List Char) :=
  match s with
  | ':' :: rest =>
    let negated := rest.head? == some '^'
    let rest := if negated then rest.drop 1 else rest
    match rest.dropWhile (· != ':') with
    | ':' :: ']' :: after =>
      (bracketClass? (rest.takeWhile (· != ':'))).map fun set =>
        (f.negate? negated (f.fold set), after)
    | _ => none
  | _ => none

/-- One item of a class in brackets. -/
def classItem? (f : Flags) : List Char → Option (Item × List Char)
  | [] => none
  | '\\' :: rest => escapeItem? f rest
  | c :: rest => some (.char c false, rest)

/-- A character in a class in brackets, which has to be ASCII where only that can match. -/
def classChar? (f : Flags) : Item → Option Char
  | .char c _ => if f.unicode || Unicode.isAscii c then some c else none
  | _ => none

/-- The set that an item of a class in brackets stands for. -/
def classItemSet? (f : Flags) : Item → Option CharSet
  | .set s => some s
  | i => (classChar? f i).map .single

/-- One item of a class in brackets or a range between two of them. -/
def classRange? (f : Flags) (s : List Char) : Option (CharSet × List Char) := do
  let (first, rest) ← classItem? f s
  match f.skip rest with
  | [] => none
  | '-' :: more =>
    match f.skip more with
    | [] => none
    | ']' :: _ | '-' :: _ => (classItemSet? f first).map fun set => (set, '-' :: more)
    | more =>
      let (last, after) ← classItem? f more
      let a ← classChar? f first
      let b ← classChar? f last
      if a.toNat ≤ b.toNat then some (.range a b, after) else none
  | rest => (classItemSet? f first).map fun set => (set, rest)

/-- The hyphens, or else the closing bracket, that stand for themselves at the start of a class. -/
def classFront (f : Flags) : List Char → CharSet × List Char
  | '-' :: rest =>
    let hyphens := (rest.takeWhile fun c => c == '-' || (f.verbose && Text.isBlank c)).length
    (.single '-', f.skip (rest.drop hyphens))
  | ']' :: rest => (.single ']', f.skip rest)
  | s => (.empty, s)

mutual

/-- The rest of a class in brackets, given what was read of it: its set, how deeply it nests, and
the text after it. -/
def classRest? : Nat → Flags → Option (CharSet × SetOperation) → CharSet → Nat → List Char →
    Option (CharSet × Nat × List Char)
  | 0, _, _, _, _, _ => none
  | fuel + 1, f, left, set, depth, s =>
    match f.skip s with
    | [] => none
    | ']' :: rest => some (combine f left set, depth, rest)
    | '&' :: '&' :: rest =>
      classRest? fuel f (some (combine f left set, .inter)) .empty (depth + 1) rest
    | '-' :: '-' :: rest =>
      classRest? fuel f (some (combine f left set, .diff)) .empty (depth + 1) rest
    | '~' :: '~' :: rest =>
      classRest? fuel f (some (combine f left set, .symmDiff)) .empty (depth + 1) rest
    | '[' :: rest =>
      match namedBracket? f rest with
      | some (some named, after) => classRest? fuel f left (.union set named) depth after
      | some (none, _) => none
      | none =>
        match bracket? fuel f rest with
        | some (inner, innerDepth, after) =>
          classRest? fuel f left (.union set inner) (max depth innerDepth) after
        | none => none
    | s =>
      match classRange? f s with
      | some (more, after) => classRest? fuel f left (.union set more) depth after
      | none => none

/-- A class in brackets, from after its opening bracket. -/
def bracket? : Nat → Flags → List Char → Option (CharSet × Nat × List Char)
  | 0, _, _ => none
  | fuel + 1, f, s =>
    let s := f.skip s
    let negated := s.head? == some '^'
    let s := if negated then f.skip (s.drop 1) else s
    let (front, s) := classFront f s
    match classRest? fuel f none front 0 s with
    | some (set, depth, after) =>
      (f.negate? negated (f.fold set)).map fun set => (set, depth + 1, after)
    | none => none

end

/-! ### Loops -/

/-- A decimal number below `2^32`, with white space around it, and the text after it. -/
def count? (s : List Char) : Option (Nat × List Char) :=
  let s := Text.trimStart s
  let digits := s.takeWhile Char.isDigit
  let n := digits.foldl (fun n d => n * 10 + (d.toNat - '0'.toNat)) 0
  if digits.isEmpty ∨ n ≥ Nat.pow 2 32 then none
  else some (n, Text.trimStart (s.dropWhile Char.isDigit))

/-- The limits of a loop, from after the opening brace. -/
def limits? (f : Flags) (s : List Char) : Option (Nat × Option Nat × List Char) := do
  let (least, s) ← count? (f.skip s)
  match s with
  | '\x7d' :: rest => some (least, some least, rest)
  | ',' :: rest =>
    match f.skip rest with
    | '\x7d' :: rest => some (least, none, rest)
    | rest =>
      let (most, s) ← count? rest
      match s with
      | '\x7d' :: rest => if least ≤ most then some (least, some most, rest) else none
      | _ => none
  | _ => none

/-- The loop mark in front of a text, if there is one: its limits and the text after it. -/
def loopMark? (f : Flags) : List Char → Option (Option (Nat × Option Nat × List Char))
  | '*' :: rest => some (some (0, none, rest))
  | '+' :: rest => some (some (1, none, rest))
  | '?' :: rest => some (some (0, some 1, rest))
  | '{' :: rest => some (limits? f rest)
  | _ => none

/-! ### Sequences, choices and groups -/

/-- A part of a sequence. Flags are parts that match nothing and cannot be repeated. -/
structure Part where
  regex : Regex
  /-- How deeply the part nests. -/
  depth : Nat
  isFlags : Bool
  deriving Repr

/-- The expression that loops over another one. -/
def loopOf (r : Regex) (least : Nat) (most : Option Nat) (greedy : Bool) : Regex :=
  match r with
  | .chars set => .run set least most greedy
  | r => .loop r least most greedy

/-- The expression of a sequence, whose parts are given last one first. -/
def sequenceOf : List Part → Part
  | [] => ⟨.empty, 0, false⟩
  | [p] => p
  | parts =>
    ⟨(parts.map Part.regex).foldl (fun after r => match after with
      | .empty => r
      | after => .seq r after) .empty,
     (parts.map Part.depth).foldl max 0 + 1, false⟩

/-- The expression of a choice, whose branches are given last one first. -/
def choiceOf : List Part → Part
  | [] => ⟨.empty, 0, false⟩
  | [p] => p
  | last :: branches =>
    ⟨branches.foldl (fun later p => .alt p.regex later) last.regex,
     ((last :: branches).map Part.depth).foldl max 0 + 1, false⟩

/-- The flags before a colon or a closing parenthesis: the flags after them, the text from that
character on, and whether there were any. -/
def flags? : Nat → Flags → List Char → Bool → Bool → List Char →
    Option (Flags × List Char × Bool)
  | 0, _, _, _, _, _ => none
  | fuel + 1, f, seen, negated, dangling, s =>
    match s with
    | [] => none
    | c :: rest =>
      if c = ':' ∨ c = ')' then (if dangling then none else some (f, s, !seen.isEmpty || negated))
      else if c = '-' then (if negated then none else flags? fuel f seen true true rest)
      else if isFlag c && !seen.contains c then
        flags? fuel (f.set (!negated) c) (c :: seen) negated false rest
      else none

/-- The name of a group, from after the opening angle bracket, and the text after it. -/
def groupName? (s : List Char) : Option (List Char × List Char) :=
  let name := s.takeWhile (· != '>')
  let isFirst (c : Char) : Bool := c == '_' || Unicode.isAlphabetic c
  let isLater (c : Char) : Bool :=
    c == '_' || c == '.' || c == '[' || c == ']' || Unicode.isAlphanumeric c
  match name, s.dropWhile (· != '>') with
  | c :: cs, _ :: after => if isFirst c && cs.all isLater then some (name, after) else none
  | _, _ => none

/-- How a group opens. -/
inductive GroupStart where
  /-- Flags for the rest of the group around. -/
  | flags (f : Flags)
  /-- A group with the flags that hold in it and its name, if it has one. -/
  | group (f : Flags) (name : Option (List Char))

/-- The opening of a group, from after its parenthesis, and the text after it. -/
def groupStart? (f : Flags) (s : List Char) : Option (GroupStart × List Char) :=
  match f.skip s with
  | '?' :: 'P' :: '<' :: rest => (groupName? rest).map fun (n, after) => (.group f (some n), after)
  | '?' :: '<' :: rest =>
    if rest.head? == some '=' || rest.head? == some '!' then none
    else (groupName? rest).map fun (n, after) => (.group f (some n), after)
  | '?' :: rest =>
    match flags? (rest.length + 1) f [] false false rest with
    | some (g, ':' :: after, _) => some (.group g none, after)
    | some (g, ')' :: after, true) => some (.flags g, after)
    | _ => none
  | s => some (.group f none, s)

/-- The expression that a single item stands for. -/
def itemRegex? (f : Flags) : Item → Option Regex
  | .char c byte =>
    if byte && !f.unicode then none else some (.chars (f.fold (.single c)))
  | .set s => some (.chars s)
  | .look l => some (.look l)

/-- One item outside of brackets. -/
def item? (f : Flags) : List Char → Option (Regex × List Char)
  | [] => none
  | '\\' :: rest => do
    let (i, after) ← escapeItem? f rest
    let r ← itemRegex? f i
    some (r, after)
  | '.' :: rest =>
    if !f.unicode then none
    else if f.dotAll then some (.chars .all, rest)
    else if f.crlf then some (.chars (.not (.ofList ['\r', '\n'])), rest)
    else some (.chars (.allBut '\n'), rest)
  | '^' :: rest =>
    some (.look (if f.multiLine then (if f.crlf then .lineStartCRLF else .lineStart) else .textStart),
      rest)
  | '$' :: rest =>
    some (.look (if f.multiLine then (if f.crlf then .lineEndCRLF else .lineEnd) else .textEnd), rest)
  | c :: rest => (itemRegex? f (.char c false)).map fun r => (r, rest)

/-- The rest of a group or of the whole text: the expression, the names of groups so far and the
text after it. Branches before the current one and the parts of the current one are given last one
first. -/
def groupRest? : Nat → (inGroup : Bool) → Flags → (names : List (List Char)) →
    (branches parts : List Part) → List Char → Option (Part × List (List Char) × List Char)
  | 0, _, _, _, _, _, _ => none
  | fuel + 1, inGroup, f, names, branches, parts, s =>
    match f.skip s with
    | [] => if inGroup then none else some (choiceOf (sequenceOf parts :: branches), names, [])
    | ')' :: rest =>
      if inGroup then some (choiceOf (sequenceOf parts :: branches), names, rest) else none
    | '|' :: rest => groupRest? fuel inGroup f names (sequenceOf parts :: branches) [] rest
    | '(' :: rest =>
      match groupStart? f rest with
      | none => none
      | some (.flags g, after) =>
        groupRest? fuel inGroup g names branches (⟨.empty, 0, true⟩ :: parts) after
      | some (.group g name, after) =>
        if name.any names.contains then none
        else
          match groupRest? fuel true g (name.toList ++ names) [] [] after with
          | none => none
          | some (inner, names, after) =>
            groupRest? fuel inGroup f names branches
              (⟨inner.regex, inner.depth + 1, false⟩ :: parts) after
    | '[' :: rest =>
      match bracket? fuel f rest with
      | none => none
      | some (set, depth, after) =>
        groupRest? fuel inGroup f names branches (⟨.chars set, depth, false⟩ :: parts) after
    | s =>
      match loopMark? f s with
      | some none => none
      | some (some (least, most, rest)) =>
        let rest := f.skip rest
        let lazy := rest.head? == some '?'
        match parts with
        | [] => none
        | p :: before =>
          if p.isFlags then none
          else
            groupRest? fuel inGroup f names branches
              (⟨loopOf p.regex least most (lazy == f.swapGreed), p.depth + 1, false⟩ :: before)
              (if lazy then rest.drop 1 else rest)
      | none =>
        match item? f s with
        | none => none
        | some (r, after) =>
          groupRest? fuel inGroup f names branches (⟨r, 0, false⟩ :: parts) after

/-! ### Limits

An expression is refused if the automaton that it would be compiled to takes more than ten mebibytes.
No automaton is built here, and its room is not counted but estimated, in bytes. A set within ASCII is
one state of 32 bytes; any other range is a chain of states, one for each byte of a character, of 200
bytes in all. A class is charged about 40 bytes for each of its spans, and less in the great classes,
where the bytes of many characters end alike. A loop is written out up to its greater limit. So close
to the limit the estimate can refuse what an exact count lets pass, and the other way round. -/

/-- Expressions nest at most so deeply. -/
def maxDepth : Nat := 250

/-- The room that a set of characters is estimated to take. -/
def CharSet.weight : CharSet → Nat
  | .empty => 32
  | .range _ last => if Unicode.isAscii last then 32 else 200
  | .ofClass .digit => 2500
  | .ofClass .blank => 400
  | .ofClass (.spans list) => 40 * list.length
  | .ofClass _ => 18000
  | .not s => s.weight + 400
  | .union s t => max s.weight t.weight + 8
  | .inter s t => s.weight + t.weight
  | .folded s => s.weight + 32
  | .foldedAscii s => s.weight + 32

/-- The room that an expression is estimated to take when its loops are written out. -/
def weight : Regex → Nat
  | .empty => 32
  | .chars s => s.weight
  | .run s least most _ => s.weight * max 1 (most.getD least) + 32
  | .look _ => 32
  | .seq a b => a.weight + b.weight
  | .alt a b => a.weight + b.weight + 32
  | .loop r least most _ => r.weight * max 1 (most.getD least) + 32

/-- Expressions take at most so much room. -/
def maxWeight : Nat := 10 * Nat.pow 2 20

/-- The expression that a text stands for. -/
def ofText? (s : List Char) : Option Regex :=
  match groupRest? (s.length + 1) false .initial [] [] [] s with
  | some (p, _, _) => if p.depth ≤ maxDepth ∧ p.regex.weight ≤ maxWeight then some p.regex else none
  | none => none

end QualityGate.Regex
