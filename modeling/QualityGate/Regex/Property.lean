import QualityGate.Regex.CharSet

/-!
The names of character properties. Names are compared without regard to case, spaces, underscores
and hyphens, and a leading `is` does not count.

Known are the general categories and the properties of `propertySet?`. The names of scripts, of
versions, of kinds of breaks and of the remaining properties are not, and a class that is given by one
of them is refused.
-/

namespace QualityGate.Regex

open Unicode

/-- A property name in the form in which names are compared. -/
def normalizeName (s : List Char) : List Char :=
  let kept := ((s.filter isAscii).filter fun c => !(c == ' ' || c == '_' || c == '-')).map
    Char.toLower
  if "is".toList.isPrefixOf kept && kept != "isc".toList then kept.drop 2 else kept

/-- The general categories of one character class each, by their names. -/
def categorySpans : List (List String × List Span) :=
  [(["lu", "uppercaseletter"], upperCase), (["ll", "lowercaseletter"], lowerCase),
   (["lt", "titlecaseletter"], titleCase), (["lm", "modifierletter"], modifierLetter),
   (["lo", "otherletter"], otherLetter), (["mn", "nonspacingmark"], nonspacingMark),
   (["mc", "spacingmark"], spacingMark), (["me", "enclosingmark"], enclosingMark),
   (["nd", "decimalnumber", "digit"], decimalDigit), (["nl", "letternumber"], letterNumber),
   (["no", "othernumber"], otherNumber), (["pc", "connectorpunctuation"], connectorPunctuation),
   (["pd", "dashpunctuation"], dashPunctuation), (["ps", "openpunctuation"], openPunctuation),
   (["pe", "closepunctuation"], closePunctuation),
   (["pi", "initialpunctuation"], initialPunctuation),
   (["pf", "finalpunctuation"], finalPunctuation),
   (["po", "otherpunctuation"], otherPunctuation), (["sm", "mathsymbol"], mathSymbol),
   (["sc", "currencysymbol"], currencySymbol), (["sk", "modifiersymbol"], modifierSymbol),
   (["so", "othersymbol"], otherSymbol), (["zs", "spaceseparator"], spaceSeparator),
   (["zl", "lineseparator"], lineSeparator), (["zp", "paragraphseparator"], paragraphSeparator),
   (["cc", "control", "cntrl"], control), (["cf", "format"], format)]

/-- The groups of general categories: their names and the first letter of their members. -/
def categoryGroups : List (List String × Char) :=
  [(["l", "letter"], 'l'), (["m", "mark", "combiningmark"], 'm'), (["n", "number"], 'n'),
   (["p", "punctuation", "punct"], 'p'), (["s", "symbol"], 's'), (["z", "separator"], 'z')]

/-- The set with some spans. -/
def ofSpans (spans : List Span) : CharSet := .ofClass (.spans spans)

/-- All characters that have a general category of their own in the tables. -/
def assigned : CharSet := .unionAll (categorySpans.map fun c => ofSpans c.2)

/-- The characters that a general category has. -/
def categorySet? (name : List Char) : Option CharSet :=
  let named (names : List String) : Bool := names.any fun n => n.toList == name
  match categorySpans.find? fun c => named c.1 with
  | some c => some (ofSpans c.2)
  | none =>
    match categoryGroups.find? fun g => named g.1 with
    | some g => some (.unionAll ((categorySpans.filter fun c =>
        c.1.head?.any fun n => n.toList.head? == some g.2).map fun c => ofSpans c.2))
    | none =>
      if named ["any"] then some .all
      else if named ["ascii"] then some (.range '\x00' '\x7f')
      else if named ["assigned"] then some assigned
      else if named ["lc", "casedletter"] then
        some (.unionAll [ofSpans upperCase, ofSpans lowerCase, ofSpans titleCase])
      else if named ["cn", "unassigned"] then
        some (.diff (.not assigned) (.range '\ue000' '\uf8ff'))
      else if named ["co", "privateuse"] then some (.range '\ue000' '\uf8ff')
      else if named ["c", "other"] then
        some (.union (.not assigned) (.union (ofSpans control) (ofSpans format)))
      else none

/-- Upper case characters that are no upper case letters. -/
def otherUpperCase : List Span :=
  [⟨0x2160, 0x216F, 1⟩, ⟨0x24B6, 0x24CF, 1⟩, ⟨0x1F130, 0x1F149, 1⟩, ⟨0x1F150, 0x1F169, 1⟩,
   ⟨0x1F170, 0x1F189, 1⟩]

/-- Lower case characters that are no lower case letters. -/
def otherLowerCase : List Span :=
  [⟨0xAA, 0xAA, 1⟩, ⟨0xBA, 0xBA, 1⟩, ⟨0x2B0, 0x2B8, 1⟩, ⟨0x2C0, 0x2C1, 1⟩, ⟨0x2E0, 0x2E4, 1⟩,
   ⟨0x345, 0x345, 1⟩, ⟨0x37A, 0x37A, 1⟩, ⟨0x10FC, 0x10FC, 1⟩, ⟨0x1D2C, 0x1D6A, 1⟩,
   ⟨0x1D78, 0x1D78, 1⟩, ⟨0x1D9B, 0x1DBF, 1⟩, ⟨0x2071, 0x2071, 1⟩, ⟨0x207F, 0x207F, 1⟩,
   ⟨0x2090, 0x209C, 1⟩, ⟨0x2170, 0x217F, 1⟩, ⟨0x24D0, 0x24E9, 1⟩, ⟨0x2C7C, 0x2C7D, 1⟩,
   ⟨0xA69C, 0xA69D, 1⟩, ⟨0xA770, 0xA770, 1⟩, ⟨0xA7F2, 0xA7F4, 1⟩, ⟨0xA7F8, 0xA7F9, 1⟩,
   ⟨0xAB5C, 0xAB5F, 1⟩, ⟨0xAB69, 0xAB69, 1⟩, ⟨0x10780, 0x10780, 1⟩, ⟨0x10783, 0x10785, 1⟩,
   ⟨0x10787, 0x107B0, 1⟩, ⟨0x107B2, 0x107BA, 1⟩, ⟨0x1E030, 0x1E06D, 1⟩]

/-- The characters with a property that holds or does not. -/
def propertySet? (name : List Char) : Option CharSet :=
  let named (names : List String) : Bool := names.any fun n => n.toList == name
  if named ["alphabetic", "alpha"] then some (.ofClass .alphabetic)
  else if named ["whitespace", "wspace", "space"] then some (.ofClass .blank)
  else if named ["uppercase", "upper"] then some (ofSpans (upperCase ++ otherUpperCase))
  else if named ["lowercase", "lower"] then some (ofSpans (lowerCase ++ otherLowerCase))
  else if named ["asciihexdigit", "ahex"] then
    some (.unionAll [.range '0' '9', .range 'A' 'F', .range 'a' 'f'])
  else if named ["hexdigit", "hex"] then
    some (.unionAll [.range '0' '9', .range 'A' 'F', .range 'a' 'f',
      .range '\uff10' '\uff19', .range '\uff21' '\uff26', .range '\uff41' '\uff46'])
  else if named ["graphemeextend", "grext"] then
    some (ofSpans (nonspacingMark ++ enclosingMark ++ otherGraphemeExtend))
  else none

/-- The characters that a name stands for, alone or as the value of the category property. -/
def namedSet? (name : List Char) : Option CharSet :=
  match name.findIdx? (fun c => c == ':' || c == '=') with
  | none => (propertySet? (normalizeName name)).or (categorySet? (normalizeName name))
  | some i =>
    let negated := i > 0 && name[i]? == some '=' && name[i - 1]? == some '!'
    let property := normalizeName (name.take (if negated then i - 1 else i))
    if property == "gc".toList || property == "generalcategory".toList then
      (categorySet? (normalizeName (name.drop (i + 1)))).map fun s => if negated then .not s else s
    else none

end QualityGate.Regex
