import QualityGate.Source.Line
import QualityGate.Method.Span

/-!
Documentation of declarations. A declaration is documented when, going up from it, the first line
that is neither blank nor part of an annotation ends a block comment that starts with `/**`.

Going up is bounded in two ways. Each blank line uses up one unit of a window, and all lines that
are looked at count against a cap: lines of annotations, blank lines and the lines of the comment.

The lines above a declaration are given nearest first, so that going up is a recursion on the list.

* `opensWithMarker`: the comment that ends on the first of the lines starts with `/**`.
* `aboveArguments?`: the lines above an annotation whose arguments end on the first of the lines.
* `documentedBy`: whether the lines above a declaration document it.
* `missingDocs`: the violations of a file.
-/

namespace QualityGate

/-- The text from the first opening of a block comment on. -/
def fromCommentStart? : List Char → Option (List Char)
  | [] => none
  | c :: rest =>
    if "/*".toList.isPrefixOf (c :: rest) then some (c :: rest) else fromCommentStart? rest

/-- Among the given lines, the nearest one that opens a block comment opens it with `/**`. -/
def opensWithMarker : List LexedLine → Bool
  | [] => false
  | l :: above =>
    match fromCommentStart? l.line.text with
    | some text => "/**".toList.isPrefixOf text
    | none => opensWithMarker above

/-- Going up through an argument list: the lines above the line on which the parentheses balance
again, and how many lines may still be looked at. That line has to be an annotation. `balance` says
how many parentheses are missing below. -/
def aboveArguments? (cap : Nat) (balance : Int) : List LexedLine → Option (List LexedLine × Nat)
  | [] => none
  | l :: above =>
    match cap with
    | 0 => none
    | cap + 1 =>
      let balance := balance + l.scan.parenDelta
      if balance ≥ 0 then (if l.line.isAnnotation then some (above, cap) else none)
      else aboveArguments? cap balance above

/-- Going up through an argument list leaves no more lines than there were. -/
theorem aboveArguments?_length_le {cap : Nat} {balance : Int} {ls above : List LexedLine}
    {left : Nat} (h : aboveArguments? cap balance ls = some (above, left)) :
    above.length ≤ ls.length := by
  induction ls generalizing cap balance with
  | nil => simp [aboveArguments?] at h
  | cons l ls ih =>
    cases cap with
    | zero => simp [aboveArguments?] at h
    | succ cap =>
      simp only [aboveArguments?] at h
      split at h
      · split at h
        · cases h
          simp
        · cases h
      · exact Nat.le_trans (ih h) (Nat.le_succ _)

/-- The lines above a declaration, nearest first, document it, when `window` blank lines may be
passed and `cap` lines may be looked at. -/
def documentedBy (window cap : Nat) : List LexedLine → Bool
  | [] => false
  | l :: above =>
    match cap with
    | 0 => false
    | left + 1 =>
      if l.scan.parenDelta < 0 then
        match _h : aboveArguments? left l.scan.parenDelta above with
        | some (rest, left) => documentedBy window left rest
        | none => false
      else if l.line.isAnnotation then documentedBy window left above
      else if l.line.isBlank then
        match window with
        | 0 => false
        | window + 1 => documentedBy window left above
      else l.line.closesComment && opensWithMarker ((l :: above).take (left + 1))
  termination_by ls => ls.length
  decreasing_by
    · have hle := aboveArguments?_length_le _h
      simp only [List.length_cons]
      omega
    · simp
    · simp

/-- The line with the given index is documented. -/
def isDocumented (window cap : Nat) (ls : List LexedLine) (index : Nat) : Bool :=
  documentedBy window cap (ls.take index).reverse

/-- The declaration on a line, if its visibility is among the given ones. -/
def requiredDeclaration? (visibilities : List Visibility) (l : LexedLine) : Option Declaration :=
  if l.entry != .code || l.isComment || l.line.isBlank then none
  else (declaration? l.code).filter fun d => visibilities.contains d.visibility

/-- The violation that an undocumented declaration is. -/
def missingDoc (path : Path) (line : Nat) (d : Declaration) : Violation where
  kind := .missingDoc
  severity := .error
  rule := "missing-doc"
  path := path
  line := line
  message :=
    s!"{d.visibility.capitalized} {d.kind.name} '{String.ofList d.name}' has no documentation comment"
  remediation := "Add a /** ... */ block directly above the declaration"

/-- The undocumented declarations on lines, given the lines above them, nearest first. -/
def missingDocsFrom (path : Path) (window cap : Nat) (visibilities : List Visibility)
    (above : List LexedLine) : List LexedLine → List Violation
  | [] => []
  | l :: ls =>
    let rest := missingDocsFrom path window cap visibilities (l :: above) ls
    match requiredDeclaration? visibilities l with
    | none => rest
    | some d =>
      if documentedBy window cap above then rest else missingDoc path l.line.number d :: rest

/-- The undocumented declarations of a file. -/
def missingDocs (path : Path) (window cap : Nat) (visibilities : List Visibility)
    (ls : List LexedLine) : List Violation :=
  missingDocsFrom path window cap visibilities [] ls

end QualityGate
