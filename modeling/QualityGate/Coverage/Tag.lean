import QualityGate.Text.Blank
import QualityGate.Unicode.Class

/-!
The tags of a report. Comments are taken out first. What is left is searched for tags: a name with
attributes, each of them a name, an equality sign and a quoted value. Anything that is not shaped
like a tag is passed over.

* `withoutComments`: a text without its comments.
* `tag?`: the tag at the front of a text.
* `tags`: the tags of a text in order.
-/

namespace QualityGate

/-- A tag. -/
inductive Tag where
  /-- The tag that opens an element; `isEmpty` when it closes the element as well. -/
  | opening (element : List Char) (attributes : List (List Char × List Char)) (isEmpty : Bool)
  | closing (element : List Char)
  deriving DecidableEq, Repr

namespace Tag

/-- The text after the first end of a comment. -/
def afterCommentEnd? : List Char → Option (List Char)
  | [] => none
  | '-' :: '-' :: '>' :: rest => some rest
  | _ :: rest => afterCommentEnd? rest

/-- The text after a comment is shorter than the text. -/
theorem length_lt_of_afterCommentEnd? {s rest : List Char} (h : afterCommentEnd? s = some rest) :
    rest.length < s.length := by
  fun_induction afterCommentEnd? s with
  | case1 => cases h
  | case2 r => cases h; simp only [List.length_cons]; omega
  | case3 c r _ ih => simp only [List.length_cons]; have := ih h; omega

/-- A text without its comments. A comment without an end is no comment. -/
def withoutComments : List Char → List Char
  | [] => []
  | c :: rest =>
    if "<!--".toList.isPrefixOf (c :: rest) then
      match _h : afterCommentEnd? (rest.drop 3) with
      | some after => withoutComments after
      | none => c :: rest
    else c :: withoutComments rest
  termination_by s => s.length
  decreasing_by
    · have hlt := length_lt_of_afterCommentEnd? _h
      simp only [List.length_drop, List.length_cons] at hlt ⊢
      omega
    · simp

/-- Characters that names consist of. -/
def isNameChar (c : Char) : Bool := Unicode.isWord c || c == ':' || c == '.' || c == '-'

/-- Characters that the names of elements start with. -/
def isNameStart (c : Char) : Bool :=
  ('A' ≤ c && c ≤ 'Z') || ('a' ≤ c && c ≤ 'z') || c == '_'

/-- The value of an attribute: what stands between a quote and the next quote of the same kind. -/
def value? : List Char → Option (List Char × List Char)
  | [] => none
  | quote :: rest =>
    if quote = '"' ∨ quote = '\'' then
      match rest.dropWhile (· != quote) with
      | [] => none
      | _ :: after => some (rest.takeWhile (· != quote), after)
    else none

/-- The attribute at the front of a text, which starts with white space, and the text after it. -/
def attribute? (s : List Char) : Option ((List Char × List Char) × List Char) :=
  let front := Text.trimStart s
  let name := front.takeWhile isNameChar
  if front.length = s.length ∨ name.isEmpty then none
  else match Text.trimStart (front.dropWhile isNameChar) with
    | '=' :: rest => (value? (Text.trimStart rest)).map fun (value, after) => ((name, value), after)
    | _ => none

/-- Dropping a front leaves no longer text. -/
theorem length_dropWhile_le (p : Char → Bool) (s : List Char) :
    (s.dropWhile p).length ≤ s.length := by
  induction s with
  | nil => simp
  | cons c s ih =>
    rw [List.dropWhile_cons]
    split
    · simp only [List.length_cons]; omega
    · simp

/-- The text after a value is shorter than the text. -/
theorem length_lt_of_value? {s value after : List Char} (h : value? s = some (value, after)) :
    after.length < s.length := by
  unfold value? at h
  split at h
  · cases h
  · next quote rest =>
    split at h
    · split at h
      · cases h
      · next c tail heq =>
        cases h
        have := length_dropWhile_le (fun x => x != quote) rest
        rw [heq] at this
        simp only [List.length_cons] at this ⊢
        omega
    · cases h

/-- The text after an attribute is shorter than the text. -/
theorem length_lt_of_attribute? {s after : List Char} {a : List Char × List Char}
    (h : attribute? s = some (a, after)) : after.length < s.length := by
  simp only [attribute?] at h
  split at h
  · cases h
  · split at h
    · next rest heq =>
      simp only [Option.map_eq_some_iff, Prod.exists, Prod.mk.injEq] at h
      obtain ⟨v, r, hv, _, rfl⟩ := h
      have h1 := length_lt_of_value? hv
      have h2 := length_dropWhile_le Text.isBlank rest
      have h3 := length_dropWhile_le Text.isBlank
        ((Text.trimStart s).dropWhile isNameChar)
      have h4 := length_dropWhile_le isNameChar (Text.trimStart s)
      have h5 := length_dropWhile_le Text.isBlank s
      simp only [Text.trimStart] at *
      rw [heq] at h3
      simp only [List.length_cons] at h3
      omega
    · cases h

/-- The attributes at the front of a text, and the text after them. -/
def attributes (s : List Char) : List (List Char × List Char) × List Char :=
  match _h : attribute? s with
  | none => ([], s)
  | some (a, after) =>
    let (more, rest) := attributes after
    (a :: more, rest)
  termination_by s.length
  decreasing_by exact length_lt_of_attribute? _h

/-- A tag that is known up to its end: whether it closes its element as well, and the text after
it. -/
def tagEnd? (s : List Char) : Option (Bool × List Char) :=
  match Text.trimStart s with
  | '/' :: '>' :: rest => some (true, rest)
  | '>' :: rest => some (false, rest)
  | _ => none

/-- A tag after its opening bracket, and the text after the tag. -/
def body? (closes : Bool) (s : List Char) : Option (Tag × List Char) :=
  if s.head?.any isNameStart then
    let element := s.takeWhile isNameChar
    let (attributes, rest) := attributes (s.dropWhile isNameChar)
    (tagEnd? rest).map fun (isEmpty, after) =>
      (if closes then .closing element else .opening element attributes isEmpty, after)
  else none

/-- The tag at the front of a text, and the text after it. -/
def tag? : List Char → Option (Tag × List Char)
  | '<' :: '/' :: rest => body? true rest
  | '<' :: rest => body? false rest
  | _ => none

/-- The text after attributes is no longer than the text. -/
theorem length_attributes_le (s : List Char) : (attributes s).2.length ≤ s.length := by
  fun_induction attributes s with
  | case1 s h => simp
  | case2 s a after h more rest hrest ih =>
    have := length_lt_of_attribute? h
    rw [hrest] at ih
    simp only at ih ⊢
    omega

/-- The text after the end of a tag is shorter than the text. -/
theorem length_lt_of_tagEnd? {s after : List Char} {isEmpty : Bool}
    (h : tagEnd? s = some (isEmpty, after)) : after.length < s.length := by
  have hle := length_dropWhile_le Text.isBlank s
  unfold tagEnd? Text.trimStart at h
  split at h
  · next heq => cases h; rw [heq] at hle; simp only [List.length_cons] at hle; omega
  · next heq => cases h; rw [heq] at hle; simp only [List.length_cons] at hle; omega
  · cases h

/-- The text after a tag is shorter than the text after its opening bracket. -/
theorem length_lt_of_body? {closes : Bool} {s after : List Char} {t : Tag}
    (h : body? closes s = some (t, after)) : after.length < s.length := by
  simp only [body?] at h
  split at h
  · simp only [Option.map_eq_some_iff, Prod.exists, Prod.mk.injEq] at h
    obtain ⟨e, r, he, _, rfl⟩ := h
    have h1 := length_lt_of_tagEnd? he
    have h2 := length_attributes_le (s.dropWhile isNameChar)
    have h3 := length_dropWhile_le isNameChar s
    omega
  · cases h

/-- The text after a tag is shorter than the text. -/
theorem length_lt_of_tag? {s after : List Char} {t : Tag} (h : tag? s = some (t, after)) :
    after.length < s.length := by
  unfold tag? at h
  split at h
  · have := length_lt_of_body? h; simp only [List.length_cons]; omega
  · have := length_lt_of_body? h; simp only [List.length_cons]; omega
  · cases h

/-- The tags of a text, in order. -/
def tags : List Char → List Tag
  | [] => []
  | c :: rest =>
    match _h : tag? (c :: rest) with
    | some (t, after) => t :: tags after
    | none => tags rest
  termination_by s => s.length
  decreasing_by
    · exact length_lt_of_tag? _h
    · simp

/-- The value of an attribute among others. Of two attributes with one name the later one counts. -/
def valueOf? (attributes : List (List Char × List Char)) (name : String) : Option (List Char) :=
  (attributes.reverse.find? fun a => a.1 == name.toList).map Prod.snd

end Tag

end QualityGate
