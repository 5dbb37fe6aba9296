import QualityGate.Proofs.Coverage.Tree
import QualityGate.Proofs.Text.Blank
import Mathlib.Tactic

/-!
How elements are written as text, and which tags such a text is read as. Attributes come in any
order, with blanks where a tag allows them and in either kind of quotes; an element without children
may be closed by its own tag; between tags there are text and comments.

* `Written`, `WrittenEach`: a text that is written for an element, or for a row of elements.
* `isNameChar_of_isBlank`: blanks end names.
* `attributes_append`: the attributes of a tag are read back in the order in which they are written.
* `read_filler`, `read_openingTag`, `read_closingTag`: what stands between tags is passed over, and
  tags are read back.
-/

namespace QualityGate

/-! ### Written elements -/

/-- White space and nothing else. -/
def IsBlankText (s : List Char) : Prop := ∀ c ∈ s, Text.isBlank c = true

/-- Characters of names and nothing else. -/
def IsNameText (s : List Char) : Prop := ∀ c ∈ s, Tag.isNameChar c = true

instance (s : List Char) : Decidable (IsBlankText s) := List.decidableBAll _ s

instance (s : List Char) : Decidable (IsNameText s) := List.decidableBAll _ s

/-- A name that an element can have. -/
structure IsElementName (name : List Char) : Prop where
  start : name.head?.any Tag.isNameStart = true
  chars : IsNameText name

lemma IsElementName.exists_cons {name : List Char} (h : IsElementName name) :
    ∃ c rest, name = c :: rest := by
  cases name with
  | nil => exact absurd h.start (by simp)
  | cons c rest => exact ⟨c, rest, rfl⟩

/-- A name does not start with a character that no name starts with. -/
lemma IsElementName.ne_of_isNameStart {c d : Char} {rest : List Char}
    (h : IsElementName (c :: rest)) (hd : Tag.isNameStart d = false) : c ≠ d := by
  rintro rfl
  have hstart : Tag.isNameStart c = true := h.start
  rw [hd] at hstart
  cases hstart

/-- An attribute as it is written in a tag: blanks before its name, around the equality sign, and a
quoted value that holds neither the quote nor the opening of a comment. -/
structure IsAttribute (name value gap before after : List Char) (quote : Char) : Prop where
  gap_ne : gap ≠ []
  gap_blank : IsBlankText gap
  name_ne : name ≠ []
  name_chars : IsNameText name
  before_blank : IsBlankText before
  after_blank : IsBlankText after
  isQuote : quote = '"' ∨ quote = '\''
  quote_not_mem : quote ∉ value
  comment_not_infix : ¬ "<!--".toList <:+: value

instance (name : List Char) : Decidable (IsElementName name) :=
  decidable_of_iff
    (name.head?.any Tag.isNameStart = true ∧ IsNameText name)
    ⟨fun h => ⟨h.1, h.2⟩, fun h => ⟨h.start, h.chars⟩⟩

instance (name value gap before after : List Char) (quote : Char) :
    Decidable (IsAttribute name value gap before after quote) :=
  decidable_of_iff
    ((gap ≠ [] ∧ IsBlankText gap) ∧ (name ≠ [] ∧ IsNameText name) ∧
      (IsBlankText before ∧ IsBlankText after) ∧ (quote = '"' ∨ quote = '\'') ∧ quote ∉ value ∧
      ¬ "<!--".toList <:+: value)
    ⟨fun ⟨⟨h₁, h₂⟩, ⟨h₃, h₄⟩, ⟨h₅, h₆⟩, h₇, h₈, h₉⟩ => ⟨h₁, h₂, h₃, h₄, h₅, h₆, h₇, h₈, h₉⟩,
      fun ⟨h₁, h₂, h₃, h₄, h₅, h₆, h₇, h₈, h₉⟩ => ⟨⟨h₁, h₂⟩, ⟨h₃, h₄⟩, ⟨h₅, h₆⟩, h₇, h₈, h₉⟩⟩

/-- Attributes as they are written in a tag. -/
inductive AttributesText : List (List Char × List Char) → List Char → Prop where
  | nil : AttributesText [] []
  | cons {name value gap before after text : List Char} {quote : Char}
      {as : List (List Char × List Char)} (ha : IsAttribute name value gap before after quote)
      (has : AttributesText as text) :
      AttributesText ((name, value) :: as)
        (gap ++ (name ++ (before ++ '=' :: (after ++ quote :: (value ++ quote :: text)))))

/-- What stands between tags: text without an opening bracket, and comments. -/
inductive Filler : List Char → Prop where
  | nil : Filler []
  | char {c : Char} {rest : List Char} (hc : c ≠ '<') (hrest : Filler rest) : Filler (c :: rest)
  | comment {body rest : List Char} (hbody : ¬ "-->".toList <:+: body) (hrest : Filler rest) :
      Filler ("<!--".toList ++ (body ++ ("-->".toList ++ rest)))

/-- The end of an opening tag; with a slash the tag closes its element as well. -/
def tagEnd (isEmpty : Bool) : List Char := if isEmpty then ['/', '>'] else ['>']

/-- An opening tag with its attributes as they are written, and blanks before its end. -/
def openingTag (name attributes blanks : List Char) (isEmpty : Bool) : List Char :=
  '<' :: (name ++ (attributes ++ (blanks ++ tagEnd isEmpty)))

/-- A closing tag with blanks before its end. -/
def closingTag (name blanks : List Char) : List Char := '<' :: '/' :: (name ++ (blanks ++ ['>']))

/-- The opening tag of an element can be written with its attributes in the given order, for which
the text stands. No attribute comes twice. -/
structure OpensWith (e : ReportElement) (written : List (List Char × List Char))
    (text blanks : List Char) : Prop where
  isName : IsElementName e.name
  distinct : (e.attributes.map Prod.fst).Nodup
  perm : written.Perm e.attributes
  writes : AttributesText written text
  blank : IsBlankText blanks

mutual

/-- The text is written for the element. -/
inductive Written : ReportElement → List Char → Prop where
  | selfClosed {e : ReportElement} {written : List (List Char × List Char)}
      {text blanks : List Char} (hopens : OpensWith e written text blanks)
      (hchildren : e.children = []) : Written e (openingTag e.name text blanks true)
  | paired {e : ReportElement} {written : List (List Char × List Char)}
      {text blanks inner blanks' : List Char} (hopens : OpensWith e written text blanks)
      (hchildren : WrittenEach e.children inner) (hblanks' : IsBlankText blanks') :
      Written e
        (openingTag e.name text blanks false ++ (inner ++ closingTag e.name blanks'))

/-- The text is written for the elements one after the other. -/
inductive WrittenEach : List ReportElement → List Char → Prop where
  | nil {filler : List Char} (hfiller : Filler filler) : WrittenEach [] filler
  | cons {filler text rest : List Char} {e : ReportElement} {es : List ReportElement}
      (hfiller : Filler filler) (he : Written e text) (hes : WrittenEach es rest) :
      WrittenEach (e :: es) (filler ++ (text ++ rest))

end

/-! ### Blanks and names -/

/-- **Blanks end names.** -/
theorem isNameChar_of_isBlank {c : Char} (h : Text.isBlank c = true) :
    Tag.isNameChar c = false := by
  simp (disch := decide) [Tag.isNameChar, isWord_of_isBlank h, ne_of_isBlank h]

lemma isBlank_of_isNameChar {c : Char} (h : Tag.isNameChar c = true) : Text.isBlank c = false := by
  by_contra hblank
  rw [isNameChar_of_isBlank (Bool.of_not_eq_false hblank)] at h
  cases h

/-- A name ends where blanks or a character come that no name has. -/
lemma isNameChar_head_blanks {blanks : List Char} {d : Char} (hblanks : IsBlankText blanks)
    (hd : Tag.isNameChar d = false) (rest : List Char) :
    ∀ c ∈ (blanks ++ d :: rest).head?, Tag.isNameChar c = false :=
  forall_head?_append_cons (fun c hc => isNameChar_of_isBlank (hblanks c hc)) hd rest

/-! ### Attributes -/

namespace Tag

/-- Blanks are skipped. -/
lemma trimStart_append_stop {blanks : List Char} {c : Char} (hblanks : IsBlankText blanks)
    (hc : Text.isBlank c = false) (rest : List Char) :
    Text.trimStart (blanks ++ c :: rest) = c :: rest := by
  rw [trimStart_append_cons hc, Text.trimStart_eq_nil.2 hblanks, List.nil_append]

/-- A quoted value is read up to its quote. -/
lemma value?_quoted {quote : Char} (hquote : quote = '"' ∨ quote = '\'') {value : List Char}
    (hvalue : quote ∉ value) (rest : List Char) :
    value? (quote :: (value ++ quote :: rest)) = some (value, rest) := by
  have hinside : ∀ c ∈ value, (c != quote) = true := by
    rintro c hc
    simpa using fun h : c = quote => hvalue (h ▸ hc)
  have hstop : ∀ c ∈ (quote :: rest).head?, (c != quote) = false := by simp
  obtain ⟨htake, hdrop⟩ := takeWhile_append_of_head hinside hstop
  rw [value?, if_pos hquote, htake, hdrop]

/-- No attribute starts where the first character after blanks is none of a name. -/
lemma attribute?_stop {blanks : List Char} {c : Char} (hblanks : IsBlankText blanks)
    (hc : Text.isBlank c = false) (hname : isNameChar c = false) (rest : List Char) :
    attribute? (blanks ++ c :: rest) = none := by
  have htake : (c :: rest).takeWhile isNameChar = [] := List.takeWhile_cons_of_neg (by simp [hname])
  simp only [attribute?, trimStart_append_stop hblanks hc, htake]
  simp

/-- An attribute is read back. -/
lemma attribute?_append {name value gap before after : List Char} {quote : Char}
    (h : IsAttribute name value gap before after quote) (rest : List Char) :
    attribute? (gap ++ (name ++ (before ++ '=' :: (after ++ quote :: (value ++ quote :: rest))))) =
      some ((name, value), rest) := by
  obtain ⟨c, name, rfl⟩ := List.exists_cons_of_ne_nil h.name_ne
  have hc : Text.isBlank c = false := isBlank_of_isNameChar (h.name_chars c List.mem_cons_self)
  have hequals : Text.isBlank '=' = false := by decide
  have hopening : Text.isBlank quote = false := by rcases h.isQuote with rfl | rfl <;> decide
  generalize htail : after ++ quote :: (value ++ quote :: rest) = tail
  have hstop := isNameChar_head_blanks h.before_blank (by decide : isNameChar '=' = false) tail
  have hfront : Text.trimStart (gap ++ (c :: name ++ (before ++ '=' :: tail))) =
      c :: name ++ (before ++ '=' :: tail) := trimStart_append_stop h.gap_blank hc _
  have hlength : ¬ (c :: name ++ (before ++ '=' :: tail)).length =
      (gap ++ (c :: name ++ (before ++ '=' :: tail))).length := by
    have hpos : 0 < gap.length := List.length_pos_iff.2 h.gap_ne
    simp only [List.length_append]
    omega
  have hread : value? (Text.trimStart tail) = some (value, rest) := by
    rw [← htail, trimStart_append_stop h.after_blank hopening,
      value?_quoted h.isQuote h.quote_not_mem]
  obtain ⟨htake, hdrop⟩ := takeWhile_append_of_head h.name_chars hstop
  simp only [attribute?, hfront, htake, hdrop, trimStart_append_stop h.before_blank hequals, hread,
    hlength]
  rfl

lemma attributes_of_none {s : List Char} (h : attribute? s = none) : attributes s = ([], s) := by
  rw [attributes]
  split
  · rfl
  · next heq => rw [h] at heq; cases heq

lemma attributes_of_some {s after : List Char} {a : List Char × List Char}
    (h : attribute? s = some (a, after)) :
    attributes s = (a :: (attributes after).1, (attributes after).2) := by
  rw [attributes]
  split
  · next heq => rw [h] at heq; cases heq
  · next heq =>
      rw [h] at heq
      cases heq
      rfl

/-- **The attributes of a tag** are read back in the order in which they are written. -/
theorem attributes_append {as : List (List Char × List Char)} {text rest : List Char}
    (h : AttributesText as text) (hrest : attribute? rest = none) :
    attributes (text ++ rest) = (as, rest) := by
  induction h with
  | nil => exact attributes_of_none hrest
  | cons ha has ih =>
      simp only [List.append_assoc, List.cons_append]
      rw [attributes_of_some (attribute?_append ha _), ih]

/-! ### Tags -/

/-- The end of a tag is read back, and whether it closes its element. -/
lemma tagEnd?_append {blanks : List Char} (hblanks : IsBlankText blanks) (isEmpty : Bool)
    (rest : List Char) : tagEnd? (blanks ++ (tagEnd isEmpty ++ rest)) = some (isEmpty, rest) := by
  cases isEmpty with
  | true =>
      have hslash : Text.isBlank '/' = false := by decide
      have hskip := trimStart_append_stop hblanks hslash ('>' :: rest)
      rw [tagEnd?, tagEnd, if_pos rfl, List.cons_append, List.singleton_append, hskip]
      rfl
  | false =>
      have hbracket : Text.isBlank '>' = false := by decide
      have hskip := trimStart_append_stop hblanks hbracket rest
      rw [tagEnd?, tagEnd, if_neg (by simp), List.singleton_append, hskip]
      rfl

/-- No attribute starts at the end of a tag. -/
lemma attribute?_tagEnd {blanks : List Char} (hblanks : IsBlankText blanks) (isEmpty : Bool)
    (rest : List Char) : attribute? (blanks ++ (tagEnd isEmpty ++ rest)) = none := by
  cases isEmpty with
  | true => exact attribute?_stop hblanks (by decide) (by decide) _
  | false => exact attribute?_stop hblanks (by decide) (by decide) _

/-- The name of an element ends where its attributes or the end of the tag start. -/
lemma isNameChar_head_attributes {as : List (List Char × List Char)} {text blanks : List Char}
    (h : AttributesText as text) (hblanks : IsBlankText blanks) (isEmpty : Bool)
    (rest : List Char) :
    ∀ c ∈ (text ++ (blanks ++ (tagEnd isEmpty ++ rest))).head?, isNameChar c = false := by
  cases h with
  | nil =>
      cases isEmpty with
      | true => exact isNameChar_head_blanks hblanks (by decide) _
      | false => exact isNameChar_head_blanks hblanks (by decide) _
  | cons ha has =>
      obtain ⟨b, gap, rfl⟩ := List.exists_cons_of_ne_nil ha.gap_ne
      intro c hc
      rw [← Option.mem_some.1 hc]
      exact isNameChar_of_isBlank (ha.gap_blank b List.mem_cons_self)

/-- A tag is read back from what comes after its opening bracket. -/
lemma body?_append (closes : Bool) {name text blanks : List Char}
    {as : List (List Char × List Char)} (hname : IsElementName name) (has : AttributesText as text)
    (hblanks : IsBlankText blanks) (isEmpty : Bool) (rest : List Char) :
    body? closes (name ++ (text ++ (blanks ++ (tagEnd isEmpty ++ rest)))) =
      some (if closes then .closing name else .opening name as isEmpty, rest) := by
  have hstop := isNameChar_head_attributes has hblanks isEmpty rest
  have hstart : (name ++ (text ++ (blanks ++ (tagEnd isEmpty ++ rest)))).head?.any isNameStart := by
    obtain ⟨c, name, rfl⟩ := hname.exists_cons
    exact hname.start
  obtain ⟨htake, hdrop⟩ := takeWhile_append_of_head hname.chars hstop
  rw [body?, if_pos hstart, htake, hdrop,
    attributes_append has (attribute?_tagEnd hblanks isEmpty rest)]
  simp only [tagEnd?_append hblanks isEmpty rest]
  rfl

/-- An opening tag is read back. -/
lemma tag?_openingTag {name text blanks : List Char} {as : List (List Char × List Char)}
    (hname : IsElementName name) (has : AttributesText as text) (hblanks : IsBlankText blanks)
    (isEmpty : Bool) (rest : List Char) :
    tag? (openingTag name text blanks isEmpty ++ rest) = some (.opening name as isEmpty, rest) := by
  have hbody := body?_append false hname has hblanks isEmpty rest
  obtain ⟨c, name, rfl⟩ := hname.exists_cons
  have hslash : c ≠ '/' := hname.ne_of_isNameStart (by decide)
  rw [openingTag, List.cons_append, List.append_assoc, List.append_assoc, List.append_assoc,
    List.cons_append, tag?.eq_2 _ fun _ h => hslash (List.cons.inj h).1]
  simpa using hbody

/-- A closing tag is read back. -/
lemma tag?_closingTag {name blanks : List Char} (hname : IsElementName name)
    (hblanks : IsBlankText blanks) (rest : List Char) :
    tag? (closingTag name blanks ++ rest) = some (.closing name, rest) := by
  have hbody := body?_append true hname .nil hblanks false rest
  simpa [closingTag, tag?, tagEnd] using hbody

/-- No tag starts without an opening bracket. -/
lemma tag?_cons_of_ne {c : Char} (hc : c ≠ '<') (rest : List Char) : tag? (c :: rest) = none :=
  tag?.eq_3 _ (fun _ h => hc (List.cons.inj h).1) fun _ h => hc (List.cons.inj h).1

lemma tags_of_none {c : Char} {rest : List Char} (h : tag? (c :: rest) = none) :
    tags (c :: rest) = tags rest := by
  rw [tags]
  split
  · next heq => rw [h] at heq; cases heq
  · rfl

lemma tags_of_some {s after : List Char} {t : Tag} (h : tag? s = some (t, after)) :
    tags s = t :: tags after := by
  cases s with
  | nil => cases h
  | cons c rest =>
      rw [tags]
      split
      · next heq =>
          rw [h] at heq
          cases heq
          rfl
      · next heq => rw [h] at heq; cases heq

/-! ### Comments -/

lemma withoutComments_cons {c : Char} {rest : List Char} (h : ¬ "<!--".toList <+: c :: rest) :
    withoutComments (c :: rest) = c :: withoutComments rest := by
  rw [withoutComments, if_neg fun hopen => h (List.isPrefixOf_iff_prefix.1 hopen)]

lemma withoutComments_cons_of_ne {c : Char} (hc : c ≠ '<') (rest : List Char) :
    withoutComments (c :: rest) = c :: withoutComments rest :=
  withoutComments_cons fun h => hc (List.cons_prefix_cons.1 h).1.symm

/-- A text without an opening bracket is left as it is. -/
lemma withoutComments_append {s : List Char} (hs : '<' ∉ s) (rest : List Char) :
    withoutComments (s ++ rest) = s ++ withoutComments rest := by
  induction s with
  | nil => rfl
  | cons c s ih =>
      have hc : c ≠ '<' := fun h => hs (h ▸ List.mem_cons_self)
      have ih := ih fun h => hs (List.mem_cons_of_mem c h)
      rw [List.cons_append, withoutComments_cons_of_ne hc, ih, List.cons_append]

/-- A comment ends with the first mark that can end it. -/
lemma afterCommentEnd?_append {body : List Char} (hbody : ¬ "-->".toList <:+: body)
    (rest : List Char) : afterCommentEnd? (body ++ '-' :: '-' :: '>' :: rest) = some rest := by
  induction body with
  | nil => rw [List.nil_append, afterCommentEnd?]
  | cons c body ih =>
      have hearly (r : List Char) (hc : c = '-')
          (h : body ++ '-' :: '-' :: '>' :: rest = '-' :: '>' :: r) : False := by
        cases body with
        | nil => simp at h
        | cons d body =>
            cases body with
            | nil => simp at h
            | cons e body =>
                simp only [List.cons_append, List.cons.injEq] at h
                obtain ⟨rfl, rfl, -⟩ := h
                exact hbody ⟨[], body, by rw [hc]; rfl⟩
      rw [List.cons_append, afterCommentEnd?.eq_3 _ _ hearly,
        ih fun h => hbody (h.trans (List.infix_cons_iff.2 (.inr List.infix_rfl)))]

/-- A comment is taken out. -/
lemma withoutComments_comment {body : List Char} (hbody : ¬ "-->".toList <:+: body)
    (rest : List Char) :
    withoutComments ("<!--".toList ++ (body ++ ("-->".toList ++ rest))) = withoutComments rest := by
  have hend := afterCommentEnd?_append hbody rest
  have hopen : "<!--".toList ++ (body ++ ("-->".toList ++ rest)) =
      '<' :: '!' :: '-' :: '-' :: (body ++ '-' :: '-' :: '>' :: rest) := rfl
  have hprefix :
      "<!--".toList <+: '<' :: '!' :: '-' :: '-' :: (body ++ '-' :: '-' :: '>' :: rest) :=
    ⟨_, rfl⟩
  have hdrop : ('!' :: '-' :: '-' :: (body ++ '-' :: '-' :: '>' :: rest)).drop 3 =
      body ++ '-' :: '-' :: '>' :: rest := rfl
  rw [hopen, withoutComments, if_pos (List.isPrefixOf_iff_prefix.2 hprefix)]
  split
  · next after heq =>
      rw [hdrop, hend] at heq
      rw [Option.some.inj heq]
  · next heq =>
      rw [hdrop, hend] at heq
      cases heq

/-- No comment starts in a text without the opening of one, if behind it comes a character that no
opening has. -/
lemma not_prefix_append_stop {s : List Char} {c : Char} (hc : c ∉ "<!--".toList)
    (hs : ¬ "<!--".toList <:+: s) (rest : List Char) : ¬ "<!--".toList <+: s ++ c :: rest := by
  intro h
  by_cases hlength : "<!--".toList.length ≤ s.length
  · exact hs (List.prefix_of_prefix_length_le h (List.prefix_append _ _) hlength).isInfix
  -- The mark is longer than the text, so that what follows the text is one of its characters.
  · have hpre : s ++ [c] <+: "<!--".toList := by
      refine List.prefix_of_prefix_length_le ⟨rest, by simp⟩ h ?_
      rw [List.length_append, List.length_singleton]
      omega
    exact hc (hpre.subset (by simp))

/-- Such a text is left as it is. -/
lemma withoutComments_append_stop {s : List Char} {c : Char} (hc : c ∉ "<!--".toList)
    (hs : ¬ "<!--".toList <:+: s) (rest : List Char) :
    withoutComments (s ++ c :: rest) = s ++ c :: withoutComments rest := by
  induction s with
  | nil => exact withoutComments_cons_of_ne (by rintro rfl; exact hc (by decide)) rest
  | cons d s ih =>
      have hstart : ¬ "<!--".toList <+: d :: (s ++ c :: rest) := not_prefix_append_stop hc hs rest
      have ih := ih fun h => hs (h.trans (List.infix_cons_iff.2 (.inr List.infix_rfl)))
      rw [List.cons_append, withoutComments_cons hstart, ih, List.cons_append]

/-- Names and blanks have no opening bracket. -/
lemma not_mem_of_isNameText {s : List Char} (h : IsNameText s) : '<' ∉ s :=
  fun hmem => by simpa using (h '<' hmem).symm.trans (by decide : isNameChar '<' = false)

lemma not_mem_of_isBlankText {s : List Char} (h : IsBlankText s) : '<' ∉ s :=
  fun hmem => by simpa using (h '<' hmem).symm.trans (by decide : Text.isBlank '<' = false)

/-- Written attributes are left as they are. -/
lemma withoutComments_attributes {as : List (List Char × List Char)} {text : List Char}
    (h : AttributesText as text) (rest : List Char) :
    withoutComments (text ++ rest) = text ++ withoutComments rest := by
  induction h with
  | nil => rfl
  | @cons name value gap before after text quote as ha has ih =>
      have hbracket : quote ≠ '<' := by rcases ha.isQuote with rfl | rfl <;> decide
      have hstop : quote ∉ "<!--".toList := by rcases ha.isQuote with rfl | rfl <;> decide
      simp only [List.append_assoc, List.cons_append]
      rw [withoutComments_append (not_mem_of_isBlankText ha.gap_blank),
        withoutComments_append (not_mem_of_isNameText ha.name_chars),
        withoutComments_append (not_mem_of_isBlankText ha.before_blank),
        withoutComments_cons_of_ne (by decide),
        withoutComments_append (not_mem_of_isBlankText ha.after_blank),
        withoutComments_cons_of_ne hbracket,
        withoutComments_append_stop hstop ha.comment_not_infix, ih]

/-- A tag is left as it is. -/
lemma withoutComments_openingTag {name text blanks : List Char} {as : List (List Char × List Char)}
    (hname : IsElementName name) (has : AttributesText as text) (hblanks : IsBlankText blanks)
    (isEmpty : Bool) (rest : List Char) :
    withoutComments (openingTag name text blanks isEmpty ++ rest) =
      openingTag name text blanks isEmpty ++ withoutComments rest := by
  have hstart : ¬ "<!--".toList <+: openingTag name text blanks isEmpty ++ rest := by
    obtain ⟨c, name, rfl⟩ := hname.exists_cons
    intro h
    exact hname.ne_of_isNameStart (by decide)
      (List.cons_prefix_cons.1 (List.cons_prefix_cons.1 h).2).1.symm
  have hend : '<' ∉ tagEnd isEmpty := by cases isEmpty <;> decide
  rw [openingTag, List.cons_append] at hstart
  rw [openingTag, List.cons_append, withoutComments_cons hstart]
  simp only [List.append_assoc, List.cons_append]
  rw [withoutComments_append (not_mem_of_isNameText hname.chars), withoutComments_attributes has,
    withoutComments_append (not_mem_of_isBlankText hblanks), withoutComments_append hend]

lemma withoutComments_closingTag {name blanks : List Char} (hname : IsElementName name)
    (hblanks : IsBlankText blanks) (rest : List Char) :
    withoutComments (closingTag name blanks ++ rest) =
      closingTag name blanks ++ withoutComments rest := by
  have hstart : ¬ "<!--".toList <+: '<' :: ('/' :: (name ++ (blanks ++ ['>'])) ++ rest) := by
    intro h
    exact absurd (List.cons_prefix_cons.1 (List.cons_prefix_cons.1 h).2).1 (by decide)
  rw [closingTag, List.cons_append, withoutComments_cons hstart, List.cons_append,
    withoutComments_cons_of_ne (by decide)]
  simp only [List.append_assoc, List.cons_append]
  rw [withoutComments_append (not_mem_of_isNameText hname.chars),
    withoutComments_append (not_mem_of_isBlankText hblanks), withoutComments_cons_of_ne (by decide)]
  rfl

/-! ### Reading -/

/-- The tags of a text that are no part of a comment. -/
def read (text : List Char) : List Tag := tags (withoutComments text)

/-- What stands between tags is passed over. -/
theorem read_filler {filler : List Char} (h : Filler filler) (rest : List Char) :
    read (filler ++ rest) = read rest := by
  induction h with
  | nil => rfl
  | @char c filler hc hfiller ih =>
      rw [read, List.cons_append, withoutComments_cons_of_ne hc,
        tags_of_none (tag?_cons_of_ne hc _)]
      exact ih
  | @comment body filler hbody hfiller ih =>
      simp only [List.append_assoc]
      rw [read, withoutComments_comment hbody]
      exact ih

/-- **An opening tag is read back** with its attributes as they are written. -/
theorem read_openingTag {name text blanks : List Char} {as : List (List Char × List Char)}
    (hname : IsElementName name) (has : AttributesText as text) (hblanks : IsBlankText blanks)
    (isEmpty : Bool) (rest : List Char) :
    read (openingTag name text blanks isEmpty ++ rest) = .opening name as isEmpty :: read rest := by
  rw [read, withoutComments_openingTag hname has hblanks,
    tags_of_some (tag?_openingTag hname has hblanks isEmpty _)]
  rfl

/-- **A closing tag is read back.** -/
theorem read_closingTag {name blanks : List Char} (hname : IsElementName name)
    (hblanks : IsBlankText blanks) (rest : List Char) :
    read (closingTag name blanks ++ rest) = .closing name :: read rest := by
  rw [read, withoutComments_closingTag hname hblanks,
    tags_of_some (tag?_closingTag hname hblanks _)]
  rfl

end Tag

end QualityGate
