import QualityGate.Proofs.Coverage.Markup
import Mathlib.Tactic

/-!
A tag is read within its brackets. The text of a tag holds no bracket outside of quotes and no
opening one inside, so whatever is read from it ends before the closing bracket, and what follows
the tag is left over as it is. Whether such a text is a tag at all is not asked here.

* `TagText`: what may stand between the brackets of a tag.
* `attributes_bracket`: the attributes of a tag do not depend on what follows the tag.
* `tag?_bracket`, **`read_bracket`**: neither does the tag, nor what is read behind it.
-/

namespace QualityGate

/-- The text between the brackets of a tag. Its quotes are closed. -/
inductive TagText : List Char → Prop where
  | nil : TagText []
  | char {c : Char} {rest : List Char} (hquote : c ≠ '"' ∧ c ≠ '\'') (hbracket : c ≠ '<' ∧ c ≠ '>')
      (hrest : TagText rest) : TagText (c :: rest)
  | quoted {quote : Char} {value rest : List Char} (hquote : quote = '"' ∨ quote = '\'')
      (hvalue : quote ∉ value) (hbracket : '<' ∉ value) (hrest : TagText rest) :
      TagText (quote :: (value ++ quote :: rest))

namespace TagText

variable {s : List Char}

/-- A text without quotes and brackets. -/
lemma of_forall (h : ∀ c ∈ s, c ∉ "\"'<>".toList) : TagText s := by
  induction s with
  | nil => exact .nil
  | cons c s ih =>
      have hc := h c List.mem_cons_self
      simp only [String.reduceToList, List.mem_cons, List.not_mem_nil, or_false, not_or] at hc
      exact .char ⟨hc.1, hc.2.1⟩ hc.2.2 (ih fun d hd => h d (List.mem_cons_of_mem c hd))

lemma not_mem (h : TagText s) : '<' ∉ s := by
  induction h with
  | nil => exact List.not_mem_nil
  | char hquote hbracket hrest ih => exact List.not_mem_cons_of_ne_of_not_mem hbracket.1.symm ih
  | @quoted quote value rest hquote hvalue hbracket hrest ih =>
      have hne : '<' ≠ quote := by rcases hquote with rfl | rfl <;> decide
      simp [hne, hbracket, ih]

lemma ne_of_cons {c : Char} (h : TagText (c :: s)) : c ≠ '>' := by
  cases h with
  | char hquote hbracket hrest => exact hbracket.2
  | quoted hquote hvalue hbracket hrest => rcases hquote with rfl | rfl <;> decide

/-- What is left behind a character that is no quote. -/
lemma of_cons {c : Char} (h : TagText (c :: s)) (hc : c ≠ '"' ∧ c ≠ '\'') : TagText s := by
  cases h with
  | char hquote hbracket hrest => exact hrest
  | quoted hquote hvalue hbracket hrest =>
      rcases hquote with rfl | rfl
      · exact absurd rfl hc.1
      · exact absurd rfl hc.2

/-- What is left behind characters that are no quotes. -/
lemma dropWhile {p : Char → Bool} (hp : p '"' = false ∧ p '\'' = false) (h : TagText s) :
    TagText (s.dropWhile p) := by
  induction h with
  | nil => exact .nil
  | @char c rest hquote hbracket hrest ih =>
      by_cases hc : p c = true
      · rwa [List.dropWhile_cons_of_pos hc]
      · rw [List.dropWhile_cons_of_neg hc]
        exact .char hquote hbracket hrest
  | @quoted quote value rest hquote hvalue hbracket hrest ih =>
      have hstop : ¬p quote = true := by rcases hquote with rfl | rfl <;> simp [hp]
      rw [List.dropWhile_cons_of_neg hstop]
      exact .quoted hquote hvalue hbracket hrest

lemma trimStart (h : TagText s) : TagText (Text.trimStart s) := h.dropWhile (by decide)

end TagText

namespace Tag

variable {s : List Char}

/-! ### Attributes -/

lemma isNameChar_bracket : isNameChar '>' = false := by decide

lemma trimStart_bracket (s rest : List Char) :
    Text.trimStart (s ++ '>' :: rest) = Text.trimStart s ++ '>' :: rest :=
  trimStart_append_cons (by decide) s rest

/-- A value is read within the tag. -/
lemma value?_bracket (h : TagText s) (rest : List Char) :
    value? (s ++ '>' :: rest) = (value? s).map (Prod.map id (· ++ '>' :: rest)) := by
  cases h with
  | nil => rfl
  | @char c s hquote hbracket hrest =>
      have hnone (u : List Char) : value? (c :: u) = none := if_neg (by simpa using hquote)
      rw [List.cons_append, hnone, hnone, Option.map_none]
  | quoted hquote hvalue hbracket hrest =>
      rw [List.cons_append, List.append_assoc, List.cons_append, value?_quoted hquote hvalue,
        value?_quoted hquote hvalue]
      rfl

lemma tagText_of_value? {value after : List Char} (h : TagText s)
    (hread : value? s = some (value, after)) : TagText after := by
  cases h with
  | nil => cases hread
  | @char c s hquote hbracket hrest =>
      rw [value?, if_neg (by simpa using hquote)] at hread
      cases hread
  | quoted hquote hvalue hbracket hrest =>
      rw [value?_quoted hquote hvalue] at hread
      cases hread
      exact hrest

/-- An attribute is read within the tag. -/
lemma attribute?_bracket (h : TagText s) (rest : List Char) :
    attribute? (s ++ '>' :: rest) = (attribute? s).map (Prod.map id (· ++ '>' :: rest)) := by
  have hlength : (Text.trimStart s ++ '>' :: rest).length = (s ++ '>' :: rest).length ↔
      (Text.trimStart s).length = s.length := by
    simp only [List.length_append, Nat.add_right_cancel_iff]
  simp only [attribute?, trimStart_bracket, takeWhile_stop isNameChar_bracket,
    dropWhile_stop isNameChar_bracket, hlength]
  split_ifs with hnone
  · rfl
  · have hbehind : TagText (Text.trimStart ((Text.trimStart s).dropWhile isNameChar)) :=
      (h.trimStart.dropWhile (by decide)).trimStart
    generalize Text.trimStart ((Text.trimStart s).dropWhile isNameChar) = behind at hbehind
    cases behind with
    | nil => rfl
    | cons c behind =>
        by_cases hequals : c = '='
        · subst hequals
          have hvalue : TagText (Text.trimStart behind) := (hbehind.of_cons (by decide)).trimStart
          simp only [List.cons_append, trimStart_bracket, value?_bracket hvalue]
          cases value? (Text.trimStart behind) <;> rfl
        · simp [hequals]

lemma tagText_of_attribute? {a : List Char × List Char} {after : List Char} (h : TagText s)
    (hread : attribute? s = some (a, after)) : TagText after := by
  simp only [attribute?] at hread
  split_ifs at hread
  have hbehind : TagText (Text.trimStart ((Text.trimStart s).dropWhile isNameChar)) :=
    (h.trimStart.dropWhile (by decide)).trimStart
  split at hread
  · next behind hequals =>
    rw [hequals] at hbehind
    obtain ⟨⟨value, after'⟩, hvalue, heq⟩ := Option.map_eq_some_iff.1 hread
    cases heq
    exact tagText_of_value? (hbehind.of_cons (by decide)).trimStart hvalue
  · cases hread

/-- **The attributes of a tag** are read within the tag. -/
theorem attributes_bracket (h : TagText s) (rest : List Char) :
    attributes (s ++ '>' :: rest) = ((attributes s).1, (attributes s).2 ++ '>' :: rest) ∧
      TagText (attributes s).2 := by
  fun_induction attributes s with
  | case1 s hnone =>
      have hnone' := attribute?_bracket h rest
      rw [hnone, Option.map_none] at hnone'
      exact ⟨attributes_of_none hnone', h⟩
  | case2 s a after hread more left hmore ih =>
      have hread' := attribute?_bracket h rest
      rw [hread, Option.map_some] at hread'
      obtain ⟨hattributes, hleft⟩ := ih (tagText_of_attribute? h hread)
      rw [hmore] at hattributes hleft
      refine ⟨?_, hleft⟩
      rw [attributes_of_some hread']
      simp [hattributes]

/-! ### Tags -/

/-- What a tag text ends with decides whether a tag ends there. -/
lemma tagEnd?_bracket (h : TagText s) :
    ∃ e? : Option Bool, ∀ rest, tagEnd? (s ++ '>' :: rest) = e?.map (·, rest) := by
  have hend := h.trimStart
  simp only [tagEnd?, trimStart_bracket]
  generalize Text.trimStart s = left at hend
  cases left with
  | nil => exact ⟨some false, fun rest => rfl⟩
  | cons c left =>
      have hc := hend.ne_of_cons
      by_cases hslash : c = '/'
      · subst hslash
        cases left with
        | nil => exact ⟨some true, fun rest => rfl⟩
        | cons d left =>
            have hd := (hend.of_cons (by decide)).ne_of_cons
            exact ⟨none, fun rest => by simp [hd]⟩
      · exact ⟨none, fun rest => by simp [hc, hslash]⟩

lemma body?_bracket (closes : Bool) (h : TagText s) :
    ∃ t? : Option Tag, ∀ rest, body? closes (s ++ '>' :: rest) = t?.map (·, rest) := by
  by_cases hstart : s.head?.any isNameStart = true
  · have hname := h.dropWhile (p := isNameChar) (by decide)
    obtain ⟨e?, hend⟩ := tagEnd?_bracket (attributes_bracket hname []).2
    have hstart' (rest : List Char) : (s ++ '>' :: rest).head?.any isNameStart = true := by
      cases s with
      | nil => cases hstart
      | cons c s => exact hstart
    refine ⟨e?.map fun isEmpty => if closes then .closing (s.takeWhile isNameChar) else
      .opening (s.takeWhile isNameChar) (attributes (s.dropWhile isNameChar)).1 isEmpty,
      fun rest => ?_⟩
    simp only [body?, hstart', if_true, takeWhile_stop isNameChar_bracket,
      dropWhile_stop isNameChar_bracket, (attributes_bracket hname rest).1, hend,
      Option.map_map]
    rfl
  · refine ⟨none, fun rest => if_neg ?_⟩
    cases s with
    | nil => exact (by decide : ¬ isNameStart '>' = true)
    | cons c s => exact hstart

/-- **A tag is read within its brackets**, if its text is one. -/
theorem tag?_bracket (h : TagText s) :
    ∃ t? : Option Tag, ∀ rest, tag? ('<' :: (s ++ '>' :: rest)) = t?.map (·, rest) := by
  cases s with
  | nil => exact body?_bracket false h
  | cons c s =>
      by_cases hslash : c = '/'
      · subst hslash
        exact body?_bracket true (h.of_cons (by decide))
      · obtain ⟨t?, ht⟩ := body?_bracket false h
        refine ⟨t?, fun rest => ?_⟩
        rw [← ht, List.cons_append, tag?.eq_2 _ fun _ h => hslash (List.cons.inj h).1]

/-- A text without an opening bracket has no tags. -/
lemma tags_append (hs : '<' ∉ s) (rest : List Char) : tags (s ++ rest) = tags rest := by
  induction s with
  | nil => rfl
  | cons c s ih =>
      have hc : c ≠ '<' := fun h => hs (h ▸ List.mem_cons_self)
      rw [List.cons_append, tags_of_none (tag?_cons_of_ne hc _),
        ih fun h => hs (List.mem_cons_of_mem c h)]

/-- No comment starts where a tag does. -/
lemma not_prefix_tagText (hstart : s.head? ≠ some '!') (rest : List Char) :
    ¬ "<!--".toList <+: '<' :: (s ++ '>' :: rest) := by
  intro hopen
  have hmark := (List.cons_prefix_cons.1 hopen).2
  cases s with
  | nil => exact absurd (List.cons_prefix_cons.1 hmark).1 (by decide)
  | cons c s => exact hstart (congrArg some (List.cons_prefix_cons.1 hmark).1.symm)

/-- A tag is left as it is. -/
lemma withoutComments_bracket (h : TagText s) (hstart : s.head? ≠ some '!') (rest : List Char) :
    withoutComments ('<' :: (s ++ '>' :: rest)) = '<' :: (s ++ '>' :: withoutComments rest) := by
  rw [withoutComments_cons (not_prefix_tagText hstart rest), withoutComments_append h.not_mem,
    withoutComments_cons_of_ne (by decide)]

/-- **Behind a tag** the reading goes on as if nothing had been there before. -/
theorem read_bracket (h : TagText s) (hstart : s.head? ≠ some '!') :
    ∃ ts, ∀ rest, read ('<' :: (s ++ '>' :: rest)) = ts ++ read rest := by
  obtain ⟨t?, ht⟩ := tag?_bracket h
  refine ⟨t?.toList, fun rest => ?_⟩
  rw [read, withoutComments_bracket h hstart]
  cases t? with
  | none =>
      rw [tags_of_none (ht _), tags_append h.not_mem, tags_of_none (tag?_cons_of_ne (by decide) _)]
      rfl
  | some t => rw [tags_of_some (ht _)]; rfl

end Tag

end QualityGate
