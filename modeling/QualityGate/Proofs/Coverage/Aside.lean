import QualityGate.Coverage.Reader
import QualityGate.Proofs.Coverage.Bracket
import Mathlib.Tactic

/-!
What a report says beside its tags: comments, instructions, document types and sections of plain
text. A reader takes out the comments and then looks for tags anywhere, so what stands beside the
tags is passed over if nothing in it looks like a tag or like the opening of a comment. The text of
a comment may look like anything.

* `Inert`: nothing in a text looks like a tag or a comment.
* `Aside`: a comment, an instruction or a document type.
* `ReportText`: a front of a report that ends between two tags.
* `SplitsAt`: a reader reads a text and what follows it one after the other.
* `withoutComments_splitsAt`, `read_splitsAt`: it is so with the comments and the tags in a front of
  a report.
* **`CoverageReport.ofText_aside`**: a report without an aside is read as it was with it.
* `CoverageReport.ofText_note`: an instruction that holds a counter is read as a counter.
-/

namespace QualityGate

/-! ### Texts that look like markup -/

/-- A name as it stands in a tag: behind it comes a blank or an end of the tag. -/
def opensName (s : List Char) : Bool :=
  s.head?.any Tag.isNameStart &&
    (s.dropWhile Tag.isNameChar).head?.any fun c => Text.isBlank c || c == '/' || c == '>'

/-- The text starts as a tag does. -/
def opensTag : List Char → Bool
  | '<' :: '/' :: s => opensName s
  | '<' :: s => opensName s
  | _ => false

/-- No comment starts in the text. -/
def HasNoComment (text : List Char) : Prop := ¬ "<!--".toList <:+: text

/-- No comment and no tag starts in the text. -/
structure Inert (text : List Char) : Prop where
  noComment : HasNoComment text
  noTag : ∀ s ∈ text.tails, opensTag s = false

instance (text : List Char) : Decidable (HasNoComment text) := inferInstanceAs (Decidable (¬_))

instance (text : List Char) : Decidable (Inert text) :=
  decidable_of_iff (HasNoComment text ∧ ∀ s ∈ text.tails, opensTag s = false)
    ⟨fun h => ⟨h.1, h.2⟩, fun h => ⟨h.noComment, h.noTag⟩⟩

/-! ### Reports -/

section Grammar

variable (ok : List Char → Prop)

/-- The declarations inside of a document type, with comments and instructions between them. The
texts of all but the comments are as asked for. -/
inductive Declarations : List Char → Prop where
  | nil : Declarations []
  | char {c : Char} {rest : List Char} (hc : c ≠ '<') (hrest : Declarations rest) :
      Declarations (c :: rest)
  | comment {body rest : List Char} (hbody : ¬ "-->".toList <:+: body)
      (hrest : Declarations rest) :
      Declarations ("<!--".toList ++ (body ++ ("-->".toList ++ rest)))
  | instruction {body rest : List Char} (hbody : ¬ "?>".toList <:+: body)
      (hok : ok ("<?".toList ++ (body ++ "?>".toList))) (hrest : Declarations rest) :
      Declarations ("<?".toList ++ (body ++ ("?>".toList ++ rest)))
  | declaration {body rest : List Char} (hok : ok ("<!".toList ++ (body ++ ">".toList)))
      (hrest : Declarations rest) : Declarations ("<!".toList ++ (body ++ (">".toList ++ rest)))

/-- What may stand between two tags besides plain text: a comment, an instruction, or a document
type with or without declarations inside. The texts of all but the comments are as asked for. -/
inductive Aside : List Char → Prop where
  | comment {body : List Char} (hbody : ¬ "-->".toList <:+: body) :
      Aside ("<!--".toList ++ (body ++ "-->".toList))
  | instruction {body : List Char} (hbody : ¬ "?>".toList <:+: body)
      (hok : ok ("<?".toList ++ (body ++ "?>".toList))) :
      Aside ("<?".toList ++ (body ++ "?>".toList))
  | documentType {head : List Char} (hok : ok ("<!DOCTYPE".toList ++ (head ++ ">".toList))) :
      Aside ("<!DOCTYPE".toList ++ (head ++ ">".toList))
  | declarations {head inside blanks : List Char}
      (hok : ok ("<!DOCTYPE".toList ++ (head ++ "[".toList))) (hinside : Declarations ok inside)
      (hblanks : IsBlankText blanks) :
      Aside ("<!DOCTYPE".toList ++
        (head ++ ("[".toList ++ (inside ++ ("]".toList ++ (blanks ++ ">".toList))))))

/-- A front of a report that ends between two tags. Nothing is asked of how its elements nest. -/
inductive ReportText : List Char → Prop where
  | nil : ReportText []
  | char {c : Char} {rest : List Char} (hc : c ≠ '<') (hrest : ReportText rest) :
      ReportText (c :: rest)
  | tag {body rest : List Char} (hbody : TagText body) (hstart : body.head? ≠ some '!')
      (hrest : ReportText rest) : ReportText ('<' :: (body ++ '>' :: rest))
  | plain {body rest : List Char} (hbody : ¬ "]]>".toList <:+: body)
      (hok : ok ("<![CDATA[".toList ++ (body ++ "]]>".toList))) (hrest : ReportText rest) :
      ReportText ("<![CDATA[".toList ++ (body ++ ("]]>".toList ++ rest)))
  | aside {text rest : List Char} (htext : Aside ok text) (hrest : ReportText rest) :
      ReportText (text ++ rest)

/-- What there is between tags, by what it is for a reader: text, comments, and pieces that are as
asked for and end with a bracket. -/
inductive Passed : List Char → Prop where
  | nil : Passed []
  | char {c : Char} {rest : List Char} (hc : c ≠ '<') (hrest : Passed rest) : Passed (c :: rest)
  | comment {body rest : List Char} (hbody : ¬ "-->".toList <:+: body) (hrest : Passed rest) :
      Passed ("<!--".toList ++ (body ++ ("-->".toList ++ rest)))
  | piece {text rest : List Char} {c : Char} (hc : c = '>' ∨ c = '[')
      (hlast : text.getLast? = some c) (hok : ok text) (hrest : Passed rest) : Passed (text ++ rest)

end Grammar

section Passed

variable {ok : List Char → Prop} {s t : List Char}

lemma Passed.append (hs : Passed ok s) (ht : Passed ok t) : Passed ok (s ++ t) := by
  induction hs with
  | nil => exact ht
  | char hc hrest ih => exact .char hc ih
  | comment hbody hrest ih =>
      simp only [List.append_assoc]
      exact .comment hbody ih
  | piece hc hlast hok hrest ih =>
      rw [List.append_assoc]
      exact .piece hc hlast hok ih

lemma Passed.of_not_mem (h : '<' ∉ s) : Passed ok s := by
  induction s with
  | nil => exact .nil
  | cons c s ih =>
      have hc : c ≠ '<' := fun hc => h (hc ▸ List.mem_cons_self)
      exact .char hc (ih fun hs => h (List.mem_cons_of_mem c hs))

/-- A piece with its opening and its closing mark, the last character of which is a bracket. -/
lemma Passed.mark {opening body closing rest : List Char} {c : Char} (hc : c = '>' ∨ c = '[')
    (hlast : closing.getLast? = some c) (hok : ok (opening ++ (body ++ closing)))
    (hrest : Passed ok rest) : Passed ok (opening ++ (body ++ (closing ++ rest))) := by
  have hpiece := Passed.piece hc (by simp [List.getLast?_append, hlast]) hok hrest
  simpa only [List.append_assoc] using hpiece

lemma Declarations.passed (h : Declarations ok s) : Passed ok s := by
  induction h with
  | nil => exact .nil
  | char hc hrest ih => exact .char hc ih
  | comment hbody hrest ih => exact .comment hbody ih
  | instruction hbody hok hrest ih => exact .mark (.inl rfl) rfl hok ih
  | declaration hok hrest ih => exact .mark (.inl rfl) rfl hok ih

/-- **What may stand between two tags** is passed over by a reader. -/
lemma Aside.passed (h : Aside ok s) : Passed ok s := by
  cases h with
  | comment hbody => simpa only [List.append_nil] using Passed.comment hbody .nil
  | instruction hbody hok =>
      simpa only [List.append_nil] using Passed.mark (.inl rfl) rfl hok .nil
  | documentType hok => simpa only [List.append_nil] using Passed.mark (.inl rfl) rfl hok .nil
  | @declarations head inside blanks hok hinside hblanks =>
      have hend : '<' ∉ "]".toList ++ (blanks ++ ">".toList) := by
        simpa using Tag.not_mem_of_isBlankText hblanks
      exact .mark (.inr rfl) rfl hok (hinside.passed.append (.of_not_mem hend))

end Passed

/-! ### Reading on -/

/-- A reader reads the text and what follows it one after the other. -/
def SplitsAt {α : Type} (read : List Char → List α) (s : List Char) : Prop :=
  ∃ front, ∀ rest, read (s ++ rest) = front ++ read rest

section SplitsAt

variable {α : Type} {read : List Char → List α} {ok : List Char → Prop} {s t : List Char}

lemma splitsAt_nil : SplitsAt read [] := ⟨[], fun _ => rfl⟩

lemma SplitsAt.append (hs : SplitsAt read s) (ht : SplitsAt read t) : SplitsAt read (s ++ t) := by
  obtain ⟨front, hs⟩ := hs
  obtain ⟨front', ht⟩ := ht
  exact ⟨front ++ front', fun rest => by rw [List.append_assoc, hs, ht, List.append_assoc]⟩

/-- **A front of a report** is read on its own if tags and what there is between them are. -/
theorem ReportText.splitsAt (hpassed : ∀ s, Passed ok s → SplitsAt read s)
    (htag : ∀ s, TagText s → s.head? ≠ some '!' → SplitsAt read ('<' :: (s ++ ['>'])))
    (h : ReportText ok s) : SplitsAt read s := by
  induction h with
  | nil => exact splitsAt_nil
  | @char c rest hc hrest ih => exact (hpassed [c] (.char hc .nil)).append ih
  | @tag body rest hbody hstart hrest ih => simpa using (htag body hbody hstart).append ih
  | plain hbody hok hrest ih =>
      have hpiece := hpassed _ (.mark (.inl rfl) rfl hok .nil)
      simpa only [List.append_assoc, List.append_nil] using hpiece.append ih
  | @aside text rest htext hrest ih => exact (hpassed text htext.passed).append ih

end SplitsAt

namespace Tag

variable {s : List Char}

/-! ### Comments -/

/-- A piece without a comment is left as it is. -/
lemma withoutComments_piece {c : Char} (hc : c = '>' ∨ c = '[') (hlast : s.getLast? = some c)
    (h : HasNoComment s) (rest : List Char) :
    withoutComments (s ++ rest) = s ++ withoutComments rest := by
  obtain ⟨front, rfl⟩ := List.getLast?_eq_some_iff.1 hlast
  have hstop : c ∉ "<!--".toList := by rcases hc with rfl | rfl <;> decide
  have hfront : ¬ "<!--".toList <:+: front := fun hopen =>
    h (hopen.trans (List.prefix_append _ _).isInfix)
  simpa using withoutComments_append_stop hstop hfront rest

lemma withoutComments_splitsAt_passed (h : Passed HasNoComment s) :
    SplitsAt withoutComments s := by
  induction h with
  | nil => exact splitsAt_nil
  | @char c rest hc hrest ih =>
      have hkept : SplitsAt withoutComments [c] := ⟨[c], withoutComments_cons_of_ne hc⟩
      exact hkept.append ih
  | @comment body rest hbody hrest ih =>
      obtain ⟨front, ih⟩ := ih
      refine ⟨front, fun rest => ?_⟩
      simp only [List.append_assoc]
      rw [withoutComments_comment hbody, ih]
  | @piece text rest c hc hlast hok hrest ih =>
      exact SplitsAt.append ⟨text, withoutComments_piece hc hlast hok⟩ ih

/-- **Comments** are taken out of a front of a report and of what follows it apart, if none starts
outside of a comment. -/
theorem withoutComments_splitsAt (h : ReportText HasNoComment s) : SplitsAt withoutComments s := by
  refine h.splitsAt (fun s => withoutComments_splitsAt_passed) fun s hs hstart => ?_
  refine ⟨'<' :: (s ++ ['>']), fun rest => ?_⟩
  simpa using withoutComments_bracket hs hstart rest

/-! ### Tags -/

/-- No tag is read where a text does not start as one. -/
lemma body?_eq_none (closes : Bool) (h : opensName s = false) : body? closes s = none := by
  by_cases hstart : s.head?.any isNameStart = true
  · rw [opensName, hstart, Bool.true_and] at h
    rw [body?, if_pos hstart]
    generalize s.dropWhile isNameChar = behind at h
    cases behind with
    | nil =>
        rw [attributes_of_none (by rfl)]
        rfl
    | cons c behind =>
        simp only [List.head?_cons, Option.any_some, Bool.or_eq_false_iff, beq_eq_false_iff_ne] at h
        obtain ⟨⟨hblank, hslash⟩, hbracket⟩ := h
        have htrim : Text.trimStart (c :: behind) = c :: behind :=
          List.dropWhile_cons_of_neg (by simp [hblank])
        have hnone : attribute? (c :: behind) = none := by simp [attribute?, htrim]
        simp [attributes_of_none hnone, tagEnd?, htrim, hslash, hbracket]
  · exact if_neg hstart

lemma tag?_eq_none (h : opensTag s = false) : tag? s = none := by
  fun_cases opensTag s with
  | case1 s =>
      rw [opensTag] at h
      exact body?_eq_none true h
  | case2 s hslash =>
      rw [opensTag.eq_2 _ hslash] at h
      rw [tag?.eq_2 _ hslash]
      exact body?_eq_none false h
  | case3 s hslash hopen => exact tag?.eq_3 _ hslash hopen

section Stop

variable {c : Char} (hc : c = '>' ∨ c = '[')

include hc

lemma opensName_stop (s rest : List Char) : opensName (s ++ c :: rest) = opensName (s ++ [c]) := by
  have hname : isNameChar c = false := by rcases hc with rfl | rfl <;> decide
  have hhead (u rest : List Char) : (u ++ c :: rest).head? = (u ++ [c]).head? := by cases u <;> rfl
  rw [opensName, opensName, dropWhile_stop hname, dropWhile_stop hname, hhead, hhead _ rest]

/-- Whether a tag starts in a piece is seen from the piece. -/
lemma opensTag_stop (s rest : List Char) : opensTag (s ++ c :: rest) = opensTag (s ++ [c]) := by
  have hslash : c ≠ '/' := by rcases hc with rfl | rfl <;> decide
  cases s with
  | nil => rcases hc with rfl | rfl <;> rfl
  | cons d s =>
      by_cases hopen : d = '<'
      · subst hopen
        have hname := opensName_stop hc s rest
        cases s with
        | nil => simpa [opensTag, hslash] using hname
        | cons e s =>
            by_cases hcloses : e = '/'
            · subst hcloses
              exact opensName_stop hc s rest
            · simpa [opensTag, hcloses] using hname
      · simp [opensTag, hopen]

/-- A piece in which no tag starts has no tags. -/
lemma tags_piece (hlast : s.getLast? = some c) (h : ∀ u ∈ s.tails, opensTag u = false)
    (rest : List Char) : tags (s ++ rest) = tags rest := by
  obtain ⟨text, rfl⟩ := List.getLast?_eq_some_iff.1 hlast
  have hbracket : c ≠ '<' := by rcases hc with rfl | rfl <;> decide
  rw [List.append_assoc, List.singleton_append]
  clear hlast
  induction text with
  | nil => exact tags_of_none (tag?_cons_of_ne hbracket rest)
  | cons d text ih =>
      have hstart : opensTag (d :: text ++ c :: rest) = false := by
        rw [opensTag_stop hc]
        exact h _ ((List.mem_tails _ _).2 List.suffix_rfl)
      refine (tags_of_none (tag?_eq_none hstart)).trans (ih fun s hs => h s ?_)
      exact (List.mem_tails _ _).2 (((List.mem_tails _ _).1 hs).trans (List.suffix_cons _ _))

end Stop

lemma read_passed (h : Passed Inert s) (rest : List Char) : read (s ++ rest) = read rest := by
  induction h with
  | nil => rfl
  | @char c s hc hs ih =>
      rw [read, List.cons_append, withoutComments_cons_of_ne hc,
        tags_of_none (tag?_cons_of_ne hc _)]
      exact ih
  | @comment body s hbody hs ih =>
      simp only [List.append_assoc]
      rw [read, withoutComments_comment hbody]
      exact ih
  | @piece text s c hc hlast hok hs ih =>
      rw [read, List.append_assoc, withoutComments_piece hc hlast hok.noComment,
        tags_piece hc hlast hok.noTag]
      exact ih

/-- **Tags** are read from a front of a report and from what follows it apart, if none starts beside
the tags. -/
theorem read_splitsAt (h : ReportText Inert s) : SplitsAt read s := by
  refine h.splitsAt (fun s hs => ⟨[], read_passed hs⟩) fun s hs hstart => ?_
  obtain ⟨ts, hread⟩ := read_bracket hs hstart
  exact ⟨ts, fun rest => by simpa using hread rest⟩

end Tag

/-! ### Asides -/

/-- **What stands beside the tags** makes no difference to what is read. A comment can be left out,
whatever it says, if no comment starts in front of it in a text that is neither a tag nor a comment.
An instruction or a document type, and the comments in it, can be left out if nothing in it or in
front of it beside the tags looks like a tag or like the opening of a comment. It may stand between
any two tags, in front of the first or behind the last one, and nothing is asked of what follows. -/
theorem CoverageReport.ofText_aside (scope : UnitScope) (after : List Char) :
    (∀ before body, ReportText HasNoComment before → ¬ "-->".toList <:+: body →
      ofText scope (before ++ ("<!--".toList ++ (body ++ "-->".toList) ++ after)) =
        ofText scope (before ++ after)) ∧
    ∀ before inserted, ReportText Inert before → Aside Inert inserted →
      ofText scope (before ++ (inserted ++ after)) = ofText scope (before ++ after) := by
  constructor
  · intro before body hbefore hbody
    obtain ⟨front, hfront⟩ := Tag.withoutComments_splitsAt hbefore
    have hcomment := Tag.withoutComments_comment hbody after
    rw [ofText, ofText, hfront, hfront]
    simp only [List.append_assoc, hcomment]
  · intro before inserted hbefore hinserted
    obtain ⟨ts, hread⟩ := Tag.read_splitsAt hbefore
    show ofTags scope (Tag.read _) = ofTags scope (Tag.read _)
    rw [hread, hread, Tag.read_passed hinserted.passed]

/-- A comment and a declared document type, both with a counter in a comment. In front of the
comment there is an instruction that looks like a tag. -/
theorem CoverageReport.ofText_aside_commentedCounter :
    let counter := "<counter type=\"LINE\" missed=\"100\" covered=\"0\"/>".toList
    let comment := "<!--".toList ++ (counter ++ "-->".toList)
    let note := "<?".toList ++ ("note <b/>".toList ++ "?>".toList)
    let version := "<?".toList ++ ("xml version='1.0'".toList ++ "?>".toList)
    let inside := "<!".toList ++ ("ELEMENT report (counter*)".toList ++ (">".toList ++
      ("<!--".toList ++ (counter ++ ("-->".toList ++ [])))))
    let documentType := "<!DOCTYPE".toList ++ (" report ".toList ++ ("[".toList ++
      (inside ++ ("]".toList ++ (" ".toList ++ ">".toList)))))
    let counted := "<counter type=\"LINE\" missed=\"1\" covered=\"9\"/></report>".toList
    ReportText HasNoComment (note ++ '<' :: ("report".toList ++ ['>'])) ∧
      ¬ "-->".toList <:+: counter ∧ ReportText Inert version ∧ Aside Inert documentType ∧
      ofText .type (note ++ '<' :: ("report".toList ++ ['>']) ++ (comment ++ counted)) =
        .ok ⟨[⟨.line, 1, 9⟩], []⟩ ∧
      ofText .type (version ++ (documentType ++ ("<report>".toList ++ counted))) =
        .ok ⟨[⟨.line, 1, 9⟩], []⟩ := by
  intro counter comment note version inside documentType counted
  have hbody : ¬ "-->".toList <:+: counter := by decide
  have hnote : ReportText HasNoComment (note ++ '<' :: ("report".toList ++ ['>'])) :=
    .aside (.instruction (by decide) (by decide))
      (.tag (.of_forall (by decide)) (by decide) .nil)
  have hversion : ReportText Inert version := by
    have htext : Aside Inert version := .instruction (by decide) (by decide +kernel)
    simpa using ReportText.aside htext .nil
  have hinside : Declarations Inert inside := .declaration (by decide +kernel) (.comment hbody .nil)
  have htype : Aside Inert documentType := .declarations (by decide +kernel) hinside (by decide)
  refine ⟨hnote, hbody, hversion, htype, ?_, ?_⟩
  · rw [(ofText_aside .type counted).1 _ counter hnote hbody]
    decide +kernel
  · rw [(ofText_aside .type _).2 version documentType hversion htype]
    decide +kernel

/-- **An instruction that holds a counter** is read as a counter, which takes the place of the one
in front of it. -/
theorem CoverageReport.ofText_note :
    let before := "<report><counter type=\"LINE\" missed=\"1\" covered=\"9\"/>".toList
    let note := "<?".toList ++
      ("note <counter type=\"LINE\" missed=\"100\" covered=\"0\"/>".toList ++ "?>".toList)
    let after := "</report>".toList
    Aside (fun _ => True) note ∧
      ofText .type (before ++ after) = .ok ⟨[⟨.line, 1, 9⟩], []⟩ ∧
      ofText .type (before ++ (note ++ after)) = .ok ⟨[⟨.line, 100, 0⟩], []⟩ := by
  intro before note after
  exact ⟨.instruction (by decide) trivial, by decide +kernel, by decide +kernel⟩

end QualityGate
