import QualityGate.Declaration.Shape
import QualityGate.Proofs.Source.Element
import QualityGate.Proofs.Text.Blank
import Mathlib.Tactic

/-!
Annotations on the line of a declaration. An annotation as it is written has a name and possibly
arguments in parentheses, in which parentheses balance outside of literals.

* `splitArguments?_text`: arguments end where their parentheses are closed.
* `dropAnnotations_text`: annotations are dropped, and nothing else.
* `declaration?_annotated`: **annotations do not change what a line declares**, unless the
  declaration is one of an annotation type.
* `typeDeclaration?_annotated_interface`: an annotation type is not recognised behind an annotation.
-/

namespace QualityGate

open Text (isBlank)

/-! ### Arguments -/

/-- A piece can stand in a literal with the given quote. -/
def Piece.IsInside (quote : Char) : Piece → Prop
  | char c => c ≠ quote ∧ c ≠ '\\'
  | escape _ => True

instance (quote : Char) : DecidablePred (Piece.IsInside quote)
  | .char c => inferInstanceAs (Decidable (c ≠ quote ∧ c ≠ '\\'))
  | .escape _ => inferInstanceAs (Decidable True)

/-- A part of the arguments of an annotation. -/
inductive ArgumentPart where
  | plain (c : Char)
  | opening
  | closing
  | literal (quote : Char) (body : List Piece)
  deriving DecidableEq, Repr

namespace ArgumentPart

/-- The characters of a part. -/
def text : ArgumentPart → List Char
  | plain c => [c]
  | opening => ['(']
  | closing => [')']
  | literal quote body => quote :: (piecesText body ++ [quote])

/-- A part is read as what it stands for. -/
def WellFormed : ArgumentPart → Prop
  | plain c => c ∉ ['(', ')', '"', '\'']
  | opening | closing => True
  | literal quote body =>
      (quote = '"' ∨ quote = '\'') ∧ ∀ p ∈ body, p.IsInside quote

instance : DecidablePred WellFormed
  | plain c => inferInstanceAs (Decidable (c ∉ ['(', ')', '"', '\'']))
  | opening | closing => inferInstanceAs (Decidable True)
  | literal quote body => inferInstanceAs
      (Decidable ((quote = '"' ∨ quote = '\'') ∧ ∀ p ∈ body, p.IsInside quote))

/-- By how much a part changes the number of open parentheses. -/
def depth : ArgumentPart → ℤ
  | opening => 1
  | closing => -1
  | plain _ | literal _ _ => 0

end ArgumentPart

/-- The text of arguments. -/
def argumentsText (ps : List ArgumentPart) : List Char := ps.flatMap ArgumentPart.text

/-- How many parentheses are open after the parts. -/
def argumentsDepth (ps : List ArgumentPart) : ℤ := (ps.map ArgumentPart.depth).sum

/-- The parts are arguments: the parenthesis that they start with is closed at their end, and not
before. -/
structure AreArguments (ps : List ArgumentPart) : Prop where
  parts : ∀ p ∈ ps, p.WellFormed
  head : ps.head? = some .opening
  inside : ∀ k < ps.length, 0 < k → 0 < argumentsDepth (ps.take k)
  closed : argumentsDepth ps = 0

instance : DecidablePred AreArguments := fun ps =>
  decidable_of_iff ((∀ p ∈ ps, p.WellFormed) ∧ ps.head? = some .opening ∧
      (∀ k < ps.length, 0 < k → 0 < argumentsDepth (ps.take k)) ∧ argumentsDepth ps = 0)
    ⟨fun h => ⟨h.1, h.2.1, h.2.2.1, h.2.2.2⟩, fun h => ⟨h.parts, h.head, h.inside, h.closed⟩⟩

/-- A literal is passed over. -/
lemma splitAtClosing?_literal {quote : Char} (hquote : quote ≠ '\\') {body : List Piece}
    (hbody : ∀ p ∈ body, p.IsInside quote) (n : ℕ) (s : List Char) :
    splitAtClosing? n (some quote) (piecesText body ++ quote :: s) =
      (splitAtClosing? n none s).map fun w => (piecesText body ++ quote :: w.1, w.2) := by
  induction body with
  | nil =>
      rw [piecesText_nil, List.nil_append, splitAtClosing?.eq_4, if_pos rfl]
      · rfl
      · rintro h; exact absurd h hquote
      · rintro c r h; exact absurd h hquote
  | cons p body ih =>
      have hp := hbody p List.mem_cons_self
      have ih := ih fun q hq => hbody q (List.mem_cons_of_mem p hq)
      cases p with
      | char c =>
          obtain ⟨hc, hback⟩ := hp
          rw [piecesText_char, List.cons_append, splitAtClosing?.eq_4, if_neg hc, ih,
            Option.map_map]
          · rfl
          · rintro h; exact absurd h hback
          · rintro d r h; exact absurd h hback
      | escape c =>
          rw [piecesText_escape, List.cons_append, List.cons_append, splitAtClosing?, ih,
            Option.map_map]
          rfl

/-- Arguments are read up to the parenthesis that closes all that are open before them. -/
lemma splitAtClosing?_text {ps : List ArgumentPart} (hps : ∀ p ∈ ps, p.WellFormed) {n : ℕ}
    (hn : 0 < n) (hinside : ∀ k, k < ps.length → 0 < n + argumentsDepth (ps.take k))
    (hclosed : n + argumentsDepth ps = 0) (s : List Char) :
    splitAtClosing? n none (argumentsText ps ++ s) = some (argumentsText ps, s) := by
  induction ps generalizing n with
  | nil => simp [argumentsDepth] at hclosed; omega
  | cons p ps ih =>
      obtain ⟨hp, hrest⟩ := List.forall_mem_cons.1 hps
      have hdepth (qs : List ArgumentPart) :
          argumentsDepth (p :: qs) = p.depth + argumentsDepth qs := by
        simp [argumentsDepth]
      have hafter (k : ℕ) (hk : k < ps.length) :
          0 < n + (p.depth + argumentsDepth (ps.take k)) := by
        have h := hinside (k + 1) (by simpa using hk)
        rwa [List.take_succ_cons, hdepth] at h
      rw [hdepth] at hclosed
      have htext : argumentsText (p :: ps) ++ s = p.text ++ (argumentsText ps ++ s) := by
        simp [argumentsText]
      rw [htext]
      cases p with
      | plain c =>
          simp only [ArgumentPart.WellFormed, List.mem_cons, List.not_mem_nil, not_or] at hp
          have ih := ih hrest hn (by simpa [ArgumentPart.depth] using hafter)
            (by simpa [ArgumentPart.depth] using hclosed)
          rw [ArgumentPart.text, List.singleton_append, splitAtClosing?.eq_5, if_neg (by simp [hp]),
            if_neg hp.1, if_neg hp.2.1, ih]
          rfl
      | opening =>
          have ih := ih hrest (n := n + 1) (by omega)
            (fun k hk => by
              have h := hafter k hk
              simp only [ArgumentPart.depth] at h
              push_cast
              omega)
            (by simp only [ArgumentPart.depth] at hclosed; push_cast; omega)
          rw [ArgumentPart.text, List.singleton_append, splitAtClosing?.eq_5, if_neg (by decide),
            if_pos rfl, ih]
          rfl
      | closing =>
          rw [ArgumentPart.text, List.singleton_append, splitAtClosing?.eq_5, if_neg (by decide),
            if_neg (by decide), if_pos rfl]
          simp only [ArgumentPart.depth] at hafter hclosed
          cases ps with
          | nil =>
              simp only [argumentsDepth, List.map_nil, List.sum_nil] at hclosed
              rw [if_pos (by omega)]
              rfl
          | cons q qs =>
              have hone := hafter 0 (by simp)
              simp only [List.take_zero, argumentsDepth, List.map_nil, List.sum_nil] at hone
              have ih := ih hrest (n := n - 1) (by omega)
                (fun k hk => by have h := hafter k hk; omega) (by omega)
              rw [if_neg (by omega), ih]
              rfl
      | literal quote body =>
          obtain ⟨hquote, hbody⟩ := hp
          have ih := ih hrest hn (by simpa [ArgumentPart.depth] using hafter)
            (by simpa [ArgumentPart.depth] using hclosed)
          have hback : quote ≠ '\\' := by rcases hquote with rfl | rfl <;> decide
          rw [ArgumentPart.text, List.cons_append, List.append_assoc, splitAtClosing?.eq_5,
            if_pos hquote, List.singleton_append, splitAtClosing?_literal hback hbody, ih]
          simp [argumentsText, ArgumentPart.text]

/-- **Arguments end where their parentheses are closed.** -/
theorem splitArguments?_text {ps : List ArgumentPart} (hps : AreArguments ps) (s : List Char) :
    splitArguments? (argumentsText ps ++ s) = some (argumentsText ps, s) := by
  obtain ⟨qs, rfl⟩ := List.head?_eq_some_iff.1 hps.head
  have hdepth (qs : List ArgumentPart) :
      argumentsDepth (.opening :: qs) = 1 + argumentsDepth qs := by
    simp [argumentsDepth, ArgumentPart.depth]
  have hread := splitAtClosing?_text (n := 1) (List.forall_mem_cons.1 hps.parts).2 (by omega)
    (fun k hk => by
      have h := hps.inside (k + 1) (by simpa using hk) (by omega)
      rw [List.take_succ_cons, hdepth] at h
      exact_mod_cast h)
    (by have h := hps.closed; rw [hdepth] at h; exact_mod_cast h) s
  have htext : argumentsText (.opening :: qs) ++ s = '(' :: (argumentsText qs ++ s) := by
    simp [argumentsText, ArgumentPart.text]
  rw [splitArguments?, htext, splitAtClosing?.eq_5, if_neg (by decide), if_pos rfl, hread]
  rfl

/-! ### Annotations -/

/-- An annotation as it is written. -/
structure Annotation where
  name : List Char
  /-- White space between the name and the arguments, and the arguments. -/
  arguments : Option (List Char × List ArgumentPart)
  /-- White space after the annotation. -/
  after : List Char
  deriving DecidableEq, Repr

namespace Annotation

/-- What follows the name. -/
def tail (a : Annotation) : List Char :=
  (a.arguments.map fun x => x.1 ++ argumentsText x.2).getD [] ++ a.after

/-- The text of an annotation. -/
def text (a : Annotation) : List Char := '@' :: (a.name ++ a.tail)

/-- The parts of an annotation are what they stand for. -/
structure WellFormed (a : Annotation) : Prop where
  name_ne : a.name ≠ []
  name_chars : ∀ c ∈ a.name, isAnnotationNameChar c = true
  not_interface : ¬ "interface".toList <+: a.name
  arguments : ∀ x ∈ a.arguments, (∀ c ∈ x.1, isBlank c = true) ∧ AreArguments x.2
  after : ∀ c ∈ a.after, isBlank c = true
  after_ne : a.arguments = none → a.after ≠ []

/-- White space is no part of the name of an annotation. -/
lemma isAnnotationNameChar_of_isBlank {c : Char} (h : isBlank c = true) :
    isAnnotationNameChar c = false := by
  simp (disch := decide) [isAnnotationNameChar, isWord_of_isBlank h, ne_of_isBlank h]

variable {a : Annotation} (h : a.WellFormed)

include h

/-- What follows the name does not continue it. -/
lemma WellFormed.head_tail (s : List Char) :
    ∀ c ∈ (a.tail ++ s).head?, isAnnotationNameChar c = false := by
  cases harg : a.arguments with
  | none =>
      rw [tail, harg]
      exact forall_head?_append (h.after_ne harg)
        (fun c hc => isAnnotationNameChar_of_isBlank (h.after c hc)) s
  | some x =>
      obtain ⟨hblank, hargs⟩ := h.arguments x harg
      obtain ⟨ps, hps⟩ := List.head?_eq_some_iff.1 hargs.head
      have htail : a.tail ++ s = x.1 ++ '(' :: (argumentsText ps ++ a.after ++ s) := by
        rw [tail, harg, Option.map_some, Option.getD_some, hps]
        simp [argumentsText, ArgumentPart.text]
      rw [htail]
      exact forall_head?_append_cons
        (fun c hc => isAnnotationNameChar_of_isBlank (hblank c hc)) (by decide) _

/-- An annotation is dropped together with the white space after it. -/
lemma WellFormed.afterAnnotation?_text {s : List Char}
    (hs : ∀ c ∈ s.head?, isBlank c = false ∧ c ≠ '(') :
    afterAnnotation? (a.text ++ s) = some s := by
  obtain ⟨htake, hdrop⟩ := takeWhile_append_of_head h.name_chars (h.head_tail s)
  have hsolid : Text.trimStart s = s := by
    cases s with
    | nil => rfl
    | cons c s => exact Text.trimStart_cons_of_not_blank (hs c rfl).1 s
  have hafter : Text.trimStart (a.after ++ s) = s := by
    rw [trimStart_blank_append h.after, hsolid]
  have hline : a.text ++ s = '@' :: (a.name ++ (a.tail ++ s)) := by simp [text]
  rw [hline, afterAnnotation?, htake, hdrop, if_neg (by simp [h.name_ne]), tail]
  cases harg : a.arguments with
  | none =>
      have hparen : ['('].isPrefixOf s = false := by
        cases s with
        | nil => rfl
        | cons c s =>
            rw [List.isPrefixOf_cons_cons, beq_eq_false_iff_ne.2 (hs c rfl).2.symm, Bool.false_and]
      rw [Option.map_none, Option.getD_none, List.nil_append, hafter, afterArguments?, hparen]
      simp [hsolid]
  | some x =>
      obtain ⟨hblank, hargs⟩ := h.arguments x harg
      have hsplit := splitArguments?_text hargs (a.after ++ s)
      obtain ⟨ps, hps⟩ := List.head?_eq_some_iff.1 hargs.head
      have hopen : argumentsText x.2 ++ (a.after ++ s) =
          '(' :: (argumentsText ps ++ (a.after ++ s)) := by
        rw [hps]
        simp [argumentsText, ArgumentPart.text]
      have htrim : Text.trimStart ((x.1 ++ argumentsText x.2 ++ a.after) ++ s) =
          argumentsText x.2 ++ (a.after ++ s) := by
        rw [List.append_assoc, List.append_assoc, trimStart_blank_append hblank, hopen]
        exact Text.trimStart_cons_of_not_blank (by decide) _
      rw [Option.map_some, Option.getD_some, htrim, afterArguments?,
        if_pos (by rw [hopen]; rfl), hsplit]
      simp [hafter]

end Annotation

/-! ### Lines with annotations -/

/-- The text of annotations. -/
def annotationsText (as : List Annotation) : List Char := as.flatMap Annotation.text

/-- A text that does not start with an at sign has no annotations. -/
lemma dropAnnotations_eq_self {s : List Char} (hs : ∀ c ∈ s.head?, c ≠ '@') :
    dropAnnotations s = s := by
  have hnone : afterAnnotation? s = none := by
    unfold afterAnnotation?
    split
    · exact absurd rfl (hs _ rfl)
    · rfl
  rw [dropAnnotations]
  split
  · next h => rw [hnone] at h; cases h
  · rfl

/-- Annotations are dropped, and nothing else. -/
lemma dropAnnotations_text {as : List Annotation} (has : ∀ a ∈ as, a.WellFormed) {c : Char}
    {s : List Char} (hblank : isBlank c = false) (hparen : c ≠ '(') (hat : c ≠ '@') :
    dropAnnotations (annotationsText as ++ c :: s) = c :: s := by
  induction as with
  | nil => exact dropAnnotations_eq_self fun d hd => by cases hd; exact hat
  | cons a as ih =>
      obtain ⟨ha, has⟩ := List.forall_mem_cons.1 has
      have hline : annotationsText (a :: as) ++ c :: s =
          a.text ++ (annotationsText as ++ c :: s) := by
        simp [annotationsText]
      have hread := ha.afterAnnotation?_text (s := annotationsText as ++ c :: s) fun d hd => by
        cases as with
        | nil => cases hd; exact ⟨hblank, hparen⟩
        | cons b bs => cases hd; exact ⟨by decide, by decide⟩
      rw [hline, dropAnnotations]
      split
      · next t h =>
          rw [hread, Option.some.injEq] at h
          rw [← h]
          exact ih has
      · next h => rw [hread] at h; cases h

/-- A word in front of a text is in front of its first part, if the rest does not start with a
character of the word. -/
lemma prefix_of_prefix_append {w a b : List Char} (h : w <+: a ++ b)
    (hb : ∀ c ∈ b.head?, c ∉ w) : w <+: a := by
  rcases List.prefix_or_prefix_of_prefix h (List.prefix_append a b) with h | ⟨u, rfl⟩
  · exact h
  · cases u with
    | nil => rw [List.append_nil]
    | cons d u =>
        obtain ⟨v, rfl⟩ := (List.prefix_append_right_inj a).1 h
        exact absurd (by simp) (hb d rfl)

/-- The text of annotations does not declare an annotation type. -/
lemma not_interface_prefix {as : List Annotation} (has : ∀ a ∈ as, a.WellFormed) (hne : as ≠ [])
    (s : List Char) : ¬ "@interface".toList <+: annotationsText as ++ s := by
  obtain ⟨a, as, rfl⟩ := List.exists_cons_of_ne_nil hne
  have ha := has a List.mem_cons_self
  have hline : annotationsText (a :: as) ++ s =
      '@' :: (a.name ++ (a.tail ++ (annotationsText as ++ s))) := by
    simp [annotationsText, Annotation.text]
  have hword : ∀ c ∈ "interface".toList, isAnnotationNameChar c = true := by decide
  intro h
  rw [hline] at h
  refine ha.not_interface
    (prefix_of_prefix_append (List.cons_prefix_cons.1 h).2 fun c hc hmem => ?_)
  have hchar := ha.head_tail _ c hc
  rw [hword c hmem] at hchar
  cases hchar

/-- Without the annotations in front of it, a line is what it is without them. -/
lemma withoutAnnotations_trim {as : List Annotation} (has : ∀ a ∈ as, a.WellFormed)
    {indent : List Char} (hindent : ∀ d ∈ indent, isBlank d = true) {c : Char} (s : List Char)
    (hblank : isBlank c = false) (hparen : c ≠ '(') (hat : c = '@' → as = []) :
    withoutAnnotations (Text.trim (indent ++ (annotationsText as ++ c :: s))) =
      withoutAnnotations (Text.trim (c :: s)) := by
  have htext : Text.trimStart (indent ++ annotationsText as) = annotationsText as := by
    rw [trimStart_blank_append hindent]
    cases as with
    | nil => rfl
    | cons a as => exact Text.trimStart_cons_of_not_blank (by decide) _
  have hline : Text.trim (indent ++ (annotationsText as ++ c :: s)) =
      annotationsText as ++ c :: Text.trimEnd s := by
    rw [← List.append_assoc, trim_append_cons hblank, htext]
  have hbare : Text.trim (c :: s) = c :: Text.trimEnd s := trim_append_cons hblank [] s
  rw [hline, hbare]
  by_cases hne : as = []
  · rw [hne]
    rfl
  · have hc : c ≠ '@' := fun h => hne (hat h)
    have hword : "@interface".toList.isPrefixOf (c :: Text.trimEnd s) = false := by
      have hchars : "@interface".toList = '@' :: "interface".toList := rfl
      rw [hchars, List.isPrefixOf_cons_cons, beq_eq_false_iff_ne.2 hc.symm, Bool.false_and]
    have hannotated : "@interface".toList.isPrefixOf (annotationsText as ++ c :: Text.trimEnd s) =
        false := by
      rw [Bool.eq_false_iff]
      exact fun h => not_interface_prefix has hne _ (List.isPrefixOf_iff_prefix.1 h)
    rw [withoutAnnotations, withoutAnnotations, hword, hannotated, if_neg (by simp),
      if_neg (by simp), dropAnnotations_text has hblank hparen hc,
      dropAnnotations_eq_self fun d hd => by cases hd; exact hc]

/-- **Annotations do not change what a line declares**, whatever their names and arguments are and
whatever declaration follows them. The one exception is the declaration of an annotation type that
starts with `@interface`: it has to stand in front. -/
theorem declaration?_annotated {as : List Annotation} (has : ∀ a ∈ as, a.WellFormed)
    {indent : List Char} (hindent : ∀ d ∈ indent, isBlank d = true) {c : Char} (s : List Char)
    (hblank : isBlank c = false) (hparen : c ≠ '(') (hat : c = '@' → as = []) :
    declaration? (indent ++ (annotationsText as ++ c :: s)) = declaration? (c :: s) ∧
      typeDeclaration? (indent ++ (annotationsText as ++ c :: s)) = typeDeclaration? (c :: s) ∧
      memberDeclaration? (indent ++ (annotationsText as ++ c :: s)) =
        memberDeclaration? (c :: s) := by
  have hline := withoutAnnotations_trim has hindent s hblank hparen hat
  have htype : typeDeclaration? (indent ++ (annotationsText as ++ c :: s)) =
      typeDeclaration? (c :: s) := by
    rw [typeDeclaration?, typeDeclaration?, hline]
  have hmember : memberDeclaration? (indent ++ (annotationsText as ++ c :: s)) =
      memberDeclaration? (c :: s) := by
    simp only [memberDeclaration?, hline]
  exact ⟨by rw [declaration?, declaration?, htype, hmember], htype, hmember⟩

/-- Annotations with nested arguments and with parentheses and escaped quotes in literals. -/
theorem declaration?_annotated_timedMethod :
    let as : List Annotation :=
      [⟨"Timed".toList, some ([], [.opening, .literal '"' [.char ')', .escape '"'], .closing]), [' ']⟩,
        ⟨"a.Retry".toList, some ([' '], [.opening, .plain '@', .plain 'B', .opening, .plain '1',
          .closing, .literal '\'' [.char '('], .closing]), []⟩,
        ⟨"Override".toList, none, [' ']⟩]
    (∀ a ∈ as, a.WellFormed) ∧
      declaration? ("  ".toList ++ (annotationsText as ++ 'v' :: "oid poll() \x7b".toList)) =
        some ⟨"poll".toList, .package, .method⟩ := by
  intro as
  have has : ∀ a ∈ as, a.WellFormed := by
    intro a ha
    simp only [as, List.mem_cons, List.not_mem_nil, or_false] at ha
    rcases ha with rfl | rfl | rfl
    · exact ⟨by decide, by decide +kernel, by decide, by decide, by decide, by decide⟩
    · exact ⟨by decide, by decide +kernel, by decide, by decide, by decide, by decide⟩
    · exact ⟨by decide, by decide +kernel, by decide, by decide, by decide, by decide⟩
  have h := declaration?_annotated has (by decide : ∀ d ∈ "  ".toList, isBlank d = true)
    (c := 'v') "oid poll() \x7b".toList (by decide) (by decide) (by simp)
  exact ⟨has, h.1.trans (by decide +kernel)⟩

/-- An annotation type is recognised on its own, but not behind an annotation. -/
theorem typeDeclaration?_annotated_interface :
    typeDeclaration? "@interface Audited".toList = some ⟨"Audited".toList, .package, .type⟩ ∧
      typeDeclaration? "@Documented @interface Audited".toList = none := by
  decide +kernel

end QualityGate
