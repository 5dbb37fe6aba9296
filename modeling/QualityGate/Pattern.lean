import QualityGate.Glob.Match
import QualityGate.Regex.Notation
import QualityGate.Text.Each

/-!
Globs and regular expressions as texts. Everything that takes a glob or an expression from a text
takes a `PatternNotation`, which says how the text is read; unless another one is given, it is the
notation of `Glob.ofText?` and `Regex.ofText?`. What is proved for every notation holds whatever
texts a glob library or an expression library accepts.

* `compileGlobs`, `compileAll`: what texts stand for, or the first text that stands for nothing.
* `PatternNotation.IsCumulative`: globs that can be read one by one can be put together.
-/

namespace QualityGate

/-- The globs of a configuration are matched against whole paths, and wildcards match slashes. -/
def excludeStyle : GlobStyle := ⟨false, false⟩

/-- How the texts of globs and of expressions are read. -/
structure PatternNotation where
  glob? : List Char → Option CompiledGlob
  expression? : List Char → Option Regex
  /-- Globs that can be read can be put together in one filter. -/
  joins : List CompiledGlob → Bool

namespace PatternNotation

/-- The notation of this library, in which globs can always be put together. -/
def standard : PatternNotation := ⟨CompiledGlob.ofText? excludeStyle, Regex.ofText?, fun _ => true⟩

/-- Globs that can be read one by one can be put together. -/
def IsCumulative (n : PatternNotation) : Prop :=
  ∀ gs, (∀ g ∈ gs, ∃ t, n.glob? t = some g) → n.joins gs = true

theorem isCumulative_standard : standard.IsCumulative := fun _ _ => rfl

end PatternNotation

/-- The globs that texts stand for, or else the first text that stands for none. -/
def compileGlobs (texts : List String) (n : PatternNotation := .standard) :
    Except String (List CompiledGlob) :=
  Text.readEach n.glob? texts

/-- The expressions that texts stand for, or else the first text that stands for none. -/
def compileAll (texts : List String) (n : PatternNotation := .standard) :
    Except String (List Regex) :=
  Text.readEach n.expression? texts

end QualityGate
