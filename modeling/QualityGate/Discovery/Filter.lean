import QualityGate.Config.Basic
import QualityGate.Error
import QualityGate.Path.Basic
import QualityGate.Pattern

/-!
Which files are looked at: files with one of some extensions that no exclude glob matches.

* `FileFilter.accepts`: the filter takes a file.
* `FileFilter.not_accepts_of_excluded`: an exclude glob wins over an extension.
-/

namespace QualityGate

/-- A text without dots at its front. -/
def withoutDots (s : List Char) : List Char := s.dropWhile (· == '.')

/-- A text in which the case of ASCII letters does not count. -/
def lowered (s : List Char) : List Char := s.map Char.toLower

/-- A filter for files. -/
structure FileFilter where
  /-- Extensions without a dot and in lower case. No extension stands for all files. -/
  extensions : List (List Char)
  exclude : List CompiledGlob

namespace FileFilter

/-- The filter for extensions and exclude globs, or the first glob that is none, or all globs if
they cannot be put together. -/
def ofTexts (extensions exclude : List String) (n : PatternNotation := .standard) :
    Except GateError FileFilter :=
  match compileGlobs exclude n with
  | .error pattern => .error (.invalidPattern pattern)
  | .ok globs =>
    if n.joins globs then .ok ⟨extensions.map fun e => lowered (withoutDots e.toList), globs⟩
    else .error (.invalidPattern (String.intercalate ", " exclude))

/-- The filter that settings ask for. -/
def ofSettings (s : ScannerSettings) (n : PatternNotation := .standard) :
    Except GateError FileFilter :=
  ofTexts s.extensions s.exclude n

/-- The extension of a path is one of the filter. -/
def hasExtension (f : FileFilter) (p : Path) : Bool :=
  f.extensions.isEmpty || p.extension?.any fun e => f.extensions.contains (lowered e)

/-- An exclude glob matches a path. -/
def isExcluded (f : FileFilter) (p : Path) : Bool := f.exclude.any fun g => g.isMatch p.text.toList

/-- The filter takes a file. -/
def accepts (f : FileFilter) (p : Path) : Bool := f.hasExtension p && !f.isExcluded p

/-- An exclude glob wins over an extension. -/
theorem not_accepts_of_excluded {f : FileFilter} {p : Path} (h : f.isExcluded p = true) :
    f.accepts p = false := by
  simp [accepts, h]

/-- With extensions to choose from, a file without one is not taken. -/
theorem not_accepts_of_no_extension {f : FileFilter} {p : Path} (hf : f.extensions ≠ [])
    (hp : p.extension? = none) : f.accepts p = false := by
  simp [accepts, hasExtension, hp, hf]

end FileFilter

end QualityGate
