/-!
Declarations: what a line of code declares, with which visibility and under which name.
-/

namespace QualityGate

/-- Who may use a declaration. -/
inductive Visibility where
  | «public»
  | «protected»
  | «private»
  /-- No access modifier: the package. -/
  | package
  deriving DecidableEq, Repr, Inhabited

namespace Visibility

/-- The word for a visibility. -/
def name : Visibility → String
  | «public» => "public"
  | «protected» => "protected"
  | «private» => "private"
  | package => "package"

/-- The word at the start of a message. -/
def capitalized : Visibility → String
  | «public» => "Public"
  | «protected» => "Protected"
  | «private» => "Private"
  | package => "Package"

/-- The visibilities that an access modifier can give. -/
def modifiers : List Visibility := [«public», «protected», «private»]

/-- All visibilities. -/
def all : List Visibility := modifiers ++ [package]

/-- The visibility with the given name. -/
def ofName? (name : String) : Option Visibility := all.find? fun v => v.name == name

end Visibility

/-- The kinds of declarations. -/
inductive DeclarationKind where
  | method
  | constructor
  /-- A class, interface, enumeration, record or annotation type. -/
  | type
  deriving DecidableEq, Repr, Inhabited

namespace DeclarationKind

/-- The word for a kind. -/
def name : DeclarationKind → String
  | method => "method"
  | constructor => "constructor"
  | type => "type"

end DeclarationKind

/-- A declaration found on a line. -/
structure Declaration where
  name : List Char
  visibility : Visibility
  kind : DeclarationKind
  deriving DecidableEq, Repr

end QualityGate
