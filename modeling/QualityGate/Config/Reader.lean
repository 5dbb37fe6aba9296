import QualityGate.Config.Basic
import QualityGate.Error
import QualityGate.Toml.Document

/-!
Reading a configuration. Sections are tables, or arrays that list the settings in order; keys that
are not known are passed over, and settings that are not given have their defaults.

* `Config.ofToml?`: the configuration that a TOML value stands for.
* `Config.ofText`: the configuration in a text, whose version has to be supported.
* `setting?_of_missing`: a setting that is not given has its default.
-/

namespace QualityGate

namespace TomlValue

/-! ### Single values -/

/-- A text. -/
def string? : TomlValue → Option String
  | string s => some (String.ofList s)
  | _ => none

/-- A truth value. -/
def boolean? : TomlValue → Option Bool
  | boolean b => some b
  | _ => none

/-- A count. -/
def count? : TomlValue → Option Nat
  | integer n => if 0 ≤ n ∧ n ≤ (maxCount : Int) then some n.toNat else none
  | _ => none

/-- A signed number of 64 bits. -/
def integer? : TomlValue → Option Int
  | integer n =>
    if -(Text.maxInteger : Int) - 1 ≤ n ∧ n ≤ (Text.maxInteger : Int) then some n else none
  | _ => none

/-- A list of values. -/
def list? {α : Type} (read : TomlValue → Option α) : TomlValue → Option (List α)
  | array items => items.mapM read
  | _ => none

/-- An empty list or table. -/
def isEmpty : TomlValue → Bool
  | array items => items.isEmpty
  | table members => members.isEmpty
  | _ => false

/-- The name of a choice: a text, or the only key of a table with nothing in it. -/
def choice? {α : Type} (ofName? : String → Option α) : TomlValue → Option α
  | string s => ofName? (String.ofList s)
  | table [(key, v)] => if v.isEmpty then ofName? (String.ofList key) else none
  | _ => none

/-! ### Sections -/

/-- The given settings of a section. -/
structure Section where
  /-- The value of a setting, by its place in the section and its key. -/
  value? : Nat → String → Option TomlValue

/-- A section without settings. -/
def Section.empty : Section := ⟨fun _ _ => none⟩

/-- The section that a value is. A point in time is a section whose keys are not known. -/
def section? : TomlValue → Option Section
  | table members => some ⟨fun _ key => member? members key⟩
  | array items => some ⟨fun i _ => items[i]?⟩
  | dateTime => some .empty
  | _ => none

/-- A setting of a section. -/
def Section.setting? {α : Type} (s : Section) (place : Nat) (key : String)
    (read : TomlValue → Option α) (default : α) : Option α :=
  match s.value? place key with
  | none => some default
  | some v => read v

/-- A setting that is not given has its default. -/
theorem setting?_of_missing {α : Type} {s : Section} {place : Nat} {key : String}
    (h : s.value? place key = none) (read : TomlValue → Option α) (default : α) :
    s.setting? place key read default = some default := by
  simp [Section.setting?, h]

end TomlValue

open TomlValue

/-- The settings of the scanner in a value. -/
def ScannerSettings.ofToml? (v : TomlValue) : Option ScannerSettings := do
  let s ← v.section?
  let d : ScannerSettings := {}
  return {
    extensions := ← s.setting? 0 "extensions" (list? string?) d.extensions
    exclude := ← s.setting? 1 "exclude" (list? string?) d.exclude
    useIgnoreFiles := ← s.setting? 2 "gitignore" boolean? d.useIgnoreFiles }

/-- The limits in a value. -/
def StructureSettings.ofToml? (v : TomlValue) : Option StructureSettings := do
  let s ← v.section?
  let d : StructureSettings := {}
  return {
    methodLimit := ← s.setting? 0 "max_method_lines" count? d.methodLimit
    lineLimit := ← s.setting? 1 "max_line_length" count? d.lineLimit
    strict := ← s.setting? 2 "strict" boolean? d.strict }

/-- The settings of documentation in a value. -/
def DocumentationSettings.ofToml? (v : TomlValue) : Option DocumentationSettings := do
  let s ← v.section?
  let d : DocumentationSettings := {}
  return {
    window := ← s.setting? 0 "window" count? d.window
    cap := ← s.setting? 1 "scan_cap" count? d.cap
    visibilities :=
      ← s.setting? 2 "visibilities" (list? (choice? Visibility.ofName?)) d.visibilities }

/-- The settings of the line rules in a value. -/
def PatternSettings.ofToml? (v : TomlValue) : Option PatternSettings := do
  let s ← v.section?
  let d : PatternSettings := {}
  return {
    bannedCalls := ← s.setting? 0 "banned_calls" (list? string?) d.bannedCalls
    loggingFacility := ← s.setting? 1 "logging_facility" string? d.loggingFacility
    disallowedIndent :=
      ← s.setting? 2 "disallowed_indent" (choice? IndentChar.ofName?) d.disallowedIndent
    blankLimit := ← s.setting? 3 "max_consecutive_blank_lines" count? d.blankLimit }

/-- The thresholds in a value. -/
def Thresholds.ofToml? (v : TomlValue) : Option Thresholds := do
  let s ← v.section?
  let d : Thresholds := {}
  return {
    line := ← s.setting? 0 "line" integer? d.line
    branch := ← s.setting? 1 "branch" integer? d.branch
    method := ← s.setting? 2 "method" integer? d.method
    type := ← s.setting? 3 "class" integer? d.type }

/-- The settings of coverage in a value. -/
def CoverageSettings.ofToml? (v : TomlValue) : Option CoverageSettings := do
  let s ← v.section?
  let d : CoverageSettings := {}
  return {
    report := ← s.setting? 0 "report" (fun v => v.string?.map fun p => some ⟨p⟩) d.report
    unitScope := ← s.setting? 1 "unit_scope" (choice? UnitScope.ofElement?) d.unitScope
    required := ← s.setting? 2 "required" boolean? d.required
    thresholds := ← s.setting? 3 "thresholds" Thresholds.ofToml? d.thresholds }

/-- The configuration in a value. -/
def Config.ofToml? (v : TomlValue) : Option Config := do
  let s ← v.section?
  let d : Config := {}
  return {
    version := ← s.setting? 0 "version" (fun v => v.string?.map some) d.version
    scanner := ← s.setting? 1 "scanner" ScannerSettings.ofToml? d.scanner
    structural := ← s.setting? 2 "structure" StructureSettings.ofToml? d.structural
    docs := ← s.setting? 3 "docs" DocumentationSettings.ofToml? d.docs
    patterns := ← s.setting? 4 "patterns" PatternSettings.ofToml? d.patterns
    coverage := ← s.setting? 5 "coverage" CoverageSettings.ofToml? d.coverage }

/-- The configuration, if its version is supported. -/
def Config.checkVersion (c : Config) : Except GateError Config :=
  match c.version with
  | none => .ok c
  | some v => if v = configVersion then .ok c else .error (.config (.unsupportedVersion v))

/-- The configuration in a text. -/
def Config.ofText (text : List Char) : Except GateError Config :=
  match (TomlValue.ofText? text).bind Config.ofToml? with
  | none => .error .toml
  | some c => c.checkVersion

end QualityGate
