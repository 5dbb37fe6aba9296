import QualityGate.Config.Basic
import QualityGate.Json.Basic
import QualityGate.Text.Quoted

/-!
A configuration as it is shown: as a text in sections, and as data.
-/

namespace QualityGate

namespace Config

/-- The line of a setting. -/
def settingLine (key value : String) : String := s!"  {key} = {value}\n"

/-- A text between quotes, as it is. -/
def inQuotes (s : String) : String := s!"\"{s}\""

/-- The lines of the scanner settings. -/
def scannerText (s : ScannerSettings) : String :=
  settingLine "extensions" (Text.quoteList s.extensions) ++
    settingLine "gitignore" (toString s.useIgnoreFiles) ++
    if s.exclude.isEmpty then "" else settingLine "exclude" (Text.quoteList s.exclude)

/-- The lines of the limits. -/
def structuralText (s : StructureSettings) : String :=
  settingLine "max_method_lines" (toString s.methodLimit) ++
    settingLine "max_line_length" (toString s.lineLimit) ++
    settingLine "strict" (toString s.strict)

/-- The lines of the documentation settings. -/
def docsText (s : DocumentationSettings) : String :=
  settingLine "window" (toString s.window) ++ settingLine "scan_cap" (toString s.cap) ++
    settingLine "visibilities" (Text.quoteList (s.visibilities.map Visibility.name))

/-- The lines of the settings of line rules. -/
def patternsText (s : PatternSettings) : String :=
  settingLine "banned_calls" (Text.quoteList s.bannedCalls) ++
    settingLine "logging_facility" (inQuotes s.loggingFacility) ++
    settingLine "disallowed_indent" (inQuotes s.disallowedIndent.name) ++
    settingLine "max_consecutive_blank_lines" (toString s.blankLimit)

/-- The lines of the coverage settings. -/
def coverageText (s : CoverageSettings) : String :=
  settingLine "report" (s.report.elim "(none)" fun p => inQuotes p.text) ++
    settingLine "unit_scope" (inQuotes s.unitScope.element) ++
    settingLine "required" (toString s.required)

/-- The lines of the thresholds. -/
def thresholdsText (t : Thresholds) : String :=
  String.join (Metric.all.map fun m => settingLine m.name (toString (t.get m)))

/-- The text of a configuration. -/
def text (c : Config) : String :=
  "=== Effective Configuration ===\n" ++
    "\n[scanner]\n" ++ scannerText c.scanner ++
    "\n[structure]\n" ++ structuralText c.structural ++
    "\n[docs]\n" ++ docsText c.docs ++
    "\n[patterns]\n" ++ patternsText c.patterns ++
    "\n[coverage]\n" ++ coverageText c.coverage ++
    "\n[coverage.thresholds]\n" ++ thresholdsText c.coverage.thresholds

/-- A configuration as data. Settings without a value are left out. -/
def toJson (c : Config) : JsonValue :=
  .objectOf [
    c.version.map fun v => ("version", .string v),
    some ("scanner", .object [
      ("extensions", .strings c.scanner.extensions), ("exclude", .strings c.scanner.exclude),
      ("gitignore", .bool c.scanner.useIgnoreFiles)]),
    some ("structure", .object [
      ("max_method_lines", .ofNat c.structural.methodLimit),
      ("max_line_length", .ofNat c.structural.lineLimit), ("strict", .bool c.structural.strict)]),
    some ("docs", .object [
      ("window", .ofNat c.docs.window), ("scan_cap", .ofNat c.docs.cap),
      ("visibilities", .strings (c.docs.visibilities.map Visibility.name))]),
    some ("patterns", .object [
      ("banned_calls", .strings c.patterns.bannedCalls),
      ("logging_facility", .string c.patterns.loggingFacility),
      ("disallowed_indent", .string c.patterns.disallowedIndent.name),
      ("max_consecutive_blank_lines", .ofNat c.patterns.blankLimit)]),
    some ("coverage", .objectOf [
      c.coverage.report.map fun p => ("report", .string p.text),
      some ("unit_scope", .string c.coverage.unitScope.element),
      some ("required", .bool c.coverage.required),
      some ("thresholds", .object (Metric.all.map fun m =>
        (m.name, .number (c.coverage.thresholds.get m))))])]

end Config

end QualityGate
