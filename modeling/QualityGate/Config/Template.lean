/-!
The configuration file that a new project starts with: all settings with their defaults, and what
they mean.
-/

namespace QualityGate.Config

/-- The lines above the sections. -/
def templateHead : List String :=
  ["# code-gate configuration file",
   "version = \"1\"",
   ""]

/-- The section of the scanner. -/
def templateScanner : List String :=
  ["[scanner]",
   "# File extensions to analyze",
   "extensions = [\"java\"]",
   "",
   "# Exclude patterns (glob syntax)",
   "exclude = [",
   "    \"**/target/**\",",
   "    \"**/build/**\",",
   "    \"**/generated/**\",",
   "]",
   "",
   "# Respect .gitignore files (default: true)",
   "gitignore = true",
   ""]

/-- The section of limits. -/
def templateStructure : List String :=
  ["[structure]",
   "# Maximum lines in a method body, braces included (default: 30)",
   "max_method_lines = 30",
   "",
   "# Maximum characters per line (default: 120)",
   "max_line_length = 120",
   "",
   "# Strict mode: warnings fail the gate too (default: false)",
   "# strict = true",
   ""]

/-- The section of documentation. -/
def templateDocs : List String :=
  ["[docs]",
   "# Blank lines allowed between a /** */ block and its declaration (default: 5)",
   "window = 5",
   "",
   "# Never look further than this many lines above a declaration (default: 50)",
   "scan_cap = 50",
   "",
   "# Visibilities that need a documentation comment: public, protected, package, private",
   "visibilities = [\"public\"]",
   ""]

/-- The section of the line rules. -/
def templatePatterns : List String :=
  ["[patterns]",
   "# Regexes for calls that must not appear in code",
   "banned_calls = [",
   "    '\\bSystem\\s*\\.\\s*out\\s*\\.\\s*print\\w*\\s*\\(',",
   "    '\\bSystem\\s*\\.\\s*err\\s*\\.\\s*print\\w*\\s*\\(',",
   "    '\\.\\s*printStackTrace\\s*\\(\\s*\\)',",
   "]",
   "",
   "# Named in the remediation hint for banned calls",
   "logging_facility = \"an SLF4J Logger\"",
   "",
   "# Indentation character that is reported: \"tab\" or \"space\"",
   "disallowed_indent = \"tab\"",
   "",
   "# Blank lines allowed in a row (default: 1)",
   "max_consecutive_blank_lines = 1",
   ""]

/-- The section of coverage. -/
def templateCoverage : List String :=
  ["[coverage]",
   "# JaCoCo XML report; without it only structural checks run",
   "# report = \"target/site/jacoco/jacoco.xml\"",
   "",
   "# Units listed under the line threshold: \"class\" or \"sourcefile\"",
   "unit_scope = \"class\"",
   "",
   "# Fail when the report is missing or malformed (default: false)",
   "required = false",
   ""]

/-- The section of the thresholds. -/
def templateThresholds : List String :=
  ["[coverage.thresholds]",
   "# Minimum percentages (0-100). A threshold of 0 is informational.",
   "line = 80",
   "branch = 70",
   "method = 0",
   "class = 0"]

/-- The text of a new configuration file. -/
def template : String :=
  String.join ((templateHead ++ templateScanner ++ templateStructure ++ templateDocs ++
    templatePatterns ++ templateCoverage ++ templateThresholds).map (· ++ "\n"))

end QualityGate.Config
