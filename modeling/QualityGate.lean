import QualityGate.Analysis
import QualityGate.Command.Basic
import QualityGate.Command.Check
import QualityGate.Command.Config
import QualityGate.Command.Init
import QualityGate.Command.Run
import QualityGate.Config.Basic
import QualityGate.Config.Lookup
import QualityGate.Config.Reader
import QualityGate.Config.Template
import QualityGate.Config.Text
import QualityGate.Config.Validation
import QualityGate.Coverage.Counter
import QualityGate.Coverage.Reader
import QualityGate.Coverage.Report
import QualityGate.Coverage.Tag
import QualityGate.Coverage.Threshold
import QualityGate.Declaration.Annotation
import QualityGate.Declaration.Basic
import QualityGate.Declaration.Shape
import QualityGate.Discovery.Files
import QualityGate.Discovery.Filter
import QualityGate.Discovery.Ignore
import QualityGate.Documentation
import QualityGate.Error
import QualityGate.File.Error
import QualityGate.File.Tree
import QualityGate.Gate
import QualityGate.Glob.Basic
import QualityGate.Glob.Match
import QualityGate.Invocation.Arguments
import QualityGate.Invocation.Basic
import QualityGate.Invocation.Option
import QualityGate.Json.Basic
import QualityGate.LogFilter
import QualityGate.Main
import QualityGate.Method.Span
import QualityGate.Path.Basic
import QualityGate.Pattern
import QualityGate.Phase
import QualityGate.Regex.Basic
import QualityGate.Regex.Build
import QualityGate.Regex.CharSet
import QualityGate.Regex.Notation
import QualityGate.Regex.Property
import QualityGate.Proofs.Analysis.Distinct
import QualityGate.Proofs.Verdict.Agreement
import QualityGate.Proofs.Violation.Order
import QualityGate.Rule.BannedCall
import QualityGate.Rule.Basic
import QualityGate.Rule.HardcodedLiteral
import QualityGate.Rule.Scan
import QualityGate.Rule.Style
import QualityGate.Source.Line
import QualityGate.Source.Scan
import QualityGate.Text.Blank
import QualityGate.Text.Column
import QualityGate.Text.Each
import QualityGate.Text.Lines
import QualityGate.Text.Numeral
import QualityGate.Text.Quoted
import QualityGate.Text.Reader
import QualityGate.Text.Split
import QualityGate.Text.Styled
import QualityGate.Text.Utf8
import QualityGate.Toml.Basic
import QualityGate.Toml.Document
import QualityGate.Toml.Number
import QualityGate.Toml.Quoted
import QualityGate.Toml.Value
import QualityGate.Unicode.Class
import QualityGate.Unicode.Fold
import QualityGate.Unicode.Letters
import QualityGate.Unicode.Marks
import QualityGate.Unicode.Span
import QualityGate.Unicode.Symbols
import QualityGate.Verdict.Basic
import QualityGate.Verdict.Collector
import QualityGate.Verdict.Format
import QualityGate.Verdict.Json
import QualityGate.Verdict.Text
import QualityGate.Violation.Basic
import QualityGate.Proofs.Gate.Independence
import QualityGate.Proofs.Source.Element
import QualityGate.Proofs.Source.Marking
import QualityGate.Proofs.Source.Cut
import QualityGate.Proofs.Source.Lexing
import QualityGate.Proofs.Coverage.Markup
import QualityGate.Proofs.Coverage.Visit
import QualityGate.Proofs.Coverage.Reading
import QualityGate.Proofs.Analysis.Relaxed
import QualityGate.Proofs.Command.Check
import QualityGate.Proofs.Gate.Cancellation
import QualityGate.Proofs.Gate.Relaxed
import QualityGate.Proofs.Config.Layers
import QualityGate.Proofs.Method.Body
import QualityGate.Proofs.Documentation.Above
import QualityGate.Proofs.Source.Comment
import QualityGate.Proofs.Documentation.Opening
import QualityGate.Proofs.Documentation.Wording
import QualityGate.Proofs.Documentation.Lookback
import QualityGate.Proofs.Documentation.Reach
import QualityGate.Proofs.Method.Layout
import QualityGate.Proofs.Analysis.Findings
import QualityGate.Proofs.Text.Blank
import QualityGate.Proofs.Declaration.Reading
import QualityGate.Proofs.Declaration.Written
import QualityGate.Proofs.Declaration.Member
import QualityGate.Proofs.Declaration.Annotation
import QualityGate.Proofs.Source.Replacement
import QualityGate.Proofs.Source.Uncommented
import QualityGate.Proofs.Analysis.Uncommented
import QualityGate.Proofs.Regex.Loop
import QualityGate.Proofs.Regex.Matching
import QualityGate.Proofs.Source.Quoted
import QualityGate.Proofs.Source.Blanked
import QualityGate.Proofs.Rule.Search
import QualityGate.Proofs.Rule.Literal
import QualityGate.Proofs.Rule.Comparison
import QualityGate.Proofs.Rule.Blanked
import QualityGate.Proofs.Text.Split
import QualityGate.Proofs.Path.Spelling
import QualityGate.Proofs.File.Way
import QualityGate.Proofs.Discovery.Listing
import QualityGate.Proofs.Glob.Matching
import QualityGate.Proofs.Discovery.Exclusion
import QualityGate.Proofs.Text.Numeral
import QualityGate.Proofs.Coverage.Fault
import QualityGate.Proofs.Coverage.Percentage
import QualityGate.Proofs.Coverage.Shortfall
import QualityGate.Proofs.Source.Stable
import QualityGate.Proofs.Coverage.Bracket
import QualityGate.Proofs.Coverage.Aside
import QualityGate.Proofs.Rule.BlankRun
import QualityGate.Proofs.Text.Colour
import QualityGate.Proofs.Verdict.Colour
import QualityGate.Proofs.Json.Document
import QualityGate.Proofs.Json.Reading
import QualityGate.Proofs.Verdict.Decoding
import QualityGate.Proofs.Discovery.Canonical
import QualityGate.Proofs.Declaration.Outside
import QualityGate.Proofs.Declaration.Closing
