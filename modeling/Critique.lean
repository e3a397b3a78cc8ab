import Critique.Analyzer.Basic
import Critique.Analyzer.Classifier
import Critique.Analyzer.Description
import Critique.Analyzer.Failure
import Critique.Analyzer.Remote
import Critique.Analyzer.Session
import Critique.Analyzer.Storage
import Critique.Codec.Description
import Critique.Codec.Feature
import Critique.Codec.FileReport
import Critique.Codec.Report
import Critique.Codec.Settings
import Critique.Codec.SettingsYaml
import Critique.Command.Args
import Critique.Command.Basic
import Critique.Command.Discover
import Critique.Command.Log
import Critique.Command.Run
import Critique.Decimal.Binary
import Critique.Decimal.Fixed
import Critique.Decimal.Layout
import Critique.Decimal.Read
import Critique.Decimal.Shortest
import Critique.Display.Page
import Critique.Display.Styled
import Critique.Display.Terminal
import Critique.Feature
import Critique.FileReport
import Critique.FileTree.Basic
import Critique.FileTree.Path
import Critique.FileTree.Walk
import Critique.Finding
import Critique.Json.Basic
import Critique.Json.Decode
import Critique.Json.Number
import Critique.Json.Parser
import Critique.Json.Printer
import Critique.Language.Bundle
import Critique.Language.JavaScript
import Critique.Language.Python
import Critique.Language.Registration
import Critique.Language.Registry
import Critique.Log
import Critique.Main
import Critique.Proofs.Analyzer.Description
import Critique.Proofs.Analyzer.Finite
import Critique.Proofs.Analyzer.Primary
import Critique.Proofs.Analyzer.Remote
import Critique.Proofs.Analyzer.Session
import Critique.Proofs.Analyzer.Storage
import Critique.Proofs.Codec.Flat
import Critique.Proofs.Codec.Report
import Critique.Proofs.Codec.SettingsYaml
import Critique.Proofs.Command.Analysis
import Critique.Proofs.Command.Document
import Critique.Proofs.Command.ExitCode
import Critique.Proofs.Command.Gate
import Critique.Proofs.Command.Init
import Critique.Proofs.Command.Loosening
import Critique.Proofs.Command.Order
import Critique.Proofs.Command.Settings
import Critique.Proofs.Command.Stdin
import Critique.Proofs.Decimal.Arithmetic
import Critique.Proofs.Decimal.Digits
import Critique.Proofs.Decimal.Nearest
import Critique.Proofs.Decimal.Order
import Critique.Proofs.Decimal.Parts
import Critique.Proofs.Decimal.Range
import Critique.Proofs.Decimal.Render
import Critique.Proofs.Decimal.Rounding
import Critique.Proofs.Decimal.Shortest
import Critique.Proofs.Decimal.Sum
import Critique.Proofs.Display.Colour
import Critique.Proofs.FileTree.Collect
import Critique.Proofs.FileTree.Grow
import Critique.Proofs.FileTree.LookUp
import Critique.Proofs.FileTree.Path
import Critique.Proofs.FileTree.Reorder
import Critique.Proofs.FileTree.Walk
import Critique.Proofs.FileTree.Write
import Critique.Proofs.Json.Document
import Critique.Proofs.Json.Finite
import Critique.Proofs.Json.Number
import Critique.Proofs.Language.Append
import Critique.Proofs.Language.JavaScript
import Critique.Proofs.Language.Python
import Critique.Proofs.Language.Registration
import Critique.Proofs.Report.Findings
import Critique.Proofs.Report.Merge
import Critique.Proofs.Report.Metrics
import Critique.Proofs.Report.Severity
import Critique.Proofs.Review.Issues
import Critique.Proofs.Review.LineEnding
import Critique.Proofs.Review.Relevance
import Critique.Proofs.Review.Score
import Critique.Proofs.Settings.Rules
import Critique.Proofs.Text.Line
import Critique.Proofs.Text.LineEnding
import Critique.Proofs.Text.OsText
import Critique.Proofs.Text.Pattern
import Critique.Proofs.Text.Position
import Critique.Proofs.Text.Segment
import Critique.Proofs.Text.Utf8
import Critique.Proofs.Token.Decomposition
import Critique.Proofs.Token.Join
import Critique.Proofs.Token.Keyword
import Critique.Proofs.Yaml.Number
import Critique.Report
import Critique.Review
import Critique.Settings
import Critique.Smell
import Critique.Table
import Critique.Text.Blank
import Critique.Text.Case
import Critique.Text.Line
import Critique.Text.OsText
import Critique.Text.Quoted
import Critique.Text.Range
import Critique.Text.Search
import Critique.Text.Utf8
import Critique.Text.Visible
import Critique.Text.Word
import Critique.Token
import Critique.Training
import Critique.Weights
import Critique.Yaml.Node
import Critique.Yaml.Printer
import Critique.Yaml.Scalar
import Critique.Yaml.Scanner
import Critique.Yaml.Scanner.Name
import Critique.Yaml.Scanner.Scalar
import Critique.Yaml.Style
import Critique.Yaml.Token
