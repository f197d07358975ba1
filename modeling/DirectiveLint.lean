import DirectiveLint.Character.Alphabetic
import DirectiveLint.Character.Blank
import DirectiveLint.Character.Identifier
import DirectiveLint.Character.Interval
import DirectiveLint.Character.LetterCase
import DirectiveLint.Character.Name
import DirectiveLint.Character.Name.Alphabets
import DirectiveLint.Character.Name.EastAsian
import DirectiveLint.Character.Name.Further
import DirectiveLint.Character.Name.Hieroglyphs
import DirectiveLint.Character.Name.Historic
import DirectiveLint.Character.Name.Notation
import DirectiveLint.Character.Name.Pictographs
import DirectiveLint.Character.Name.Row
import DirectiveLint.Character.Name.Symbols
import DirectiveLint.Character.Numeric
import DirectiveLint.Character.Printable
import DirectiveLint.Checker.Basic
import DirectiveLint.Checker.DirectiveRule
import DirectiveLint.Checker.Log
import DirectiveLint.Checker.NamedResults
import DirectiveLint.Checker.Registry
import DirectiveLint.Checker.Results
import DirectiveLint.Checker.RuleEntry
import DirectiveLint.Checker.Runner
import DirectiveLint.CommandLine.Classify
import DirectiveLint.CommandLine.Invocation
import DirectiveLint.CommandLine.Lint
import DirectiveLint.CommandLine.Reading
import DirectiveLint.CommandLine.Report
import DirectiveLint.CommandLine.RuleOptions
import DirectiveLint.CommandLine.Run
import DirectiveLint.CommandLine.Token
import DirectiveLint.Configuration.Fault
import DirectiveLint.Diagnostic.Basic
import DirectiveLint.Diagnostic.Edit
import DirectiveLint.Diagnostic.Severity
import DirectiveLint.Directive.Basic
import DirectiveLint.Directive.Match
import DirectiveLint.Failure
import DirectiveLint.FileTree.Basic
import DirectiveLint.FileTree.Path
import DirectiveLint.FileTree.ReadText
import DirectiveLint.FileTree.Sources
import DirectiveLint.Json.Fault
import DirectiveLint.Json.Printer
import DirectiveLint.Json.Reader
import DirectiveLint.Main
import DirectiveLint.Number.Binary64
import DirectiveLint.Number.DigitLimit
import DirectiveLint.Number.IntegerText
import DirectiveLint.Number.Notation
import DirectiveLint.Number.Rounding
import DirectiveLint.Number.Shortest
import DirectiveLint.Pattern.Arrangement
import DirectiveLint.Pattern.CharacterTest
import DirectiveLint.Pattern.Fault
import DirectiveLint.Pattern.Matcher
import DirectiveLint.Pattern.NamedGroup
import DirectiveLint.Pattern.Reader
import DirectiveLint.Pattern.Search
import DirectiveLint.Pattern.Syntax
import DirectiveLint.Pattern.Trail
import DirectiveLint.Policy.Basic
import DirectiveLint.Policy.Configuration
import DirectiveLint.Policy.DescriptionFormat
import DirectiveLint.Policy.Evaluator
import DirectiveLint.Policy.Message
import DirectiveLint.Proofs.Checker.BuildFailure
import DirectiveLint.Proofs.Checker.Building
import DirectiveLint.Proofs.Checker.Consistency
import DirectiveLint.Proofs.Checker.Counting
import DirectiveLint.Proofs.Checker.Delivery
import DirectiveLint.Proofs.Checker.DirectEvaluation
import DirectiveLint.Proofs.Checker.Findings
import DirectiveLint.Proofs.Checker.Growth
import DirectiveLint.Proofs.Checker.Independence
import DirectiveLint.Proofs.Checker.LineEnding
import DirectiveLint.Proofs.Checker.MergeLaws
import DirectiveLint.Proofs.Checker.Merging
import DirectiveLint.Proofs.Checker.RegistryHistory
import DirectiveLint.Proofs.Checker.RuleLevel
import DirectiveLint.Proofs.Checker.Running
import DirectiveLint.Proofs.Checker.Sharing
import DirectiveLint.Proofs.Checker.SingleEdit
import DirectiveLint.Proofs.Checker.Suggestions
import DirectiveLint.Proofs.CommandLine.Applying
import DirectiveLint.Proofs.CommandLine.Classifying
import DirectiveLint.Proofs.CommandLine.Configuring
import DirectiveLint.Proofs.CommandLine.ExitCode
import DirectiveLint.Proofs.CommandLine.Linting
import DirectiveLint.Proofs.CommandLine.Output
import DirectiveLint.Proofs.CommandLine.Spelling
import DirectiveLint.Proofs.Diagnostic.JsonLine
import DirectiveLint.Proofs.Diagnostic.Passes
import DirectiveLint.Proofs.Diagnostic.Simultaneous
import DirectiveLint.Proofs.Diagnostic.Splice
import DirectiveLint.Proofs.Directive.Grammar
import DirectiveLint.Proofs.Directive.Lead
import DirectiveLint.Proofs.Escape
import DirectiveLint.Proofs.FileTree.Path
import DirectiveLint.Proofs.FileTree.Proper
import DirectiveLint.Proofs.FileTree.SourceListing
import DirectiveLint.Proofs.FileTree.Writing
import DirectiveLint.Proofs.Json.Limits
import DirectiveLint.Proofs.Json.Printing
import DirectiveLint.Proofs.Json.Strings
import DirectiveLint.Proofs.Json.Values
import DirectiveLint.Proofs.Pattern.Reading
import DirectiveLint.Proofs.Policy.Blame
import DirectiveLint.Proofs.Policy.Decision
import DirectiveLint.Proofs.Policy.Evaluation
import DirectiveLint.Proofs.Policy.ExpectError
import DirectiveLint.Proofs.Policy.OptionFailure
import DirectiveLint.Proofs.Policy.Options
import DirectiveLint.Proofs.Policy.ReadBack
import DirectiveLint.Proofs.Policy.Reevaluation
import DirectiveLint.Proofs.Policy.Reports
import DirectiveLint.Proofs.Policy.Strictness
import DirectiveLint.Proofs.Source.Blanking
import DirectiveLint.Proofs.Source.CommentSpan
import DirectiveLint.Proofs.Source.Document
import DirectiveLint.Proofs.Source.DocumentScan
import DirectiveLint.Proofs.Source.ExpressionCount
import DirectiveLint.Proofs.Source.LineEnding
import DirectiveLint.Proofs.Source.LineEndingScan
import DirectiveLint.Proofs.Source.Lines
import DirectiveLint.Proofs.Source.Literal
import DirectiveLint.Proofs.Source.LiteralExchange
import DirectiveLint.Proofs.Source.Place
import DirectiveLint.Proofs.Source.Position
import DirectiveLint.Proofs.Source.Reaching
import DirectiveLint.Proofs.Source.Respelling
import DirectiveLint.Proofs.Source.Step
import DirectiveLint.Proofs.Table
import DirectiveLint.Proofs.Text.RoundTrip
import DirectiveLint.Proofs.TypeGraph.ArrayReference
import DirectiveLint.Proofs.TypeGraph.ClosedGraph
import DirectiveLint.Proofs.TypeGraph.Constituents
import DirectiveLint.Proofs.TypeGraph.FlagConversion
import DirectiveLint.Proofs.TypeGraph.HostMap
import DirectiveLint.Proofs.TypeGraph.LoadFailure
import DirectiveLint.Proofs.TypeGraph.Loading
import DirectiveLint.Proofs.TypeGraph.Relabelling
import DirectiveLint.Proofs.TypeGraph.Renaming
import DirectiveLint.Source.Comment
import DirectiveLint.Source.File
import DirectiveLint.Source.LineIndex
import DirectiveLint.Source.Literal
import DirectiveLint.Source.Location
import DirectiveLint.Source.Scanner
import DirectiveLint.Text.LineEnding
import DirectiveLint.Text.Loose
import DirectiveLint.Text.Occurrence
import DirectiveLint.Text.Place
import DirectiveLint.Text.Quoted
import DirectiveLint.Text.Trim
import DirectiveLint.Text.Utf8
import DirectiveLint.TypeGraph.Accessor
import DirectiveLint.TypeGraph.Classifier
import DirectiveLint.TypeGraph.Dump
import DirectiveLint.TypeGraph.DumpFault
import DirectiveLint.TypeGraph.DumpReader
import DirectiveLint.TypeGraph.FlagNames
import DirectiveLint.TypeGraph.Flags
import DirectiveLint.TypeGraph.Handle
import DirectiveLint.TypeGraph.Verdicts
import DirectiveLint.Value.Addition
import DirectiveLint.Value.Basic
import DirectiveLint.Value.Mapping
import DirectiveLint.Value.Written
