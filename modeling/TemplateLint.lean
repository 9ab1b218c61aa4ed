import TemplateLint.Text.Basic
import TemplateLint.Text.Letters
import TemplateLint.Text.Lowercase
import TemplateLint.Text.Quoted
import TemplateLint.Text.Utf8
import TemplateLint.Value.Binary64
import TemplateLint.Value.Basic
import TemplateLint.Value.Literal
import TemplateLint.Value.Json
import TemplateLint.Position
import TemplateLint.Template.Node
import TemplateLint.Template.Lexeme
import TemplateLint.Template.Parser
import TemplateLint.Template.Walk
import TemplateLint.Template.Table
import TemplateLint.Directive.Basic
import TemplateLint.Directive.Comment
import TemplateLint.Directive.Table
import TemplateLint.Text.Wildcard
import TemplateLint.Offense.Basic
import TemplateLint.Rule.Settings
import TemplateLint.Rule.Basic
import TemplateLint.Text.Similarity
import TemplateLint.Rule.Newlines
import TemplateLint.Rule.DisableComments
import TemplateLint.Rule.Tags
import TemplateLint.Rule.ParseErrors
import TemplateLint.Rule.Builtin
import TemplateLint.Log
import TemplateLint.Linter.Suppression
import TemplateLint.Linter.Basic
import TemplateLint.Linter.Autofix
import TemplateLint.Offense.Table
import TemplateLint.Rule.Import
import TemplateLint.Rule.Script
import TemplateLint.Report
import TemplateLint.Path.Pattern
import TemplateLint.Path.Basic
import TemplateLint.Settings.Basic
import TemplateLint.Settings.Listing
import TemplateLint.Settings.Linter
import TemplateLint.Toml.Scalar
import TemplateLint.Toml.Document
import TemplateLint.Toml.Reader
import TemplateLint.FileTree
import TemplateLint.Path.Glob
import TemplateLint.Settings.File
import TemplateLint.Discovery
import TemplateLint.Settings.CustomRules
import TemplateLint.Plugin
import TemplateLint.Run.Basic
import TemplateLint.Run.Lint
import TemplateLint.Run.Fix
import TemplateLint.CommandLine.Words
import TemplateLint.CommandLine.Request
import TemplateLint.CommandLine.Response
import TemplateLint.Main
import TemplateLint.Proofs.Tree
import TemplateLint.Proofs.Text
import TemplateLint.Proofs.Builtins
import TemplateLint.Proofs.Imports
import TemplateLint.Proofs.Suppression
import TemplateLint.Proofs.Checks
import TemplateLint.Proofs.Advice
import TemplateLint.Proofs.Grammar
import TemplateLint.Proofs.Spacing
import TemplateLint.Proofs.Lexemes
import TemplateLint.Proofs.Flaws
import TemplateLint.Proofs.Comments
import TemplateLint.Proofs.Newlines
import TemplateLint.Proofs.Muting
import TemplateLint.Proofs.Fixing
import TemplateLint.Proofs.Settling
import TemplateLint.Proofs.Tiling
import TemplateLint.Proofs.Offsets
import TemplateLint.Proofs.Names
import TemplateLint.Proofs.Finding
import TemplateLint.Proofs.Idle
import TemplateLint.Proofs.Calls
import TemplateLint.Proofs.Completion
import TemplateLint.Proofs.Crashes
import TemplateLint.Proofs.Resolution
import TemplateLint.Proofs.Similarity
import TemplateLint.Proofs.RuleOrder
import TemplateLint.Proofs.Severities
import TemplateLint.Proofs.Utf8
import TemplateLint.Proofs.Files
import TemplateLint.Proofs.Scanning
import TemplateLint.Proofs.Prediction
import TemplateLint.Proofs.Spans
import TemplateLint.Proofs.ReadBack
import TemplateLint.Proofs.BlankLines
import TemplateLint.Proofs.Passes
import TemplateLint.Proofs.Loading
import TemplateLint.Proofs.Wildcards
import TemplateLint.Proofs.Patterns
import TemplateLint.Proofs.Discovery
import TemplateLint.Proofs.Problems
import TemplateLint.Proofs.ProjectFile
import TemplateLint.Proofs.ParseErrors
import TemplateLint.Proofs.Tags
import TemplateLint.Proofs.LineComments
import TemplateLint.Proofs.Positions
