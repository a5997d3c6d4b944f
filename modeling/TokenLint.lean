import TokenLint.CommandLine.Arguments
import TokenLint.CommandLine.Report
import TokenLint.CommandLine.Run
import TokenLint.Config.Basic
import TokenLint.Config.Load
import TokenLint.Config.Merge
import TokenLint.Config.Ruleset
import TokenLint.Diagnostic.Basic
import TokenLint.Diagnostic.Pass
import TokenLint.Diff.Matching
import TokenLint.Diff.Unified
import TokenLint.Fix.Edit
import TokenLint.Fix.Ledger
import TokenLint.Lexer.Pattern
import TokenLint.Lexer.Scan
import TokenLint.Lexer.Vocabulary
import TokenLint.Main
import TokenLint.Message.Template
import TokenLint.Navigation.Call
import TokenLint.Navigation.Search
import TokenLint.Navigation.Statement
import TokenLint.Navigation.Ternary
import TokenLint.Number.Binary64
import TokenLint.Number.Decimal
import TokenLint.Number.Numeral
import TokenLint.Output.BoxTable
import TokenLint.Output.Console
import TokenLint.Output.Json
import TokenLint.Output.Symbol
import TokenLint.Proofs.Config.Precedence
import TokenLint.Proofs.Diff.Printed
import TokenLint.Proofs.Fix.Exchange
import TokenLint.Proofs.Lexer.Casts
import TokenLint.Proofs.Lexer.Positions
import TokenLint.Proofs.Navigation.Calls
import TokenLint.Proofs.Navigation.Ownership
import TokenLint.Proofs.Navigation.Parameters
import TokenLint.Proofs.Navigation.TernaryExtent
import TokenLint.Proofs.Rule.Binding
import TokenLint.Proofs.Rule.Elvis
import TokenLint.Proofs.Rule.Increment
import TokenLint.Proofs.Rule.LongArray
import TokenLint.Proofs.Rule.NestedNegations
import TokenLint.Proofs.Rule.Renaming
import TokenLint.Proofs.Rule.RepeatedClasses
import TokenLint.Proofs.Rule.RepeatedKeys
import TokenLint.Proofs.Rule.SpacedConcats
import TokenLint.Proofs.Run.Failures
import TokenLint.Proofs.Run.FixedReports
import TokenLint.Proofs.Run.Independence
import TokenLint.Proofs.Run.Lint
import TokenLint.Proofs.Run.Locality
import TokenLint.Proofs.Run.LoopResult
import TokenLint.Proofs.Run.PassStep
import TokenLint.Proofs.Run.Recording
import TokenLint.Proofs.Run.Replies
import TokenLint.Proofs.Run.Separate
import TokenLint.Proofs.Run.WriteBack
import TokenLint.Proofs.Stream.Signs
import TokenLint.Proofs.Workspace.Collecting
import TokenLint.Rule.Builtin
import TokenLint.Rule.Registry
import TokenLint.Run.Batch
import TokenLint.Run.Dispatch
import TokenLint.Run.FixLoop
import TokenLint.Stream.Basic
import TokenLint.Workspace.Collect
import TokenLint.Workspace.Path
import TokenLint.Workspace.Tree
