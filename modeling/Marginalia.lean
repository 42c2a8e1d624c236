import Marginalia.Cli.Args
import Marginalia.Cli.Number
import Marginalia.Cli.Program
import Marginalia.Cli.Size
import Marginalia.Comment.Aggregator
import Marginalia.Comment.Basic
import Marginalia.Comment.DocBlock
import Marginalia.Comment.Event
import Marginalia.Comment.JsonForm
import Marginalia.Comment.LineRun
import Marginalia.Comment.Stream
import Marginalia.Config
import Marginalia.Decimal.Shortest
import Marginalia.Disk.Fault
import Marginalia.Disk.Resolve
import Marginalia.Disk.Tree
import Marginalia.FileKind
import Marginalia.Git.Fault
import Marginalia.Git.Name
import Marginalia.Git.Reader
import Marginalia.Git.RefName
import Marginalia.Git.Repository
import Marginalia.Git.Revision
import Marginalia.Git.Store
import Marginalia.Glob.Fault
import Marginalia.Glob.Match
import Marginalia.Glob.Parser
import Marginalia.Glob.Pattern
import Marginalia.Ignore.Layer
import Marginalia.Ignore.Rule
import Marginalia.Ignore.RuleSet
import Marginalia.Json.Basic
import Marginalia.Json.Decode
import Marginalia.Json.Reader
import Marginalia.Json.Writer
import Marginalia.Lexer.FirstHash
import Marginalia.Lexer.LineLexer
import Marginalia.Log
import Marginalia.Main
import Marginalia.Path
import Marginalia.Proofs.Comment.Segments
import Marginalia.Proofs.Ruby.Faithful
import Marginalia.Proofs.Ruby.LiteralBody
import Marginalia.Proofs.Ruby.Outcome
import Marginalia.Proofs.Ruby.Resume
import Marginalia.Proofs.Ruby.Retraction
import Marginalia.Proofs.Text.Lines
import Marginalia.Report.Document
import Marginalia.Report.Lines
import Marginalia.Report.Listing
import Marginalia.Report.Render
import Marginalia.Ruby.Delimiter
import Marginalia.Ruby.Heredoc
import Marginalia.Ruby.Lexer
import Marginalia.Ruby.Literal
import Marginalia.Ruby.LookBehind
import Marginalia.Ruby.Scanner
import Marginalia.Scan.Fault
import Marginalia.Scan.FileComments
import Marginalia.Scan.Host
import Marginalia.Scan.Run
import Marginalia.Scan.RunResult
import Marginalia.Scan.Snapshot
import Marginalia.Scan.Walk
import Marginalia.Scan.World
import Marginalia.Source.Encoding
import Marginalia.Text.Alphabetic
import Marginalia.Text.Cased
import Marginalia.Text.CharClass
import Marginalia.Text.CodeTable
import Marginalia.Text.Line
import Marginalia.Text.Lowercase
import Marginalia.Text.Mark
import Marginalia.Text.Numeric
import Marginalia.Text.Space
import Marginalia.Text.Utf16
import Marginalia.Text.Utf8
import Marginalia.Timestamp
import Marginalia.Yaml.Resolve
import Marginalia.Yaml.Scalar
import Marginalia.Proofs.Comment.Bracketed
import Marginalia.Proofs.Comment.Transport
import Marginalia.Proofs.Lexer.Run
import Marginalia.Proofs.Ruby.Bracketing
import Marginalia.Proofs.Ruby.Reachable
import Marginalia.Proofs.Ruby.LineBreaks
import Marginalia.Proofs.Ruby.Composition
import Marginalia.Proofs.Ruby.ScopeChange
import Marginalia.Proofs.Ruby.WellFormed
import Marginalia.Proofs.Ruby.SkippedText
import Marginalia.Proofs.Ruby.HeredocEnd
import Marginalia.Proofs.Ruby.Closable
import Marginalia.Proofs.Text.Utf16
import Marginalia.Proofs.Scan.ByteForms
import Marginalia.Proofs.Comment.Calls
import Marginalia.Proofs.Comment.Streaming
import Marginalia.Proofs.Path.Order
import Marginalia.Proofs.Path.Pieces
import Marginalia.Proofs.Ignore.Blank
import Marginalia.Proofs.Scan.Strictness
import Marginalia.Proofs.Disk.PlainTree
import Marginalia.Proofs.Scan.PlainWalk
import Marginalia.Proofs.Scan.PlainCommit
import Marginalia.Proofs.Scan.Agreement
import Marginalia.Proofs.Scan.Scheduling
import Marginalia.Proofs.Lookup
import Marginalia.Proofs.Json.Members
import Marginalia.Proofs.Json.RoundTrip
import Marginalia.Proofs.Report.Lines
import Marginalia.Proofs.Report.Entries
import Marginalia.Proofs.Report.Totals
import Marginalia.Proofs.Comment.LineOrder
import Marginalia.Proofs.Git.FirstParents
import Marginalia.Proofs.Git.LastChange
import Marginalia.Proofs.Ruby.HeredocOpeners
import Marginalia.Proofs.Report.FaultOrder
import Marginalia.Proofs.Ruby.HeredocTerminators
import Marginalia.Proofs.Text.Surrogates
import Marginalia.Proofs.Text.Lossy
import Marginalia.Proofs.Source.LineFeeds
import Marginalia.Proofs.Cli.Sizes
import Marginalia.Proofs.FileExtensions
import Marginalia.Proofs.Ruby.FirstHash
import Marginalia.Proofs.Ruby.LookBehind
import Marginalia.Proofs.Text.Lowercase
