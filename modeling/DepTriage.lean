import DepTriage.Archive.Bits
import DepTriage.Archive.Extraction
import DepTriage.Archive.Gzip
import DepTriage.Archive.Huffman
import DepTriage.Archive.Inflate
import DepTriage.Archive.Tar
import DepTriage.Binary64
import DepTriage.Choice
import DepTriage.CodeHost.Basic
import DepTriage.CodeHost.Document
import DepTriage.CommandLine.Environment
import DepTriage.CommandLine.Form
import DepTriage.CommandLine.Invocation
import DepTriage.CommandLine.Run
import DepTriage.Config
import DepTriage.Dependency
import DepTriage.Finding
import DepTriage.Git.Checkout
import DepTriage.Git.NameStatus
import DepTriage.GitHub.FileText
import DepTriage.GitHub.Host
import DepTriage.GitHub.Request
import DepTriage.GlobalUsage
import DepTriage.Http.Client
import DepTriage.Http.Url
import DepTriage.IgnoreList
import DepTriage.Inventory
import DepTriage.JavaScript.Analysis
import DepTriage.JavaScript.Builtin
import DepTriage.JavaScript.Globals
import DepTriage.JavaScript.Parser
import DepTriage.JavaScript.Parser.Basic
import DepTriage.JavaScript.Parser.Expression
import DepTriage.JavaScript.Parser.Statement
import DepTriage.JavaScript.Reading
import DepTriage.JavaScript.Scope
import DepTriage.JavaScript.Syntax
import DepTriage.JavaScript.Token
import DepTriage.Json.Basic
import DepTriage.Json.Printer
import DepTriage.Json.Reader
import DepTriage.LockFile.Change
import DepTriage.LockFile.Pnpm
import DepTriage.LockFile.Revisions
import DepTriage.LockFile.Yarn
import DepTriage.LockFormat
import DepTriage.Main
import DepTriage.Proofs.GlobalUsage
import DepTriage.Proofs.JavaScript.Interpretation
import DepTriage.Registry.Client
import DepTriage.Registry.Package
import DepTriage.Registry.SemanticVersion
import DepTriage.Report.Finding
import DepTriage.Report.Overview
import DepTriage.Report.Result
import DepTriage.Report.Table
import DepTriage.Retry
import DepTriage.Rule.DangerousGlobals
import DepTriage.Rule.Evaluation
import DepTriage.Rule.Registry
import DepTriage.Rule.SourceText
import DepTriage.Scan.Assessment
import DepTriage.Scan.Batch
import DepTriage.Scan.PullRequest
import DepTriage.Scan.Result
import DepTriage.Scan.Source
import DepTriage.ScanError
import DepTriage.Severity
import DepTriage.Text.Blank
import DepTriage.Text.ByteOrderMark
import DepTriage.Text.CodeRanges
import DepTriage.Text.Hex
import DepTriage.Text.Identifier
import DepTriage.Text.IdentifierRanges
import DepTriage.Text.LetterCase
import DepTriage.Text.Lowercase
import DepTriage.Text.Split
import DepTriage.Text.Utf8
import DepTriage.Text.Width
import DepTriage.Text.Wildcard
import DepTriage.Time.Date
import DepTriage.Time.Reading
import DepTriage.Time.Timestamp
import DepTriage.Toml.Draft
import DepTriage.Toml.Lexeme
import DepTriage.Toml.Printer
import DepTriage.Toml.Reader
import DepTriage.Toml.Value
import DepTriage.UsageLedger
import DepTriage.Yaml.Node
import DepTriage.Yaml.Place
import DepTriage.Yaml.Scalar
import DepTriage.Yaml.Scanner
import DepTriage.Yaml.Tag
import DepTriage.Yaml.Token
import DepTriage.Yaml.Value
import DepTriage.Proofs.JavaScript.Simulation
import DepTriage.Proofs.JavaScript.MemberChain
import DepTriage.Proofs.JavaScript.References
import DepTriage.Proofs.JavaScript.Occurrence
import DepTriage.Proofs.JavaScript.Declarations
import DepTriage.Proofs.JavaScript.Calls
import DepTriage.Proofs.JavaScript.Hoisting
import DepTriage.Proofs.Archive.Bytes
import DepTriage.Proofs.Archive.Tar
import DepTriage.Proofs.Archive.Delivery
import DepTriage.Proofs.Archive.Extraction
import DepTriage.Proofs.Dependency
import DepTriage.Proofs.State
import DepTriage.Proofs.Scan.Batch
import DepTriage.Proofs.Text.Split
import DepTriage.Proofs.Text.Blank
import DepTriage.Proofs.Text.Wildcard
import DepTriage.Proofs.LockFile.Yarn
import DepTriage.Proofs.LockFile.Yarn.Fold
import DepTriage.Proofs.LockFile.Yarn.Layout
import DepTriage.Proofs.LockFile.Yarn.Specifier
import DepTriage.Proofs.Yaml.Quoted
import DepTriage.Proofs.Yaml.Scanning
import DepTriage.Proofs.LockFile.Pnpm.Keys
import DepTriage.Proofs.LockFile.Pnpm.Written
import DepTriage.Proofs.LockFile.Pnpm.Foreign
import DepTriage.Proofs.LockFile.Pnpm.Generations
import DepTriage.Proofs.Scan.Calls
import DepTriage.Proofs.LockFile.Change
import DepTriage.Proofs.Scan.LockFiles
import DepTriage.Proofs.LockFile.Revisions
import DepTriage.Proofs.Scan.PullRequest
import DepTriage.Proofs.Git.NameStatus
import DepTriage.Proofs.Text.Utf8
import DepTriage.Proofs.Git.Checkout
import DepTriage.Proofs.Scan.Agreement
import DepTriage.Proofs.Inventory
import DepTriage.Proofs.GlobalUsage.Join
import DepTriage.Proofs.UsageLedger
import DepTriage.Proofs.Json.RoundTrip
import DepTriage.Proofs.Rule.MoreFiles
import DepTriage.Proofs.Time.Calendar
import DepTriage.Proofs.Time.Reading
import DepTriage.Proofs.Registry.Package
import DepTriage.Proofs.Report.Saved
import DepTriage.Proofs.JavaScript.Package
import DepTriage.Proofs.JavaScript.Lookup
import DepTriage.Proofs.JavaScript.Parameters
import DepTriage.Proofs.JavaScript.Replacement
import DepTriage.Proofs.JavaScript.HoistedDeclarations
import DepTriage.Proofs.JavaScript.Parentheses
import DepTriage.Proofs.JavaScript.Exchange
import DepTriage.Proofs.JavaScript.Reordering
import DepTriage.Proofs.JavaScript.StringKeys
import DepTriage.Proofs.JavaScript.OperatorChain
import DepTriage.Proofs.JavaScript.Fallback
import DepTriage.Proofs.Toml.Strings
import DepTriage.Proofs.Toml.Values
import DepTriage.Proofs.Toml.Document
import DepTriage.Proofs.Toml.Integers
import DepTriage.Proofs.Config
import DepTriage.Proofs.Retry
import DepTriage.Proofs.Http.Server
import DepTriage.Proofs.GitHub.Objects
import DepTriage.Proofs.GitHub.FileText
import DepTriage.Proofs.GitHub.Pages
import DepTriage.Proofs.LockFile.Usable
import DepTriage.Proofs.Report.Summary
import DepTriage.Proofs.Registry.SemanticVersion
import DepTriage.Proofs.Time.Span
import DepTriage.Proofs.Rule.Freshness
