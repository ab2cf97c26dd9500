import SinkAudit.Analysis.Audit
import SinkAudit.Analysis.Basic
import SinkAudit.Classifier.Basic
import SinkAudit.Classifier.Remote
import SinkAudit.Command.Arguments
import SinkAudit.Command.Basic
import SinkAudit.Command.Run
import SinkAudit.Command.Variables
import SinkAudit.Config.Basic
import SinkAudit.Config.Load
import SinkAudit.Config.Starter
import SinkAudit.Digest.Sha256
import SinkAudit.Error
import SinkAudit.Glob.Basic
import SinkAudit.Glob.Parser
import SinkAudit.Ignore.Level
import SinkAudit.Ignore.Rule
import SinkAudit.Json.Basic
import SinkAudit.Json.Printer
import SinkAudit.Json.Reader
import SinkAudit.Json.Record
import SinkAudit.Json.Token
import SinkAudit.Main
import SinkAudit.Pattern.Basic
import SinkAudit.Pattern.Budget
import SinkAudit.Pattern.Category
import SinkAudit.Pattern.CharClass
import SinkAudit.Pattern.Expr
import SinkAudit.Pattern.LetterCase
import SinkAudit.Pattern.Meaning
import SinkAudit.Pattern.NamedClass
import SinkAudit.Pattern.Property
import SinkAudit.Pattern.Reader
import SinkAudit.Pattern.Script
import SinkAudit.Pattern.Trait
import SinkAudit.Pattern.WordClass
import SinkAudit.Pattern.Written
import SinkAudit.Proofs.Analysis.Accounting
import SinkAudit.Proofs.Analysis.Answers
import SinkAudit.Proofs.Analysis.Audit
import SinkAudit.Proofs.Analysis.Batches
import SinkAudit.Proofs.Analysis.Edits
import SinkAudit.Proofs.Analysis.Origin
import SinkAudit.Proofs.Analysis.Passes
import SinkAudit.Proofs.Analysis.Reference
import SinkAudit.Proofs.Analysis.Rerun
import SinkAudit.Proofs.Analysis.Schedule
import SinkAudit.Proofs.Analysis.Transparency
import SinkAudit.Proofs.Classifier.Retries
import SinkAudit.Proofs.Command.Frame
import SinkAudit.Proofs.Json.Codec
import SinkAudit.Proofs.Json.Cut
import SinkAudit.Proofs.Json.Lexing
import SinkAudit.Proofs.Json.Pretty
import SinkAudit.Proofs.Json.RoundTrip
import SinkAudit.Proofs.Json.Steps
import SinkAudit.Proofs.Json.Tokens
import SinkAudit.Proofs.Pattern.Language
import SinkAudit.Proofs.Pattern.Mirror
import SinkAudit.Proofs.Pattern.Shedding
import SinkAudit.Proofs.Report.Decoding
import SinkAudit.Proofs.Report.Fence
import SinkAudit.Proofs.Report.Sarif
import SinkAudit.Proofs.Report.ScanOrder
import SinkAudit.Proofs.Rule.Catalog
import SinkAudit.Proofs.Scan.Composition
import SinkAudit.Proofs.Scan.Content
import SinkAudit.Proofs.Scan.Line
import SinkAudit.Proofs.Scan.LineEnding
import SinkAudit.Proofs.Scan.Locality
import SinkAudit.Proofs.Scan.Moved
import SinkAudit.Proofs.Scan.Overflow
import SinkAudit.Proofs.Scan.Preference
import SinkAudit.Proofs.Scan.Readback
import SinkAudit.Proofs.Scan.Signature
import SinkAudit.Proofs.Scan.Sinks
import SinkAudit.Proofs.Scan.Trimmed
import SinkAudit.Proofs.Scan.Universal
import SinkAudit.Proofs.Scan.Walk
import SinkAudit.Proofs.Scan.Window
import SinkAudit.Proofs.Store.Appending
import SinkAudit.Proofs.Store.Compaction
import SinkAudit.Proofs.Store.Crash
import SinkAudit.Proofs.Store.Damage
import SinkAudit.Proofs.Store.Durability
import SinkAudit.Proofs.Store.Entries
import SinkAudit.Proofs.Store.Holding
import SinkAudit.Proofs.Store.Log
import SinkAudit.Proofs.Store.Provenance
import SinkAudit.Proofs.Store.PutOrder
import SinkAudit.Proofs.Store.Site
import SinkAudit.Proofs.Store.Unsaved
import SinkAudit.Proofs.Store.Usage
import SinkAudit.Proofs.Text.Blank
import SinkAudit.Proofs.Text.Decimal
import SinkAudit.Proofs.Text.Encoding
import SinkAudit.Proofs.Text.Rows
import SinkAudit.Proofs.Verdict.Agreement
import SinkAudit.Proofs.Verdict.Extraction
import SinkAudit.Proofs.Verdict.Fences
import SinkAudit.Proofs.Verdict.Reply
import SinkAudit.Proofs.Verdict.Shortest
import SinkAudit.Proofs.Workspace.Directories
import SinkAudit.Proofs.Workspace.Edits
import SinkAudit.Proofs.Workspace.Files
import SinkAudit.Proofs.Workspace.Listing
import SinkAudit.Proofs.Workspace.PathOrder
import SinkAudit.Proofs.Workspace.PathText
import SinkAudit.Proofs.Workspace.Replacement
import SinkAudit.Proofs.Workspace.Tree
import SinkAudit.Proofs.Workspace.Walk
import SinkAudit.Report.Basic
import SinkAudit.Report.Markdown
import SinkAudit.Report.Moment
import SinkAudit.Report.Render
import SinkAudit.Report.Sarif
import SinkAudit.Rule.Basic
import SinkAudit.Rule.Builtin
import SinkAudit.Rule.Listing
import SinkAudit.Rule.Severity
import SinkAudit.Scan.Candidate
import SinkAudit.Scan.Content
import SinkAudit.Scan.Line
import SinkAudit.Scan.Walk
import SinkAudit.Scan.Window
import SinkAudit.Store.Basic
import SinkAudit.Store.Log
import SinkAudit.Text.Character
import SinkAudit.Text.Composition
import SinkAudit.Text.Direction
import SinkAudit.Text.Joining
import SinkAudit.Text.Letter
import SinkAudit.Text.Mark
import SinkAudit.Text.Normal
import SinkAudit.Text.Numeral
import SinkAudit.Text.Pad
import SinkAudit.Text.Rows
import SinkAudit.Toml.Basic
import SinkAudit.Toml.Reader
import SinkAudit.Toml.Scalar
import SinkAudit.Toml.Token
import SinkAudit.Url.Basic
import SinkAudit.Url.Domain
import SinkAudit.Url.Host
import SinkAudit.Url.Label
import SinkAudit.Url.Mapping
import SinkAudit.Url.Punycode
import SinkAudit.Url.Reader
import SinkAudit.Verdict.Basic
import SinkAudit.Verdict.Reply
import SinkAudit.Word
import SinkAudit.Workspace.Basic
import SinkAudit.Workspace.Changes
import SinkAudit.Workspace.Path
