import ProofDesk.Arena.Basic
import ProofDesk.Arena.Bench
import ProofDesk.Arena.Edit
import ProofDesk.Bank
import ProofDesk.Canvas.Basic
import ProofDesk.Canvas.Command
import ProofDesk.Canvas.Edit
import ProofDesk.Canvas.Encode
import ProofDesk.Canvas.Export
import ProofDesk.Canvas.Node
import ProofDesk.Canvas.Substitution
import ProofDesk.Checker.Answer
import ProofDesk.Checker.Launch
import ProofDesk.Checker.Query
import ProofDesk.CommandLine
import ProofDesk.Decimal.Binary64
import ProofDesk.Decimal.Shortest
import ProofDesk.Derivation.Basic
import ProofDesk.Derivation.Script
import ProofDesk.Domain.Composition
import ProofDesk.Domain.Direction
import ProofDesk.Domain.Joining
import ProofDesk.Domain.Mapping
import ProofDesk.Domain.Name
import ProofDesk.Domain.Punycode
import ProofDesk.Editor.Json
import ProofDesk.Files.Basic
import ProofDesk.Files.Path
import ProofDesk.Fix.Basic
import ProofDesk.Fix.Case
import ProofDesk.Fix.Propose
import ProofDesk.Fix.Tag
import ProofDesk.Forest
import ProofDesk.Json.Basic
import ProofDesk.Json.Decoder
import ProofDesk.Json.Number
import ProofDesk.Json.Printer
import ProofDesk.Json.Reader
import ProofDesk.Json.Settled
import ProofDesk.Main
import ProofDesk.Proofs.Arena.Entries
import ProofDesk.Proofs.Arena.Links
import ProofDesk.Proofs.Arena.Numbering
import ProofDesk.Proofs.Arena.Regrafting
import ProofDesk.Proofs.Arena.Rewriting
import ProofDesk.Proofs.Arena.Run
import ProofDesk.Proofs.Arena.Simulation
import ProofDesk.Proofs.Arena.States
import ProofDesk.Proofs.Arena.Stores
import ProofDesk.Proofs.Arena.Walks
import ProofDesk.Proofs.Canvas.Capture
import ProofDesk.Proofs.Canvas.Cases
import ProofDesk.Proofs.Canvas.Delivery
import ProofDesk.Proofs.Canvas.Edited
import ProofDesk.Proofs.Canvas.Exporting
import ProofDesk.Proofs.Canvas.Finishing
import ProofDesk.Proofs.Canvas.Holding
import ProofDesk.Proofs.Canvas.Lifetime
import ProofDesk.Proofs.Canvas.Links
import ProofDesk.Proofs.Canvas.Notices
import ProofDesk.Proofs.Canvas.Numbering
import ProofDesk.Proofs.Canvas.Overtaking
import ProofDesk.Proofs.Canvas.Refused
import ProofDesk.Proofs.Canvas.Regrafting
import ProofDesk.Proofs.Canvas.Replacing
import ProofDesk.Proofs.Canvas.Rewording
import ProofDesk.Proofs.Canvas.Run
import ProofDesk.Proofs.Canvas.Shape
import ProofDesk.Proofs.Canvas.Slots
import ProofDesk.Proofs.Canvas.Snapshot
import ProofDesk.Proofs.Canvas.Sound
import ProofDesk.Proofs.Canvas.States
import ProofDesk.Proofs.Canvas.Undoing
import ProofDesk.Proofs.Checker.Answers
import ProofDesk.Proofs.Derivation.Fresh
import ProofDesk.Proofs.Derivation.Naming
import ProofDesk.Proofs.Derivation.Reading
import ProofDesk.Proofs.Derivation.References
import ProofDesk.Proofs.Files.Frame
import ProofDesk.Proofs.Files.Path
import ProofDesk.Proofs.Fix.CaseLines
import ProofDesk.Proofs.Fix.Confinement
import ProofDesk.Proofs.Fix.Declaration
import ProofDesk.Proofs.Fix.Insertion
import ProofDesk.Proofs.Fix.LineEnds
import ProofDesk.Proofs.Fix.MissingCases
import ProofDesk.Proofs.Fix.Replacement
import ProofDesk.Proofs.Fix.Site
import ProofDesk.Proofs.Forest.Context
import ProofDesk.Proofs.Forest.Descent
import ProofDesk.Proofs.Forest.Links
import ProofDesk.Proofs.Forest.Place
import ProofDesk.Proofs.Forest.Postorder
import ProofDesk.Proofs.Forest.Rows
import ProofDesk.Proofs.Json.Decoders
import ProofDesk.Proofs.Json.Numbers
import ProofDesk.Proofs.Json.ReadBack
import ProofDesk.Proofs.Report.Codes
import ProofDesk.Proofs.Report.Declared
import ProofDesk.Proofs.Report.Folding
import ProofDesk.Proofs.Report.Places
import ProofDesk.Proofs.Report.Records
import ProofDesk.Proofs.Report.Respelling
import ProofDesk.Proofs.Report.RoundTrip
import ProofDesk.Proofs.Report.Schema
import ProofDesk.Proofs.Server.InStep
import ProofDesk.Proofs.Server.LastValidated
import ProofDesk.Proofs.Server.Mending
import ProofDesk.Proofs.Server.Outages
import ProofDesk.Proofs.Server.Rechecking
import ProofDesk.Proofs.Server.Recovery
import ProofDesk.Proofs.Server.Run
import ProofDesk.Proofs.Server.Serving
import ProofDesk.Proofs.Session.Bank
import ProofDesk.Proofs.Session.Questions
import ProofDesk.Proofs.Session.Refusals
import ProofDesk.Proofs.Session.Run
import ProofDesk.Proofs.Text.Cuts
import ProofDesk.Proofs.Text.Endings
import ProofDesk.Proofs.Text.Lines
import ProofDesk.Proofs.Text.Occurrence
import ProofDesk.Proofs.Text.Positions
import ProofDesk.Proofs.Text.Slices
import ProofDesk.Proofs.Text.Trimming
import ProofDesk.Proofs.Text.Words
import ProofDesk.Proofs.Trace
import ProofDesk.Proofs.Uri.Confinement
import ProofDesk.Refusal
import ProofDesk.Regex.Basic
import ProofDesk.Regex.Reader
import ProofDesk.Report.Basic
import ProofDesk.Report.Decode
import ProofDesk.Report.Definition
import ProofDesk.Report.Diagnostic
import ProofDesk.Report.Encode
import ProofDesk.Report.Lookup
import ProofDesk.Report.Outline
import ProofDesk.Server.Basic
import ProofDesk.Server.Feature
import ProofDesk.Session
import ProofDesk.Settings
import ProofDesk.Shell.Arithmetic
import ProofDesk.Shell.Builtin
import ProofDesk.Shell.Condition
import ProofDesk.Shell.Escape
import ProofDesk.Shell.Evaluate
import ProofDesk.Shell.Execute
import ProofDesk.Shell.Expansion
import ProofDesk.Shell.Format
import ProofDesk.Shell.Grammar
import ProofDesk.Shell.Machine
import ProofDesk.Shell.Pattern
import ProofDesk.Shell.Reader
import ProofDesk.Shell.Run
import ProofDesk.Shell.Script
import ProofDesk.Shell.Token
import ProofDesk.Text.Alphanumeric
import ProofDesk.Text.Basic
import ProofDesk.Text.Blank
import ProofDesk.Text.Capital
import ProofDesk.Text.CodeRange
import ProofDesk.Text.Lines
import ProofDesk.Text.Range
import ProofDesk.Text.Utf8
import ProofDesk.Text.Word
import ProofDesk.Tool.Basic
import ProofDesk.Tool.Column
import ProofDesk.Tool.Comparison
import ProofDesk.Tool.Compute
import ProofDesk.Tool.Count
import ProofDesk.Tool.Directory
import ProofDesk.Tool.Dump
import ProofDesk.Tool.Edit
import ProofDesk.Tool.EditScript
import ProofDesk.Tool.Order
import ProofDesk.Tool.Search
import ProofDesk.Tool.Show
import ProofDesk.Tool.Substitute
import ProofDesk.Tool.Table
import ProofDesk.Tool.Translate
import ProofDesk.Uri.Basic
import ProofDesk.Uri.Encoding
import ProofDesk.Uri.Host
import ProofDesk.Uri.Module
import ProofDesk.Uri.Path
import ProofDesk.Uri.Reader
