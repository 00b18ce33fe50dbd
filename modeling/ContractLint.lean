import ContractLint.Analysis
import ContractLint.Command.Arguments
import ContractLint.Command.Basic
import ContractLint.Command.Run
import ContractLint.Console.Cells
import ContractLint.Console.Frame
import ContractLint.Console.Grid
import ContractLint.Console.Markup
import ContractLint.Console.Screen
import ContractLint.Console.Wrap
import ContractLint.Contract.Function
import ContractLint.Contract.Layout
import ContractLint.Contract.Review
import ContractLint.Contract.Signature
import ContractLint.Finding.Basic
import ContractLint.Finding.Wire
import ContractLint.History.Archive
import ContractLint.History.Calendar
import ContractLint.History.Clock
import ContractLint.History.Files
import ContractLint.History.Session
import ContractLint.History.Store
import ContractLint.History.Table
import ContractLint.Json.Basic
import ContractLint.Json.Display
import ContractLint.Json.Printer
import ContractLint.Json.Reader
import ContractLint.Main
import ContractLint.Number.Binary64
import ContractLint.Number.Rounding
import ContractLint.Path
import ContractLint.Position
import ContractLint.Report.Basic
import ContractLint.Report.Listing
import ContractLint.Report.Screen
import ContractLint.Rule.Catalogue
import ContractLint.Rule.Pattern
import ContractLint.Service.Api
import ContractLint.Service.Message
import ContractLint.Settings
import ContractLint.Source
import ContractLint.Text.Basic
import ContractLint.Text.Digit
import ContractLint.Text.HiddenRanges
import ContractLint.Text.Integer
import ContractLint.Text.Names
import ContractLint.Text.Quoted
import ContractLint.Text.Utf8
import ContractLint.Text.WidthRanges
import ContractLint.Text.Word
import ContractLint.Text.WordRanges
import ContractLint.Tree.Access
import ContractLint.Tree.Basic
import ContractLint.Tree.Search
import ContractLint.Proofs.Text.Lines
import ContractLint.Proofs.Source.Canonical
import ContractLint.Proofs.Analysis.Formatting
import ContractLint.Proofs.Analysis.Outcome
import ContractLint.Proofs.Analysis.Location
import ContractLint.Proofs.Rule.Normalization
import ContractLint.Proofs.Analysis.Catalogue
import ContractLint.Proofs.Analysis.Shape
import ContractLint.Proofs.Analysis.Suppression
import ContractLint.Proofs.Finding.RoundTrip
import ContractLint.Proofs.History.Listing
import ContractLint.Proofs.Service.Recording
import ContractLint.Proofs.History.Files
import ContractLint.Proofs.History.Ledger
import ContractLint.Proofs.Contract.Locality
import ContractLint.Proofs.Analysis.Displacement
import ContractLint.Proofs.Analysis.Disabling
import ContractLint.Proofs.Analysis.Guarding
import ContractLint.Proofs.Service.Answering
import ContractLint.Proofs.Tree.Map
import ContractLint.Proofs.History.Timeless
import ContractLint.Proofs.History.Failure
import ContractLint.Proofs.Tree.Lookup
import ContractLint.Proofs.Tree.Search
import ContractLint.Proofs.Command.Directory
import ContractLint.Proofs.Contract.Ordering
import ContractLint.Proofs.Text.Word
import ContractLint.Proofs.Contract.Parentheses
import ContractLint.Proofs.Contract.Written
import ContractLint.Proofs.Contract.Modifiers
import ContractLint.Proofs.Contract.ParameterList
import ContractLint.Proofs.Tree.Reordering
import ContractLint.Proofs.Tree.Traversal
import ContractLint.Proofs.Analysis.Merging
import ContractLint.Proofs.Source.NormalForm
import ContractLint.Proofs.Source.Reading
import ContractLint.Proofs.Json.Tokens
import ContractLint.Proofs.Json.RoundTrip
import ContractLint.Proofs.Report.Document
import ContractLint.Proofs.Report.Accounting
