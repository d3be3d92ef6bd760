import RenamePlan.Audit.Row
import RenamePlan.Audit.Table
import RenamePlan.Csv.Writer
import RenamePlan.Edit.Apply
import RenamePlan.Edit.Basic
import RenamePlan.Edit.Request
import RenamePlan.Edit.Saved
import RenamePlan.Edit.Store
import RenamePlan.File.Encoding
import RenamePlan.File.Folders
import RenamePlan.File.Path
import RenamePlan.File.System
import RenamePlan.Json.Basic
import RenamePlan.Json.Compare
import RenamePlan.Json.Kind
import RenamePlan.Json.Reader
import RenamePlan.Json.Worth
import RenamePlan.Json.Writer
import RenamePlan.Line.Comment
import RenamePlan.Line.Given
import RenamePlan.Line.Literal
import RenamePlan.Line.Match
import RenamePlan.Line.Range
import RenamePlan.Line.Selection
import RenamePlan.Log.Logger
import RenamePlan.Log.Record
import RenamePlan.Log.Tree
import RenamePlan.Planner
import RenamePlan.Profile.Basic
import RenamePlan.Profile.Logging
import RenamePlan.Profile.Options
import RenamePlan.Profile.Saved
import RenamePlan.Proofs.Csv.RoundTrip
import RenamePlan.Proofs.Edit.FirstWriter
import RenamePlan.Proofs.Edit.Frame
import RenamePlan.Proofs.Edit.Occurrences
import RenamePlan.Proofs.Edit.Overlap
import RenamePlan.Proofs.Edit.Plain
import RenamePlan.Proofs.Edit.RenameBack
import RenamePlan.Proofs.Edit.Respelling
import RenamePlan.Proofs.Edit.Simultaneous
import RenamePlan.Proofs.Edit.WordRuns
import RenamePlan.Proofs.File.Folders
import RenamePlan.Proofs.File.OutputPath
import RenamePlan.Proofs.History.Groups
import RenamePlan.Proofs.History.StableSort
import RenamePlan.Proofs.Json.RoundTrip
import RenamePlan.Proofs.Line.CodePart
import RenamePlan.Proofs.Line.CommentMark
import RenamePlan.Proofs.Line.Occurrence
import RenamePlan.Proofs.Line.QuoteParity
import RenamePlan.Proofs.Line.Quoting
import RenamePlan.Proofs.Line.Scan
import RenamePlan.Proofs.Line.Spelling
import RenamePlan.Proofs.Line.Words
import RenamePlan.Proofs.Log.Settings
import RenamePlan.Proofs.Log.Setup
import RenamePlan.Proofs.Planner.History
import RenamePlan.Proofs.Planner.Ledger
import RenamePlan.Proofs.Planner.Marks
import RenamePlan.Proofs.Planner.Plan
import RenamePlan.Proofs.Planner.Rename
import RenamePlan.Proofs.Profile.RoundTrip
import RenamePlan.Proofs.Report.AuditReport
import RenamePlan.Proofs.Report.Delivery
import RenamePlan.Proofs.Report.EditsReport
import RenamePlan.Proofs.Report.Order
import RenamePlan.Proofs.Report.Schedule
import RenamePlan.Proofs.Symbol.FirstDeclared
import RenamePlan.Proofs.Text.Classes
import RenamePlan.Proofs.Text.Folding
import RenamePlan.Proofs.Usage.AppendOnly
import RenamePlan.Proofs.Usage.Columns
import RenamePlan.Proofs.Usage.History
import RenamePlan.Proofs.Usage.Lines
import RenamePlan.Proofs.Usage.Reload
import RenamePlan.Report.Document
import RenamePlan.Report.Export
import RenamePlan.Symbol.Basic
import RenamePlan.Symbol.Kind
import RenamePlan.Symbol.Table
import RenamePlan.Text.Basic
import RenamePlan.Text.Blank
import RenamePlan.Text.CodePoint
import RenamePlan.Text.Decimal
import RenamePlan.Text.Fold
import RenamePlan.Text.Letter
import RenamePlan.Text.Lower
import RenamePlan.Text.Printable
import RenamePlan.Text.Quoted
import RenamePlan.Text.Upper
import RenamePlan.Text.Word
import RenamePlan.Usage.Basic
import RenamePlan.Usage.Registry
import RenamePlan.Usage.Saved
