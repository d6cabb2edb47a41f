import IdentityDocs.Analysis.Classifier
import IdentityDocs.Analysis.Extraction
import IdentityDocs.Analysis.Identifier
import IdentityDocs.Analysis.Label
import IdentityDocs.Analysis.RecognizedText
import IdentityDocs.Analysis.Score
import IdentityDocs.Analysis.TextAnalysis
import IdentityDocs.Audit.Entry
import IdentityDocs.Audit.File
import IdentityDocs.Audit.Log
import IdentityDocs.CommandLine.Display
import IdentityDocs.CommandLine.Draft
import IdentityDocs.CommandLine.Fault
import IdentityDocs.CommandLine.Help
import IdentityDocs.CommandLine.Level
import IdentityDocs.CommandLine.Reading
import IdentityDocs.CommandLine.Request
import IdentityDocs.CommandLine.Run
import IdentityDocs.CommandLine.Word
import IdentityDocs.Document.Category
import IdentityDocs.Document.Classification
import IdentityDocs.Document.Fields
import IdentityDocs.Document.FreshId
import IdentityDocs.Document.Id
import IdentityDocs.Document.Kind
import IdentityDocs.Document.Record
import IdentityDocs.Document.Result
import IdentityDocs.Document.Settings
import IdentityDocs.Document.Typed
import IdentityDocs.Error.Basic
import IdentityDocs.Error.Configuration
import IdentityDocs.Error.Database
import IdentityDocs.Error.File
import IdentityDocs.Error.Image
import IdentityDocs.Error.Recognition
import IdentityDocs.Error.StatusChange
import IdentityDocs.Files.Database
import IdentityDocs.Files.FileSystem
import IdentityDocs.Files.Path
import IdentityDocs.Fingerprint.File
import IdentityDocs.Fingerprint.Hasher
import IdentityDocs.Fingerprint.Sha256
import IdentityDocs.Image.Enhance
import IdentityDocs.Image.Format
import IdentityDocs.Image.Grey
import IdentityDocs.Image.Pnm
import IdentityDocs.Image.PnmCodec
import IdentityDocs.Image.Processed
import IdentityDocs.Json.Number
import IdentityDocs.Json.Printer
import IdentityDocs.Json.Reader
import IdentityDocs.Json.Shape
import IdentityDocs.Json.Value
import IdentityDocs.Main
import IdentityDocs.Number.Binary
import IdentityDocs.Number.Clamp
import IdentityDocs.Number.Whole
import IdentityDocs.Pipeline.Conclusion
import IdentityDocs.Pipeline.Job
import IdentityDocs.Pipeline.Stage
import IdentityDocs.Platform
import IdentityDocs.Proofs.Analysis.Confidence
import IdentityDocs.Proofs.Document.Id
import IdentityDocs.Proofs.Files.Change
import IdentityDocs.Proofs.Fingerprint.Digest
import IdentityDocs.Proofs.Image.Copy
import IdentityDocs.Proofs.Json.RoundTrip
import IdentityDocs.Proofs.Json.Shape
import IdentityDocs.Proofs.Pipeline.Lockstep
import IdentityDocs.Proofs.Pipeline.Stages
import IdentityDocs.Proofs.Records.Decision
import IdentityDocs.Proofs.Records.Encoding
import IdentityDocs.Proofs.Records.Failure
import IdentityDocs.Proofs.Records.Faithful
import IdentityDocs.Proofs.Records.Listing
import IdentityDocs.Proofs.Records.Operation
import IdentityDocs.Proofs.Records.Processing
import IdentityDocs.Proofs.Records.Reachable
import IdentityDocs.Proofs.Records.Rows
import IdentityDocs.Proofs.Records.Transition
import IdentityDocs.Proofs.Time.Calendar
import IdentityDocs.Proofs.Time.Order
import IdentityDocs.Proofs.Time.Stamp
import IdentityDocs.Proofs.Worker.Apart
import IdentityDocs.Proofs.Worker.Dispatch
import IdentityDocs.Proofs.Worker.Effects
import IdentityDocs.Proofs.Worker.Floor
import IdentityDocs.Proofs.Worker.History
import IdentityDocs.Proofs.Worker.Kept
import IdentityDocs.Proofs.Worker.Sequential
import IdentityDocs.Proofs.Worker.Settled
import IdentityDocs.Proofs.Worker.Shadow
import IdentityDocs.Recognizer.Basic
import IdentityDocs.Recognizer.Command
import IdentityDocs.Records.File
import IdentityDocs.Records.Row
import IdentityDocs.Records.Store
import IdentityDocs.Records.Table
import IdentityDocs.Script.Bytes
import IdentityDocs.Script.Child
import IdentityDocs.Script.Command
import IdentityDocs.Script.Condition
import IdentityDocs.Script.Expansion
import IdentityDocs.Script.Expression
import IdentityDocs.Script.Field
import IdentityDocs.Script.FileNames
import IdentityDocs.Script.Grammar
import IdentityDocs.Script.Installed
import IdentityDocs.Script.Launch
import IdentityDocs.Script.Layout
import IdentityDocs.Script.Lookup
import IdentityDocs.Script.Number
import IdentityDocs.Script.Options
import IdentityDocs.Script.Own.Aside
import IdentityDocs.Script.Own.Directories
import IdentityDocs.Script.Own.Flow
import IdentityDocs.Script.Own.Names
import IdentityDocs.Script.Own.Processes
import IdentityDocs.Script.Own.Run
import IdentityDocs.Script.Pattern
import IdentityDocs.Script.Printing
import IdentityDocs.Script.Process
import IdentityDocs.Script.Program
import IdentityDocs.Script.Reading
import IdentityDocs.Script.Redirection
import IdentityDocs.Script.Run
import IdentityDocs.Script.Tree
import IdentityDocs.Script.Utility.Basic
import IdentityDocs.Script.Utility.FileWork
import IdentityDocs.Script.Utility.Plain
import IdentityDocs.Script.Utility.Texts
import IdentityDocs.Script.Variable
import IdentityDocs.Script.Word
import IdentityDocs.Services.DataDirectory
import IdentityDocs.Services.Desk
import IdentityDocs.Text.Blank
import IdentityDocs.Text.CodeRange
import IdentityDocs.Text.Column
import IdentityDocs.Text.Lines
import IdentityDocs.Text.Printable
import IdentityDocs.Text.Quoted
import IdentityDocs.Text.Search
import IdentityDocs.Text.Upper
import IdentityDocs.Text.UpperTable
import IdentityDocs.Text.Utf8
import IdentityDocs.Text.WordChar
import IdentityDocs.TextMap
import IdentityDocs.Time.Calendar
import IdentityDocs.Time.Instant
import IdentityDocs.Time.Reader
import IdentityDocs.Time.Stamp
import IdentityDocs.Worker.Basic
import IdentityDocs.Worker.Run
import IdentityDocs.Proofs.Worker.Audited
import IdentityDocs.Proofs.Worker.Reported
import IdentityDocs.Proofs.Services.Registration
import IdentityDocs.Proofs.Services.Review
import IdentityDocs.Proofs.Audit.Views
import IdentityDocs.Proofs.Pipeline.Course
import IdentityDocs.Proofs.Pipeline.Cleanup
import IdentityDocs.Proofs.Pipeline.Faithful
import IdentityDocs.Proofs.Text.Utf8
import IdentityDocs.Proofs.Services.Office
import IdentityDocs.Proofs.Services.Matched
import IdentityDocs.Proofs.Analysis.Labels
import IdentityDocs.Proofs.Analysis.Classifier
import IdentityDocs.Proofs.Analysis.Decision
import IdentityDocs.Proofs.Analysis.Extraction
import IdentityDocs.Proofs.Analysis.Identifier
import IdentityDocs.Proofs.Document.Fields
import IdentityDocs.Proofs.Document.Settings
import IdentityDocs.Proofs.Files.Database
import IdentityDocs.Proofs.Files.Place
import IdentityDocs.Proofs.Json.Grammar
import IdentityDocs.Proofs.Json.Reading
import IdentityDocs.Proofs.Services.Restart
import IdentityDocs.Proofs.Text.Pieces
import IdentityDocs.Proofs.Analysis.Priority
import IdentityDocs.Proofs.Analysis.Provenance
import IdentityDocs.Proofs.Records.Unreadable
import IdentityDocs.Proofs.Pipeline.Claimed
import IdentityDocs.Proofs.Worker.Claimed
import IdentityDocs.Proofs.Analysis.ExtractedData
import IdentityDocs.Proofs.Document.Changes
import IdentityDocs.Proofs.Document.FieldsText
import IdentityDocs.Proofs.Fingerprint.Bits
import IdentityDocs.Proofs.Fingerprint.Conformity
import IdentityDocs.Proofs.Fingerprint.Standard
import IdentityDocs.Proofs.Fingerprint.Streaming
import IdentityDocs.Proofs.Document.Writes
import IdentityDocs.Proofs.Text.Layout
import IdentityDocs.Proofs.Analysis.Lines
