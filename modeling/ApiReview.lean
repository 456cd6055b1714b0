import ApiReview.Bundled.Draft4
import ApiReview.Bundled.Draft4.Text
import ApiReview.Bundled.OpenApi3
import ApiReview.Bundled.Resource
import ApiReview.Bundled.Swagger
import ApiReview.CommandLine.Option
import ApiReview.CommandLine.Request
import ApiReview.CommandLine.Run
import ApiReview.CommandLine.Usage
import ApiReview.Config.Basic
import ApiReview.Config.Reader
import ApiReview.Config.Tree
import ApiReview.Decimal.Binary64
import ApiReview.Decimal.Digits
import ApiReview.Decimal.Number
import ApiReview.Decimal.Shortest
import ApiReview.Document.Context
import ApiReview.Document.Dialect
import ApiReview.Document.Model
import ApiReview.Document.Reader
import ApiReview.Document.Tree
import ApiReview.Files.Error
import ApiReview.Files.Folder
import ApiReview.Json.Basic
import ApiReview.Json.Printer
import ApiReview.Json.Reader
import ApiReview.Lint.Check
import ApiReview.Lint.Error
import ApiReview.Lint.Registry
import ApiReview.Lint.Report
import ApiReview.Lint.Report.Human
import ApiReview.Lint.Report.Machine
import ApiReview.Lint.Run
import ApiReview.Lint.Severity
import ApiReview.Main
import ApiReview.Pointer
import ApiReview.Proofs.Distinct
import ApiReview.Proofs.Faults
import ApiReview.Proofs.Locations
import ApiReview.Proofs.MediaTypes
import ApiReview.Proofs.Model
import ApiReview.Proofs.Order
import ApiReview.Proofs.Pointer
import ApiReview.Proofs.Registry
import ApiReview.Proofs.Run
import ApiReview.Proofs.Success
import ApiReview.Proofs.Tree
import ApiReview.Regex.Basic
import ApiReview.Regex.Class
import ApiReview.Regex.Matching
import ApiReview.Regex.Property
import ApiReview.Regex.Reader
import ApiReview.Remote.Cache
import ApiReview.Remote.Conformance
import ApiReview.Remote.Download
import ApiReview.Remote.Response
import ApiReview.Rules.Builtin
import ApiReview.Rules.MediaTypes
import ApiReview.Rules.UseOpenApi
import ApiReview.Schema.Basic
import ApiReview.Schema.Build
import ApiReview.Schema.Constraint
import ApiReview.Schema.Error
import ApiReview.Schema.Failure
import ApiReview.Schema.Faults
import ApiReview.Schema.Reader
import ApiReview.Schema.Resource
import ApiReview.Schema.Validator
import ApiReview.Schema.Verdict
import ApiReview.Text.Case
import ApiReview.Text.Category
import ApiReview.Text.Class
import ApiReview.Text.Quoted
import ApiReview.Text.Unprintable
import ApiReview.Text.Word
import ApiReview.Uri
import ApiReview.Yaml.Cursor
import ApiReview.Yaml.Error
import ApiReview.Yaml.Event
import ApiReview.Yaml.Node
import ApiReview.Yaml.Read
import ApiReview.Yaml.Scalar
import ApiReview.Yaml.Token.Basic
import ApiReview.Yaml.Token.Property
import ApiReview.Yaml.Token.Scalar
import ApiReview.Yaml.Token.Stream
import ApiReview.Yaml.Typed
import ApiReview.Yaml.Value
import ApiReview.Proofs.Gathering
import ApiReview.Proofs.Reading
import ApiReview.Proofs.Reference
import ApiReview.Proofs.Book
import ApiReview.Proofs.Bundled
import ApiReview.Proofs.Cache
import ApiReview.Proofs.Verdict
import ApiReview.Proofs.Completeness
import ApiReview.Proofs.Download
import ApiReview.Proofs.History
import ApiReview.Proofs.Comprehension
import ApiReview.Proofs.Independence
import ApiReview.Proofs.Session
import ApiReview.Proofs.Inside
import ApiReview.Proofs.Meaning
import ApiReview.Proofs.Grounded
import ApiReview.Proofs.Table
import ApiReview.Proofs.Whole
import ApiReview.Proofs.Compiled
import ApiReview.Proofs.Keywords
import ApiReview.Proofs.Members
import ApiReview.Proofs.Conforming
import ApiReview.Proofs.Rounds
import ApiReview.Proofs.Conformance
import ApiReview.Proofs.Acquisition
import ApiReview.Proofs.Builtin
import ApiReview.Proofs.Conversion
import ApiReview.Proofs.Extension
import ApiReview.Proofs.Rendering
import ApiReview.Proofs.Written
import ApiReview.Proofs.Calls
import ApiReview.Proofs.Outcomes
import ApiReview.Proofs.Settings
import ApiReview.Proofs.Translation
import ApiReview.Proofs.Recovery
import ApiReview.Proofs.Ending
import ApiReview.Proofs.Normalization
import ApiReview.Proofs.Escapes
import ApiReview.Proofs.Typing
import ApiReview.Proofs.Format
import ApiReview.Proofs.Pruning
import ApiReview.Proofs.Twins
import ApiReview.Proofs.Alike
import ApiReview.Proofs.Lockstep
import ApiReview.Proofs.Tolerance
import ApiReview.Proofs.Idle
import ApiReview.Proofs.Versioning
import ApiReview.Proofs.Inward
import ApiReview.Proofs.Origin
import ApiReview.Proofs.Asking
import ApiReview.Proofs.Descent
import ApiReview.Proofs.Renaming
import ApiReview.Proofs.Closure
import ApiReview.Proofs.Reordering
import ApiReview.Proofs.Shuffling
import ApiReview.Proofs.Surveying
import ApiReview.Proofs.Orderless
import ApiReview.Proofs.Stripping
import ApiReview.Proofs.Repetition
import ApiReview.Proofs.Styles
import ApiReview.Proofs.Holding
import ApiReview.Proofs.Fields
import ApiReview.Proofs.Restoring
