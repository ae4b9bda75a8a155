import SqlGateway.Adapter
import SqlGateway.Adapter.Connect
import SqlGateway.Adapter.Native
import SqlGateway.Calendar
import SqlGateway.Column
import SqlGateway.Config
import SqlGateway.Connection.Entry
import SqlGateway.Connection.Params
import SqlGateway.Connection.Registry
import SqlGateway.Connection.Source
import SqlGateway.Connection.Text
import SqlGateway.Database
import SqlGateway.Database.Fetch
import SqlGateway.Database.Managed
import SqlGateway.Database.Prepared
import SqlGateway.Database.Rows
import SqlGateway.Dialect
import SqlGateway.Dictionary
import SqlGateway.Fault
import SqlGateway.Fault.Arguments
import SqlGateway.Gateway
import SqlGateway.Json.Reader
import SqlGateway.Json.Writer
import SqlGateway.Logging.Format
import SqlGateway.Logging.Record
import SqlGateway.Logging.Steps
import SqlGateway.Logging.System
import SqlGateway.Native.Call
import SqlGateway.Native.Driver
import SqlGateway.Number.Binary64
import SqlGateway.Number.Decimal
import SqlGateway.Number.Numeral
import SqlGateway.Number.Scientific
import SqlGateway.Operation
import SqlGateway.Parameter
import SqlGateway.Parameter.Style
import SqlGateway.Result
import SqlGateway.Scenario.Answer
import SqlGateway.Scenario.Client
import SqlGateway.Scenario.Command
import SqlGateway.Scenario.Perform
import SqlGateway.Scenario.Run
import SqlGateway.Session
import SqlGateway.Template.Cache
import SqlGateway.Template.Query
import SqlGateway.Template.Steps
import SqlGateway.Template.Token
import SqlGateway.Text.Base64
import SqlGateway.Text.Blank
import SqlGateway.Text.Bytes
import SqlGateway.Text.CodeRange
import SqlGateway.Text.Digit
import SqlGateway.Text.Lowercase
import SqlGateway.Text.Printable
import SqlGateway.Text.Quoted
import SqlGateway.Text.Replace
import SqlGateway.Text.Word
import SqlGateway.Transaction.Steps
import SqlGateway.Transaction.Tracker
import SqlGateway.TypeCode
import SqlGateway.Value
import SqlGateway.Value.Conversion
import SqlGateway.Value.Display
import SqlGateway.Value.Equality
import SqlGateway.Value.Order
import SqlGateway.Proofs.Transaction.Level
import SqlGateway.Proofs.Transaction.NativeCalls
import SqlGateway.Proofs.Gateway.Steady
import SqlGateway.Proofs.Template.Styles
import SqlGateway.Proofs.Session.Quiet
import SqlGateway.Proofs.Session.Resemblance
import SqlGateway.Proofs.Database.Deed
import SqlGateway.Proofs.Database.Dialogue
import SqlGateway.Proofs.Database.RowChange
import SqlGateway.Proofs.Database.Blocks
import SqlGateway.Proofs.Database.Program
import SqlGateway.Proofs.Database.Reachable
import SqlGateway.Proofs.Database.Outcome
import SqlGateway.Proofs.Native.Trace
import SqlGateway.Proofs.Native.Confined
import SqlGateway.Proofs.Native.Resemblance
import SqlGateway.Proofs.Gateway.Parameters
import SqlGateway.Proofs.Gateway.Custody
import SqlGateway.Proofs.Database.Sharing
import SqlGateway.Proofs.Fault.Tame
import SqlGateway.Proofs.Native.Boundary
import SqlGateway.Proofs.Session.Boundary
import SqlGateway.Proofs.Database.Uses
import SqlGateway.Proofs.Native.LateCommit
import SqlGateway.Proofs.Session.Statement
import SqlGateway.Proofs.Template.Memo
import SqlGateway.Proofs.Template.Grammar
import SqlGateway.Proofs.Template.Translation
import SqlGateway.Proofs.Template.Insertion
import SqlGateway.Proofs.Database.Insertion
import SqlGateway.Proofs.Database.LateCommit
import SqlGateway.Proofs.Number.Shortest
import SqlGateway.Proofs.Number.Written
import SqlGateway.Proofs.Json.Documents
import SqlGateway.Proofs.Config.Fingerprint
import SqlGateway.Proofs.Database.Request
import SqlGateway.Proofs.Database.Configured
import SqlGateway.Proofs.Connection.TextReading
import SqlGateway.Proofs.Native.Progress
import SqlGateway.Proofs.Native.Autocommit
import SqlGateway.Proofs.Native.OpenTransaction
import SqlGateway.Proofs.Database.Service
import SqlGateway.Proofs.Database.ServiceRun
import SqlGateway.Proofs.Database.Autocommit
import SqlGateway.Proofs.Database.OpenTransaction
import SqlGateway.Proofs.Operation.Matched
import SqlGateway.Proofs.Native.Record
import SqlGateway.Proofs.Connection.Password
import SqlGateway.Proofs.Gateway.Redaction
import SqlGateway.Proofs.Database.Redaction
import SqlGateway.Proofs.Session.Redaction
import SqlGateway.Proofs.Scenario.Redaction
import SqlGateway.Proofs.Scenario.Command
import SqlGateway.Proofs.Scenario.Concealment
import SqlGateway.Proofs.Value.BoundText
import SqlGateway.Proofs.Template.Recency
import SqlGateway.Proofs.Database.FailedWork
import SqlGateway.Proofs.Database.ColumnNames
import SqlGateway.Proofs.Number.Overflow
import SqlGateway.Proofs.Template.Kept
import SqlGateway.Proofs.Template.Literal
import SqlGateway.Proofs.Value.FetchedValue
import SqlGateway.Proofs.Value.BoundValues
import SqlGateway.Proofs.Template.RowStatements
import SqlGateway.Proofs.Operation.Success
import SqlGateway.Proofs.Database.Serving
import SqlGateway.Proofs.Database.BoundRows
import SqlGateway.Proofs.Number.NumeralText
import SqlGateway.Proofs.Number.DecimalText
import SqlGateway.Proofs.Value.ExactNumbers
import SqlGateway.Proofs.Dialect.QuotedName
import SqlGateway.Proofs.Template.Blanks
import SqlGateway.Proofs.Template.Copied
import SqlGateway.Proofs.Template.QuotedNames
import SqlGateway.Proofs.Template.Columns
import SqlGateway.Proofs.Template.OpenLiterals
import SqlGateway.Proofs.Database.InsertedRow
import SqlGateway.Proofs.Result.Fetching
import SqlGateway.Proofs.Gateway.FailedConnect
import SqlGateway.Proofs.Session.Registrations
import SqlGateway.Proofs.Session.StatementCalls
import SqlGateway.Proofs.Session.HookProtocol
import SqlGateway.Proofs.Native.Cursors
import SqlGateway.Proofs.Session.DriverWork
import SqlGateway.Proofs.Session.Cursors
import SqlGateway.Proofs.Database.OpenCursors
import SqlGateway.Proofs.Native.Unsupported
import SqlGateway.Proofs.Database.UnsupportedInsert
import SqlGateway.Proofs.Connection.Checked
import SqlGateway.Proofs.Connection.Switches
import SqlGateway.Proofs.Database.Descriptions
import SqlGateway.Proofs.Database.Unbegun
import SqlGateway.Proofs.Value.NativeValues
