import BaseGateway.Audit
import BaseGateway.Calendar.Date
import BaseGateway.Calendar.DateTime
import BaseGateway.Calendar.Reading
import BaseGateway.Client.Batch
import BaseGateway.Client.Exchange
import BaseGateway.Client.Metadata
import BaseGateway.Client.Records
import BaseGateway.Client.Session
import BaseGateway.Command.Basic
import BaseGateway.Command.ClientEntry
import BaseGateway.Command.Console
import BaseGateway.Command.Preview
import BaseGateway.Command.Report
import BaseGateway.Command.Run
import BaseGateway.Command.Settings
import BaseGateway.Command.Switch
import BaseGateway.Condition.Basic
import BaseGateway.Condition.Formula
import BaseGateway.Decimal.Binary
import BaseGateway.Decimal.Layout
import BaseGateway.Decimal.Lenient
import BaseGateway.Decimal.Nearest
import BaseGateway.Decimal.Numeral
import BaseGateway.Decimal.Rounded
import BaseGateway.Decimal.Shortest
import BaseGateway.Digest.Sha256
import BaseGateway.Failure
import BaseGateway.Fault
import BaseGateway.Field.Conversion
import BaseGateway.Field.Kind
import BaseGateway.Field.Selection
import BaseGateway.Formula.Age
import BaseGateway.Formula.Basic
import BaseGateway.Formula.Choice
import BaseGateway.Formula.Name
import BaseGateway.Formula.Range
import BaseGateway.Intake.Argument
import BaseGateway.Intake.Checked
import BaseGateway.Intake.Label
import BaseGateway.Intake.Part
import BaseGateway.Intake.Scalar
import BaseGateway.Journal
import BaseGateway.Json.Canonical
import BaseGateway.Json.Escape
import BaseGateway.Json.Reader
import BaseGateway.Json.Writer
import BaseGateway.Limiter
import BaseGateway.Limits
import BaseGateway.Main
import BaseGateway.Proofs.Alike
import BaseGateway.Proofs.Audit
import BaseGateway.Proofs.Calendar.Reading
import BaseGateway.Proofs.Client.Admitting
import BaseGateway.Proofs.Client.Asking
import BaseGateway.Proofs.Client.Batching
import BaseGateway.Proofs.Client.Chunks
import BaseGateway.Proofs.Client.Confining
import BaseGateway.Proofs.Client.Consulting
import BaseGateway.Proofs.Client.Documents
import BaseGateway.Proofs.Client.Forgetting
import BaseGateway.Proofs.Client.Frame
import BaseGateway.Proofs.Client.Lookup
import BaseGateway.Proofs.Client.Override
import BaseGateway.Proofs.Client.Pacing
import BaseGateway.Proofs.Client.Paging
import BaseGateway.Proofs.Client.Path
import BaseGateway.Proofs.Client.Selecting
import BaseGateway.Proofs.Client.Sending
import BaseGateway.Proofs.Client.Twins
import BaseGateway.Proofs.Client.Writing
import BaseGateway.Proofs.Client.Yield
import BaseGateway.Proofs.Command.Settings
import BaseGateway.Proofs.Condition.Building
import BaseGateway.Proofs.Condition.Injection
import BaseGateway.Proofs.Condition.Meaning
import BaseGateway.Proofs.Condition.Options
import BaseGateway.Proofs.Condition.Restoring
import BaseGateway.Proofs.Condition.Telling
import BaseGateway.Proofs.Condition.Truth
import BaseGateway.Proofs.Decimal.Bits
import BaseGateway.Proofs.Decimal.Digits
import BaseGateway.Proofs.Decimal.Finite
import BaseGateway.Proofs.Decimal.Layout
import BaseGateway.Proofs.Decimal.ReadBack
import BaseGateway.Proofs.Decimal.Rounding
import BaseGateway.Proofs.Decimal.Spelling
import BaseGateway.Proofs.Field.Again
import BaseGateway.Proofs.Field.Conversion
import BaseGateway.Proofs.Field.Selection
import BaseGateway.Proofs.Field.Shape
import BaseGateway.Proofs.Formula.Buckets
import BaseGateway.Proofs.Formula.Choice
import BaseGateway.Proofs.Formula.Failing
import BaseGateway.Proofs.Formula.Grammar
import BaseGateway.Proofs.Formula.Printed
import BaseGateway.Proofs.Formula.Shape
import BaseGateway.Proofs.Formula.Suffix
import BaseGateway.Proofs.IdKind
import BaseGateway.Proofs.Intake
import BaseGateway.Proofs.Intake.Bounds
import BaseGateway.Proofs.Intake.Restoring
import BaseGateway.Proofs.Json.Canonical
import BaseGateway.Proofs.Json.Floats
import BaseGateway.Proofs.Json.Printed
import BaseGateway.Proofs.Json.Reading
import BaseGateway.Proofs.Json.RoundTrip
import BaseGateway.Proofs.Json.Showing
import BaseGateway.Proofs.Json.Tokens
import BaseGateway.Proofs.Json.Writing
import BaseGateway.Proofs.Keeping
import BaseGateway.Proofs.Limiter
import BaseGateway.Proofs.Limiter.History
import BaseGateway.Proofs.Outcome
import BaseGateway.Proofs.Redaction
import BaseGateway.Proofs.Redaction.Fixpoint
import BaseGateway.Proofs.Report
import BaseGateway.Proofs.Request
import BaseGateway.Proofs.Request.Bounds
import BaseGateway.Proofs.Request.Restoring
import BaseGateway.Proofs.Run
import BaseGateway.Proofs.SchemaCache
import BaseGateway.Proofs.Server.Agreement
import BaseGateway.Proofs.Server.Arguments
import BaseGateway.Proofs.Server.Bounds
import BaseGateway.Proofs.Server.Calling
import BaseGateway.Proofs.Server.Disclosure
import BaseGateway.Proofs.Server.Echoing
import BaseGateway.Proofs.Server.Handling
import BaseGateway.Proofs.Server.Permission
import BaseGateway.Proofs.Server.Refusing
import BaseGateway.Proofs.Server.Secrecy
import BaseGateway.Proofs.Server.Serving
import BaseGateway.Proofs.Server.Throttling
import BaseGateway.Proofs.Settings.Connection
import BaseGateway.Proofs.Settings.InForce
import BaseGateway.Proofs.Settings.Loading
import BaseGateway.Proofs.Settings.Saving
import BaseGateway.Proofs.Text.Percent
import BaseGateway.Proofs.Value.Document
import BaseGateway.Proofs.Value.Json
import BaseGateway.Redaction
import BaseGateway.Refusal
import BaseGateway.Request.Basic
import BaseGateway.Request.Change
import BaseGateway.Request.Lookup
import BaseGateway.Request.Query
import BaseGateway.SchemaCache
import BaseGateway.Server.Handler
import BaseGateway.Server.Start
import BaseGateway.Server.State
import BaseGateway.Server.Tool
import BaseGateway.Settings.Connection
import BaseGateway.Settings.Stored
import BaseGateway.Text.Case
import BaseGateway.Text.Character
import BaseGateway.Text.Printable
import BaseGateway.Text.Quoted
import BaseGateway.Text.Replace
import BaseGateway.Text.Search
import BaseGateway.Text.WordChar
import BaseGateway.Value.Access
import BaseGateway.Value.Basic
import BaseGateway.Value.Display
import BaseGateway.Web.Address
import BaseGateway.Web.Host
