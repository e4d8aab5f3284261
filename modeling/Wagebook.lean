import Wagebook.Address
import Wagebook.Amount
import Wagebook.Attendance
import Wagebook.Audit
import Wagebook.Calendar.Date
import Wagebook.Calendar.DateText
import Wagebook.Calendar.Json
import Wagebook.Calendar.Stamp
import Wagebook.Calendar.StampText
import Wagebook.Compression.Bits
import Wagebook.Compression.Code
import Wagebook.Compression.Container
import Wagebook.Compression.Deflate
import Wagebook.DatabaseUrl
import Wagebook.DatabaseUrl.Host
import Wagebook.Deadline
import Wagebook.Description.Document
import Wagebook.Description.Schema
import Wagebook.Digest.Blake2b
import Wagebook.Digest.Checksum
import Wagebook.Digest.Sha256
import Wagebook.Http.App
import Wagebook.Http.Caller
import Wagebook.Http.Fault
import Wagebook.Http.Form
import Wagebook.Http.Limiter
import Wagebook.Http.MediaType
import Wagebook.Http.Request
import Wagebook.Http.Route
import Wagebook.Http.Service
import Wagebook.Http.SharedPath
import Wagebook.Http.Target
import Wagebook.Json.Basic
import Wagebook.Json.Bytes
import Wagebook.Json.Free
import Wagebook.Json.Pointer
import Wagebook.Json.Range
import Wagebook.Json.Reader
import Wagebook.Json.Record
import Wagebook.Json.Writer
import Wagebook.Operations
import Wagebook.Overtime
import Wagebook.Password
import Wagebook.Password.Argon2
import Wagebook.Password.HashText
import Wagebook.PayrollError
import Wagebook.Payslip
import Wagebook.Period
import Wagebook.Reimbursement
import Wagebook.Role
import Wagebook.Settings
import Wagebook.Store.Basic
import Wagebook.Store.Closed
import Wagebook.Store.Error
import Wagebook.Store.Memory
import Wagebook.Store.Row
import Wagebook.Store.Server
import Wagebook.Store.Statement
import Wagebook.Store.Tables
import Wagebook.Store.Talk
import Wagebook.Store.Work
import Wagebook.Text.Base64
import Wagebook.Text.Blank
import Wagebook.Text.Decimal
import Wagebook.Text.Domain
import Wagebook.Text.Domain.Table
import Wagebook.Text.Hex
import Wagebook.Text.Hidden
import Wagebook.Text.Pattern
import Wagebook.Text.Pattern.Reader
import Wagebook.Text.Percent
import Wagebook.Text.Punycode
import Wagebook.Text.Quoted
import Wagebook.Text.Utf8
import Wagebook.Token
import Wagebook.Token.Key
import Wagebook.Token.Registered
import Wagebook.User
import Wagebook.Proofs.Units
import Wagebook.Proofs.Commands
import Wagebook.Proofs.Histories
import Wagebook.Proofs.Numbering
import Wagebook.Proofs.Rules
import Wagebook.Proofs.Days
import Wagebook.Proofs.Growth
import Wagebook.Proofs.Earnings
import Wagebook.Proofs.Pay
import Wagebook.Proofs.Calls
import Wagebook.Proofs.Interleaving
import Wagebook.Proofs.OnePayroll
import Wagebook.Proofs.Progress
import Wagebook.Proofs.Contest
import Wagebook.Proofs.CalendarText
import Wagebook.Proofs.Records
import Wagebook.Proofs.Ledger
import Wagebook.Proofs.Sessions
import Wagebook.Proofs.References
import Wagebook.Proofs.Lookups
import Wagebook.Proofs.Proration
import Wagebook.Proofs.Words
import Wagebook.Proofs.Repeats
import Wagebook.Proofs.Moderation
import Wagebook.Proofs.Dialogue
import Wagebook.Proofs.Scripts
import Wagebook.Proofs.Discipline
import Wagebook.Proofs.Snapshots
import Wagebook.Proofs.Chunks
import Wagebook.Proofs.Serving
import Wagebook.Proofs.Requests
import Wagebook.Proofs.Callers
import Wagebook.Proofs.Authorship
import Wagebook.Proofs.OrderedLog
import Wagebook.Proofs.Causes
import Wagebook.Proofs.OwnFacts
import Wagebook.Proofs.Independence
import Wagebook.Proofs.Confinement
import Wagebook.Proofs.Reports
import Wagebook.Proofs.Joins
import Wagebook.Proofs.OncePerDay
import Wagebook.Proofs.JsonText
import Wagebook.Proofs.FreeForm
import Wagebook.Proofs.RecordText
import Wagebook.Proofs.Encodings
import Wagebook.Proofs.Tokens
import Wagebook.Proofs.Logins
import Wagebook.Proofs.Failures
import Wagebook.Proofs.Masking
import Wagebook.Proofs.Discretion
import Wagebook.Proofs.RuleOrder
import Wagebook.Proofs.DayCount
import Wagebook.Proofs.Quotas
import Wagebook.Proofs.DateFields
import Wagebook.Proofs.Envelopes
