import StrongAuth.Vocabulary
import StrongAuth.Status
import StrongAuth.Text.Decimal
import StrongAuth.Text.Blank
import StrongAuth.Text.Hexadecimal
import StrongAuth.Text.Utf8
import StrongAuth.Text.Percent
import StrongAuth.Text.Base64
import StrongAuth.Text.Sha256
import StrongAuth.Text.CodeTable
import StrongAuth.Text.Canonical.Table
import StrongAuth.Text.Canonical
import StrongAuth.Time.Calendar
import StrongAuth.Time.Timestamp
import StrongAuth.Time.Written
import StrongAuth.Time.Fault
import StrongAuth.Time.Reading
import StrongAuth.Time.Span
import StrongAuth.Json.Value
import StrongAuth.Json.Numeral
import StrongAuth.Json.Raw
import StrongAuth.Json.Reader
import StrongAuth.Json.Shape
import StrongAuth.Psu
import StrongAuth.Method
import StrongAuth.Approach
import StrongAuth.Request
import StrongAuth.Resource
import StrongAuth.Authorisation
import StrongAuth.Evidence
import StrongAuth.Aggregate
import StrongAuth.Bank.Task
import StrongAuth.Refusal
import StrongAuth.Fault
import StrongAuth.Interaction
import StrongAuth.Bank.Call
import StrongAuth.CodeHash
import StrongAuth.Stage
import StrongAuth.Validation
import StrongAuth.Event
import StrongAuth.Url.Punycode
import StrongAuth.Url.Ipv4
import StrongAuth.Url.Ipv6
import StrongAuth.Url.Domain.Table
import StrongAuth.Url.Domain.Folding
import StrongAuth.Url.Domain.Direction
import StrongAuth.Url.Domain.Joining
import StrongAuth.Url.Domain
import StrongAuth.Url.Basic
import StrongAuth.Url.Reading
import StrongAuth.Link
import StrongAuth.Json.Codec
import StrongAuth.Codec.Authorisation
import StrongAuth.Codec.Event
import StrongAuth.Response
import StrongAuth.Config
import StrongAuth.Codec.Exchange
import StrongAuth.Codec.Config
import StrongAuth.Bank.Simulated
import StrongAuth.Bank.Scripted
import StrongAuth.Store
import StrongAuth.Store.Memory
import StrongAuth.Store.Numeral
import StrongAuth.Store.Cell
import StrongAuth.Store.Schema
import StrongAuth.Store.Table
import StrongAuth.Store.Location
import StrongAuth.Node.Locks
import StrongAuth.Node.Effect
import StrongAuth.Node.World
import StrongAuth.Node.Basic
import StrongAuth.Node.Operation
import StrongAuth.Event.Bus
import StrongAuth.Event.Audit
import StrongAuth.Node.Worker
import StrongAuth.Proofs.Outcome
import StrongAuth.Proofs.Run
import StrongAuth.Proofs.Conversation
import StrongAuth.Proofs.Stage
import StrongAuth.Proofs.Memory
import StrongAuth.Proofs.Procedures
import StrongAuth.Proofs.Course
import StrongAuth.Proofs.Visits
import StrongAuth.Proofs.History
import StrongAuth.Proofs.Execution
import StrongAuth.Proofs.Origin
import StrongAuth.Proofs.Factors
import StrongAuth.Proofs.Aggregate
import StrongAuth.Proofs.Aggregation
import StrongAuth.Proofs.Resources
import StrongAuth.Proofs.Coherence
import StrongAuth.Proofs.Oblivious
import StrongAuth.Proofs.Settlement
import StrongAuth.Proofs.Identity
import StrongAuth.Proofs.Signatures
import StrongAuth.Proofs.Deeds
import StrongAuth.Proofs.Drafts
import StrongAuth.Proofs.Rules
import StrongAuth.Proofs.Verdicts
import StrongAuth.Proofs.Conduct
import StrongAuth.Proofs.Refusals
import StrongAuth.Proofs.Forward
import StrongAuth.Proofs.Advance
import StrongAuth.Proofs.Answers
import StrongAuth.Proofs.Exclusivity
import StrongAuth.Proofs.Phases
import StrongAuth.Proofs.LockTable
import StrongAuth.Proofs.Traffic
import StrongAuth.Proofs.Projections
import StrongAuth.Proofs.WellFormed
import StrongAuth.Proofs.Retry
import StrongAuth.Proofs.Ledger
import StrongAuth.Proofs.Codecs
import StrongAuth.Proofs.Calendar
import StrongAuth.Proofs.WrittenTime
import StrongAuth.Proofs.Rows
import StrongAuth.Proofs.Tabulation
import StrongAuth.Proofs.Timing
import StrongAuth.Proofs.Interchange
import StrongAuth.Proofs.Versions
import StrongAuth.Proofs.Sweep
import StrongAuth.Proofs.Shares
import StrongAuth.Proofs.Separation
import StrongAuth.Proofs.Secrecy
import StrongAuth.Proofs.Comparison
import StrongAuth.Proofs.Inquiry
import StrongAuth.Proofs.Expiry
import StrongAuth.Proofs.Attempts
import StrongAuth.Proofs.Episodes
import StrongAuth.Proofs.Accounting
import StrongAuth.Proofs.Correlation
import StrongAuth.Proofs.Proposals
import StrongAuth.Proofs.Outages
import StrongAuth.Proofs.Legibility
import StrongAuth.Proofs.Registrations
import StrongAuth.Proofs.Lifetimes
import StrongAuth.Proofs.LenientTime
import StrongAuth.Proofs.MemberOrder
import StrongAuth.Proofs.RoundTrips
import StrongAuth.Proofs.AuditLines
import StrongAuth.Proofs.Escapes
import StrongAuth.Proofs.Paths
import StrongAuth.Proofs.Addresses
import StrongAuth.Proofs.Hosts
import StrongAuth.Proofs.UrlForm
import StrongAuth.Proofs.Rereading
import StrongAuth.Proofs.Marks
import StrongAuth.Proofs.OwnNames
import StrongAuth.Proofs.Names
import StrongAuth.Proofs.Below
import StrongAuth.Proofs.LinkAddresses
import StrongAuth.Proofs.PathNames
import StrongAuth.Proofs.Deadlines
