import EventLedger.Binary64.Reading
import EventLedger.Binary64.Shortest
import EventLedger.Broker.Rehearsal
import EventLedger.Broker.Transcript
import EventLedger.Broker.Verdict
import EventLedger.Database.Address
import EventLedger.Database.Conversation
import EventLedger.Database.Pool
import EventLedger.Database.Rehearsal
import EventLedger.Event.Decoding
import EventLedger.Lifecycle
import EventLedger.Log.Filter
import EventLedger.Log.Line
import EventLedger.Log.Threshold
import EventLedger.Log.Writing
import EventLedger.Main
import EventLedger.Metrics
import EventLedger.Metrics.Page
import EventLedger.Outcome
import EventLedger.Service
import EventLedger.Service.Rehearsal
import EventLedger.ServiceError
import EventLedger.Settings.Legacy
import EventLedger.Settings.Loading
import EventLedger.Settings.Validation
import EventLedger.Text.Alphanumeric
import EventLedger.Text.Blank
import EventLedger.Toml.Blank
import EventLedger.Toml.Document
import EventLedger.Toml.Moment
import EventLedger.Toml.Number
import EventLedger.Toml.Table
import EventLedger.Toml.Text
import EventLedger.Toml.Value
import EventLedger.WorkerError
import EventLedger.Consumer.Feed
import EventLedger.Proofs.Simulation
import EventLedger.Proofs.Settlement
import EventLedger.Proofs.Serial
import EventLedger.Database.Server
import EventLedger.Proofs.Conversation
import EventLedger.Proofs.Standing
import EventLedger.Proofs.Balance
import EventLedger.Proofs.DailyTotals
import EventLedger.Broker.Queues
import EventLedger.Database.Access
import EventLedger.Deployment
import EventLedger.Proofs.Accounting
import EventLedger.Proofs.Queues
import EventLedger.Proofs.Safekeeping
import EventLedger.Proofs.Stopping
import EventLedger.Supervision.Course
import EventLedger.Proofs.Schedule
import EventLedger.Broker.Visit
import EventLedger.Proofs.Visit
import EventLedger.Proofs.Session
import EventLedger.Proofs.Lifetime
import EventLedger.Proofs.UsageFormat
import EventLedger.Proofs.AuditFormat
import EventLedger.Proofs.EventText
import EventLedger.Proofs.Attempt
import EventLedger.Proofs.Independence
import EventLedger.Proofs.Reporting
import EventLedger.Proofs.Absence
import EventLedger.Proofs.Dialogue
import EventLedger.Service.Watch
import EventLedger.Proofs.Contact
import EventLedger.Proofs.Rest
import EventLedger.Proofs.Gating
import EventLedger.Proofs.Watching
import EventLedger.Settings.Layers
import EventLedger.Proofs.Fields
import EventLedger.Proofs.Layering
import EventLedger.Proofs.Precedence
import EventLedger.Proofs.Json.Extent
import EventLedger.Proofs.Framing
import EventLedger.Proofs.Separation
import EventLedger.Proofs.UnknownMembers
import EventLedger.Proofs.Identifiers
import EventLedger.Proofs.Durations
import EventLedger.Proofs.Overriding
import EventLedger.Proofs.Synonyms
import EventLedger.Proofs.Deciding
import EventLedger.Proofs.Integers
import EventLedger.Proofs.Restarts
import EventLedger.Proofs.LegacyNumbers
import EventLedger.Proofs.Messages
import EventLedger.Proofs.TokenLiterals
