import BoxOffice.Word
import BoxOffice.Text.Blank
import BoxOffice.Text.Integer
import BoxOffice.Text.IntegerFault
import BoxOffice.Text.AsciiCase
import BoxOffice.Text.Ranges
import BoxOffice.Text.Graphic
import BoxOffice.Text.Mark
import BoxOffice.Text.Caseless
import BoxOffice.Text.Composition
import BoxOffice.Text.Direction
import BoxOffice.Text.Cursive
import BoxOffice.Text.Quoted
import BoxOffice.Text.Hexadecimal
import BoxOffice.Text.Utf8
import BoxOffice.Text.Percent
import BoxOffice.Address.Ipv6
import BoxOffice.Address.Ipv4
import BoxOffice.Address.Punycode
import BoxOffice.Address.Label
import BoxOffice.Address.Domain
import BoxOffice.Address.Host
import BoxOffice.Address.Authority
import BoxOffice.Address.Path
import BoxOffice.Address.Query
import BoxOffice.Address
import BoxOffice.Calendar
import BoxOffice.Weekday
import BoxOffice.Span
import BoxOffice.Instant
import BoxOffice.Instant.Timestamp
import BoxOffice.Uuid
import BoxOffice.Identifier
import BoxOffice.Error
import BoxOffice.Ticket
import BoxOffice.Event
import BoxOffice.Slip
import BoxOffice.Queue
import BoxOffice.Page
import BoxOffice.Metric
import BoxOffice.Policy
import BoxOffice.Settings
import BoxOffice.Dialogue
import BoxOffice.Provider
import BoxOffice.Queue.Limit
import BoxOffice.Queue.Admission
import BoxOffice.Slip.Allocation
import BoxOffice.Slip.Listing
import BoxOffice.Memory.Inventory
import BoxOffice.Memory.Cache
import BoxOffice.Memory.Office
import BoxOffice.Sample
import BoxOffice.Json
import BoxOffice.Codec.Scalar
import BoxOffice.Codec.Entity
import BoxOffice.Codec.Answer
import BoxOffice.Codec.Settings
import BoxOffice.Sql.Cell
import BoxOffice.Sql.Options
import BoxOffice.Sql.Columns
import BoxOffice.Sql.Statement
import BoxOffice.Sql.Session
import BoxOffice.Sql.Schema
import BoxOffice.Sql.Database
import BoxOffice.Sql.Rehearsal
import BoxOffice.RemoteCache
import BoxOffice.RemoteCache.Connection
import BoxOffice.Deployment
import BoxOffice.Json.Layout
import BoxOffice.Clock
import BoxOffice.Walkthrough
import BoxOffice.Main
import BoxOffice.Proofs.Dialogue
import BoxOffice.Proofs.Service
import BoxOffice.Proofs.Deployment
import BoxOffice.Proofs.Memory.Office
import BoxOffice.Proofs.Queue.Numbering
import BoxOffice.Proofs.Memory.FirstMatch
import BoxOffice.Proofs.Slip.Claim
import BoxOffice.Proofs.Slip.Checks
import BoxOffice.Proofs.Slip.Conservation
import BoxOffice.Proofs.Slip.Drain
import BoxOffice.Proofs.Slip.Ownership
import BoxOffice.Proofs.Interleaving
import BoxOffice.Proofs.Instant
import BoxOffice.Proofs.Memory.Cache
import BoxOffice.Proofs.Queue.Limit
import BoxOffice.Proofs.Queue.Admission
import BoxOffice.Proofs.Queue.Capacity
import BoxOffice.Proofs.Memory.Effect
import BoxOffice.Proofs.Memory.Change
import BoxOffice.Proofs.Slip.Backing
import BoxOffice.Proofs.Queue.CachedText
import BoxOffice.Proofs.Parties
import BoxOffice.Proofs.Queue.Expendable
import BoxOffice.Proofs.Queue.Resolution
import BoxOffice.Proofs.Queue.Lifetime
import BoxOffice.Proofs.Queue.Key
import BoxOffice.Proofs.Memory.Remaining
import BoxOffice.Proofs.Memory.Faults
import BoxOffice.Proofs.Slip.Channels
import BoxOffice.Proofs.Slip.Pages
import BoxOffice.Proofs.Slip.History
import BoxOffice.Proofs.Sql.Records
import BoxOffice.Proofs.Sql.Replies
import BoxOffice.Proofs.Sql.Query
import BoxOffice.Proofs.Sql.Server
import BoxOffice.Proofs.Sql.Transaction
import BoxOffice.Proofs.Sql.Claim
import BoxOffice.Proofs.Sql.Writes
import BoxOffice.Proofs.Sql.Agreement
import BoxOffice.Proofs.Sql.Ledger
import BoxOffice.Proofs.Queue.Peak
import BoxOffice.Proofs.Sql.Listing
import BoxOffice.Proofs.Metric
import BoxOffice.Proofs.Tally
import BoxOffice.Proofs.Memory.Footprint
import BoxOffice.Proofs.Memory.Count
import BoxOffice.Proofs.Independence
import BoxOffice.Proofs.Text
import BoxOffice.Proofs.SalesDays
import BoxOffice.Proofs.Settings
import BoxOffice.Proofs.Policy.Price
import BoxOffice.Proofs.Sql.Rows
import BoxOffice.Proofs.Calendar
import BoxOffice.Proofs.Timestamp
import BoxOffice.Proofs.Codec
import BoxOffice.Proofs.Policy.Release
import BoxOffice.Proofs.Slip.Partition
import BoxOffice.Proofs.FirstRefusal
import BoxOffice.Proofs.Policy.Gate
import BoxOffice.Proofs.Spelling
import BoxOffice.Proofs.Policy.PriceOrder
import BoxOffice.Proofs.Memory.Eviction
import BoxOffice.Proofs.Slip.Deadlines
import BoxOffice.Proofs.Sample
import BoxOffice.Proofs.Walkthrough
