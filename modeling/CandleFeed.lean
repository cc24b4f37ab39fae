import CandleFeed.Address.Basic
import CandleFeed.Address.Fault
import CandleFeed.Address.Host
import CandleFeed.Address.Ipv4
import CandleFeed.Address.Ipv6
import CandleFeed.Address.Path
import CandleFeed.Address.Percent
import CandleFeed.Aggregation.Builder
import CandleFeed.Aggregation.Engine
import CandleFeed.Calendar.Date
import CandleFeed.Calendar.Rfc3339
import CandleFeed.Calendar.Timestamp
import CandleFeed.Command.Options
import CandleFeed.Config.Basic
import CandleFeed.Config.Format
import CandleFeed.Config.Reader
import CandleFeed.Decimal.Binary64
import CandleFeed.Decimal.Scaled
import CandleFeed.Decimal.Shortest
import CandleFeed.Dispatch.TickPath
import CandleFeed.Domain.Direction
import CandleFeed.Domain.Joining
import CandleFeed.Domain.Mapping
import CandleFeed.Domain.MappingTable
import CandleFeed.Domain.Name
import CandleFeed.Domain.Punycode
import CandleFeed.History.Desk
import CandleFeed.Json.Basic
import CandleFeed.Json.Printer
import CandleFeed.Json.Reader
import CandleFeed.Json.Record
import CandleFeed.Main
import CandleFeed.Market.Bar
import CandleFeed.Market.Bucket
import CandleFeed.Market.Granularity
import CandleFeed.Market.Instrument
import CandleFeed.Market.Quote
import CandleFeed.Market.Records
import CandleFeed.Monitoring.Metrics
import CandleFeed.Proofs.Aggregation.AnyOrder
import CandleFeed.Proofs.Aggregation.BrokenOff
import CandleFeed.Proofs.Aggregation.Calls
import CandleFeed.Proofs.Aggregation.Ends
import CandleFeed.Proofs.Aggregation.Entries
import CandleFeed.Proofs.Aggregation.Extremes
import CandleFeed.Proofs.Aggregation.History
import CandleFeed.Proofs.Aggregation.InOrder
import CandleFeed.Proofs.Aggregation.InProgress
import CandleFeed.Proofs.Aggregation.Interruption
import CandleFeed.Proofs.Aggregation.Nesting
import CandleFeed.Proofs.Aggregation.Refinement
import CandleFeed.Proofs.Aggregation.Segment
import CandleFeed.Proofs.Aggregation.Stretch
import CandleFeed.Proofs.Calendar.Date
import CandleFeed.Proofs.Calendar.Rfc3339
import CandleFeed.Proofs.Config.Checks
import CandleFeed.Proofs.Config.Environment
import CandleFeed.Proofs.Decimal.Steps
import CandleFeed.Proofs.Dispatch.Isolation
import CandleFeed.Proofs.Dispatch.Mirror
import CandleFeed.Proofs.Dispatch.Safety
import CandleFeed.Proofs.Dispatch.TickPath
import CandleFeed.Proofs.Dispatch.Verdict
import CandleFeed.Proofs.Json.Grammar
import CandleFeed.Proofs.Json.Numbers
import CandleFeed.Proofs.Json.RoundTrip
import CandleFeed.Proofs.Market.Alignment
import CandleFeed.Proofs.Market.Bucket
import CandleFeed.Proofs.Market.Echoes
import CandleFeed.Proofs.Market.Granularity
import CandleFeed.Proofs.Market.Instrument
import CandleFeed.Proofs.Market.Names
import CandleFeed.Proofs.Market.Records
import CandleFeed.Proofs.Market.Tiling
import CandleFeed.Proofs.Run
import CandleFeed.Proofs.Service.Books
import CandleFeed.Proofs.Service.Conservation
import CandleFeed.Proofs.Service.Gate
import CandleFeed.Proofs.Service.Limits
import CandleFeed.Proofs.Service.Moves
import CandleFeed.Proofs.Service.Sections
import CandleFeed.Proofs.Service.Standing
import CandleFeed.Proofs.Service.Stragglers
import CandleFeed.Proofs.Service.Trace
import CandleFeed.Proofs.Service.Unsubscribing
import CandleFeed.Proofs.Service.Workings
import CandleFeed.Proofs.Session.Backoff
import CandleFeed.Proofs.Session.Breakdown
import CandleFeed.Proofs.Session.Changes
import CandleFeed.Proofs.Session.Connections
import CandleFeed.Proofs.Session.Deliveries
import CandleFeed.Proofs.Session.Frames
import CandleFeed.Proofs.Session.Lifecycle
import CandleFeed.Proofs.Session.Link
import CandleFeed.Proofs.Session.Moves
import CandleFeed.Proofs.Session.Progress
import CandleFeed.Proofs.Session.Reception
import CandleFeed.Proofs.Session.Schedule
import CandleFeed.Proofs.Session.Subscribing
import CandleFeed.Proofs.Storage.Draining
import CandleFeed.Proofs.Storage.Expiry
import CandleFeed.Proofs.Storage.Keeping
import CandleFeed.Proofs.Storage.QuoteCache
import CandleFeed.Proofs.Storage.Slots
import CandleFeed.Proofs.Storage.Table
import CandleFeed.Proofs.Storage.Writing
import CandleFeed.Proofs.Wire.Command
import CandleFeed.Proofs.Wire.Fault
import CandleFeed.Proofs.Wire.Frame
import CandleFeed.Proofs.Wire.Length
import CandleFeed.Proofs.Wire.Pending
import CandleFeed.Proofs.Wire.Stream
import CandleFeed.Rehearsal.HistoryScript
import CandleFeed.Rehearsal.Provider
import CandleFeed.Rehearsal.ServiceStage
import CandleFeed.Rehearsal.Stage
import CandleFeed.Rehearsal.Timed
import CandleFeed.Service.Basic
import CandleFeed.Service.Http
import CandleFeed.Session.Backoff
import CandleFeed.Session.Client
import CandleFeed.Session.Intake
import CandleFeed.Session.PayloadQueue
import CandleFeed.Session.Registry
import CandleFeed.Session.Settings
import CandleFeed.Session.State
import CandleFeed.Storage.BarStore
import CandleFeed.Storage.Cache
import CandleFeed.Storage.Clock
import CandleFeed.Storage.Flusher
import CandleFeed.Storage.QuoteCache
import CandleFeed.Storage.Table
import CandleFeed.Text.Blank
import CandleFeed.Text.Canonical
import CandleFeed.Text.Case
import CandleFeed.Text.CasePairs
import CandleFeed.Text.CharTable
import CandleFeed.Text.Composites
import CandleFeed.Text.Fields
import CandleFeed.Text.Hidden
import CandleFeed.Text.Marks
import CandleFeed.Text.Numeral
import CandleFeed.Text.Quoted
import CandleFeed.Wire.Command
import CandleFeed.Wire.Dial
import CandleFeed.Wire.Frame
import CandleFeed.Wire.Message
import CandleFeed.Wire.Request
import CandleFeed.Wire.SessionId
import CandleFeed.Yaml.Cursor
import CandleFeed.Yaml.Node
import CandleFeed.Yaml.Scalar
import CandleFeed.Yaml.Tag
import CandleFeed.Yaml.Token
import CandleFeed.Proofs.Session.Frames
