import FleetBridge.Bridge.Basic
import FleetBridge.Bridge.Clocked
import FleetBridge.Bridge.Courier
import FleetBridge.Bridge.Dispatch
import FleetBridge.Bridge.Ingest
import FleetBridge.Bridge.Listener
import FleetBridge.Bridge.Settlement
import FleetBridge.Bus
import FleetBridge.Channel
import FleetBridge.Clocked
import FleetBridge.Config.Basic
import FleetBridge.Config.Description
import FleetBridge.Config.Environment
import FleetBridge.Config.File
import FleetBridge.Config.Location
import FleetBridge.Console.Clocked
import FleetBridge.Console.Command
import FleetBridge.Console.Session
import FleetBridge.Decimal.Digits
import FleetBridge.Decimal.Scaling
import FleetBridge.Decimal.Shortest
import FleetBridge.Destination
import FleetBridge.Inbound
import FleetBridge.Json.Codec
import FleetBridge.Json.Grammar
import FleetBridge.Json.Literal
import FleetBridge.Json.Member
import FleetBridge.Json.Number
import FleetBridge.Json.Record
import FleetBridge.Json.Symbol
import FleetBridge.Json.Term
import FleetBridge.Json.Value
import FleetBridge.Keyed
import FleetBridge.Main
import FleetBridge.Message.Action
import FleetBridge.Message.Envelope
import FleetBridge.Message.Event
import FleetBridge.Message.Graph
import FleetBridge.Message.Kind
import FleetBridge.Message.Outcome
import FleetBridge.Message.Request
import FleetBridge.Message.Telemetry
import FleetBridge.Pending
import FleetBridge.Presence
import FleetBridge.Proofs.Bridge.Backing
import FleetBridge.Proofs.Bridge.Bystander
import FleetBridge.Proofs.Bridge.Custody
import FleetBridge.Proofs.Bridge.Dispatch
import FleetBridge.Proofs.Bridge.Effect
import FleetBridge.Proofs.Bridge.Ending
import FleetBridge.Proofs.Bridge.Finalisation
import FleetBridge.Proofs.Bridge.Inbound
import FleetBridge.Proofs.Bridge.Independence
import FleetBridge.Proofs.Bridge.Issue
import FleetBridge.Proofs.Bridge.Notice
import FleetBridge.Proofs.Bridge.Outcome
import FleetBridge.Proofs.Bridge.Outstanding
import FleetBridge.Proofs.Bridge.Redelivery
import FleetBridge.Proofs.Bridge.Registration
import FleetBridge.Proofs.Bridge.Report
import FleetBridge.Proofs.Bridge.Sweep
import FleetBridge.Proofs.Bridge.Telemetry
import FleetBridge.Proofs.Bridge.Waiting
import FleetBridge.Proofs.Bridge.World
import FleetBridge.Proofs.Bus.Attendance
import FleetBridge.Proofs.Bus.Log
import FleetBridge.Proofs.Bus.Traffic
import FleetBridge.Proofs.Channel
import FleetBridge.Proofs.Config.File
import FleetBridge.Proofs.Console.Coordinates
import FleetBridge.Proofs.Console.Option
import FleetBridge.Proofs.Correlation
import FleetBridge.Proofs.Decimal.Binary
import FleetBridge.Proofs.Decimal.Digits
import FleetBridge.Proofs.Decimal.Finite
import FleetBridge.Proofs.Decimal.Padding
import FleetBridge.Proofs.Decimal.Shortest
import FleetBridge.Proofs.Destination.Address
import FleetBridge.Proofs.Destination.Place
import FleetBridge.Proofs.Destination.Topic
import FleetBridge.Proofs.Document
import FleetBridge.Proofs.Json.Codec
import FleetBridge.Proofs.Json.Literal
import FleetBridge.Proofs.Json.Record
import FleetBridge.Proofs.Json.Spelling
import FleetBridge.Proofs.Json.Symbol
import FleetBridge.Proofs.Json.Term
import FleetBridge.Proofs.Json.Token
import FleetBridge.Proofs.Json.Value
import FleetBridge.Proofs.Keyed
import FleetBridge.Proofs.Lookup
import FleetBridge.Proofs.Message.Action
import FleetBridge.Proofs.Message.Envelope
import FleetBridge.Proofs.Message.Event
import FleetBridge.Proofs.Message.Graph
import FleetBridge.Proofs.Message.Heading
import FleetBridge.Proofs.Message.Numbering
import FleetBridge.Proofs.Message.Override
import FleetBridge.Proofs.Message.Position
import FleetBridge.Proofs.Message.Request
import FleetBridge.Proofs.Message.Telemetry
import FleetBridge.Proofs.Message.Wire
import FleetBridge.Proofs.Pending
import FleetBridge.Proofs.Presence
import FleetBridge.Proofs.Presence.History
import FleetBridge.Proofs.Record.Advance
import FleetBridge.Proofs.Record.Change
import FleetBridge.Proofs.Record.Crash
import FleetBridge.Proofs.Record.Device
import FleetBridge.Proofs.Record.History
import FleetBridge.Proofs.Record.Ledger
import FleetBridge.Proofs.Record.Listing
import FleetBridge.Proofs.Record.Lookup
import FleetBridge.Proofs.Record.Paging
import FleetBridge.Proofs.Record.Recovery
import FleetBridge.Proofs.Record.Row
import FleetBridge.Proofs.Record.Sequence
import FleetBridge.Proofs.Record.Text
import FleetBridge.Proofs.Record.Update
import FleetBridge.Proofs.Record.WellFormed
import FleetBridge.Proofs.StatusCache
import FleetBridge.Proofs.StatusCache.History
import FleetBridge.Proofs.StatusCache.Observation
import FleetBridge.Proofs.StatusCache.Purge
import FleetBridge.Proofs.Template.Catalog
import FleetBridge.Proofs.Template.Expansion
import FleetBridge.Proofs.Template.Library
import FleetBridge.Proofs.Text.Blank
import FleetBridge.Proofs.Text.Hex
import FleetBridge.Proofs.Text.Utf8
import FleetBridge.Proofs.Time.Calendar
import FleetBridge.Proofs.Time.Lenient
import FleetBridge.Proofs.Time.Order
import FleetBridge.Proofs.Time.Stamp
import FleetBridge.Proofs.Toml.Layout
import FleetBridge.Proofs.Toml.Page
import FleetBridge.Proofs.Toml.Range
import FleetBridge.Proofs.Toml.Scalar
import FleetBridge.Proofs.Toml.Text
import FleetBridge.Proofs.Uuid
import FleetBridge.RateLimiter
import FleetBridge.Record.Basic
import FleetBridge.Record.File
import FleetBridge.Record.Row
import FleetBridge.Record.Status
import FleetBridge.Record.Store
import FleetBridge.Station
import FleetBridge.StatusCache
import FleetBridge.Sweeper
import FleetBridge.Template.Basic
import FleetBridge.Template.Library
import FleetBridge.Text.Blank
import FleetBridge.Text.Case
import FleetBridge.Text.Hex
import FleetBridge.Text.Quoted
import FleetBridge.Text.Unprintable
import FleetBridge.Text.Utf8
import FleetBridge.Time.Calendar
import FleetBridge.Time.Instant
import FleetBridge.Time.Reading
import FleetBridge.Time.Span
import FleetBridge.Time.Stamp
import FleetBridge.Toml.Document
import FleetBridge.Toml.Grammar
import FleetBridge.Toml.Layout
import FleetBridge.Toml.Lexical
import FleetBridge.Toml.Moment
import FleetBridge.Toml.Number
import FleetBridge.Toml.Page
import FleetBridge.Toml.Table
import FleetBridge.Toml.Text
import FleetBridge.Toml.Value
import FleetBridge.Tracing
import FleetBridge.Transport.Cancellation
import FleetBridge.Transport.Failure
import FleetBridge.Transport.Kind
import FleetBridge.Transport.Registry
import FleetBridge.Transport.Unconnected
import FleetBridge.Uuid
