import NodeTelemetry.Agent
import NodeTelemetry.Backlog.Basic
import NodeTelemetry.Backlog.Queue
import NodeTelemetry.Backlog.Ring
import NodeTelemetry.Backlog.Sizing
import NodeTelemetry.Collection.Basic
import NodeTelemetry.Collection.Collector
import NodeTelemetry.Delivery.Backoff
import NodeTelemetry.Delivery.Courier
import NodeTelemetry.Delivery.Deliverer
import NodeTelemetry.Delivery.LinkState
import NodeTelemetry.Delivery.Script
import NodeTelemetry.Delivery.Session
import NodeTelemetry.Duration
import NodeTelemetry.Fault
import NodeTelemetry.Folder
import NodeTelemetry.Health.Json
import NodeTelemetry.Health.Registry
import NodeTelemetry.Health.Verdict
import NodeTelemetry.Hub
import NodeTelemetry.Idna.Direction
import NodeTelemetry.Idna.Domain
import NodeTelemetry.Idna.Joining
import NodeTelemetry.Idna.Mapping
import NodeTelemetry.Idna.Punycode
import NodeTelemetry.Idna.Refused
import NodeTelemetry.Inventory.Join
import NodeTelemetry.Inventory.Listing
import NodeTelemetry.Inventory.Messages
import NodeTelemetry.Inventory.Runtime
import NodeTelemetry.Inventory.Socket
import NodeTelemetry.Journal
import NodeTelemetry.Json.Access
import NodeTelemetry.Json.Reader
import NodeTelemetry.Json.Value
import NodeTelemetry.Json.Writer
import NodeTelemetry.Kernel.Disks
import NodeTelemetry.Kernel.Files
import NodeTelemetry.Kernel.Pressure
import NodeTelemetry.Log.File
import NodeTelemetry.Log.Filter
import NodeTelemetry.Log.Notice
import NodeTelemetry.Log.Rotation
import NodeTelemetry.Main
import NodeTelemetry.Metrics.Basic
import NodeTelemetry.Metrics.Changes
import NodeTelemetry.Metrics.Exposition
import NodeTelemetry.Number.Binary64
import NodeTelemetry.Number.Literal
import NodeTelemetry.Number.Shortest
import NodeTelemetry.Path
import NodeTelemetry.Probe.Router
import NodeTelemetry.Protobuf.Json
import NodeTelemetry.Protobuf.Scalar
import NodeTelemetry.Protobuf.Schema
import NodeTelemetry.Protobuf.Varint
import NodeTelemetry.Relay.Endpoint
import NodeTelemetry.Relay.Messages
import NodeTelemetry.Relay.OfSnapshot
import NodeTelemetry.Settings.Basic
import NodeTelemetry.Settings.Environment
import NodeTelemetry.Settings.Files
import NodeTelemetry.Settings.Flags
import NodeTelemetry.Settings.Load
import NodeTelemetry.Settings.Moment
import NodeTelemetry.Settings.Reading
import NodeTelemetry.Settings.Toml
import NodeTelemetry.Settings.Toml.Table
import NodeTelemetry.Settings.Tree
import NodeTelemetry.Settings.Yaml
import NodeTelemetry.Snapshot.Basic
import NodeTelemetry.Snapshot.Json
import NodeTelemetry.Snapshot.Node
import NodeTelemetry.Snapshot.Workload
import NodeTelemetry.Text.Alphanumeric
import NodeTelemetry.Text.Blank
import NodeTelemetry.Text.CharSet
import NodeTelemetry.Text.Extending
import NodeTelemetry.Text.Hex
import NodeTelemetry.Text.Hidden
import NodeTelemetry.Text.Mark
import NodeTelemetry.Text.Quoted
import NodeTelemetry.Ticker
import NodeTelemetry.Url.Basic
import NodeTelemetry.Url.Dialable
import NodeTelemetry.Url.Fault
import NodeTelemetry.Url.Host
import NodeTelemetry.Url.Ipv4
import NodeTelemetry.Url.Ipv6
import NodeTelemetry.Url.Percent
import NodeTelemetry.Proofs.Traffic.Cargo
import NodeTelemetry.Proofs.Traffic.Basic
import NodeTelemetry.Proofs.Traffic.Moves
import NodeTelemetry.Proofs.Counters
import NodeTelemetry.Proofs.Traffic.Conservation
import NodeTelemetry.Proofs.Traffic.Numbering
import NodeTelemetry.Proofs.Traffic.Order
import NodeTelemetry.Proofs.Traffic.Overload
import NodeTelemetry.Proofs.Collection.Isolation
import NodeTelemetry.Proofs.Collection.Gathering
import NodeTelemetry.Proofs.Collection.Timing
import NodeTelemetry.Proofs.Collection.Recording
import NodeTelemetry.Proofs.Collection.Timetable
import NodeTelemetry.Proofs.Collection.Completion
import NodeTelemetry.Proofs.Collection.Cancellation
import NodeTelemetry.Proofs.Health.Readiness
import NodeTelemetry.Proofs.Delivery.Onward
import NodeTelemetry.Proofs.Traffic.Agents
import NodeTelemetry.Proofs.Backlog.Refinement
import NodeTelemetry.Proofs.Delivery.Courier
import NodeTelemetry.Proofs.Traffic.Diagram
import NodeTelemetry.Proofs.Delivery.Rounds
import NodeTelemetry.Proofs.Delivery.Health
import NodeTelemetry.Proofs.Delivery.CallingOff
import NodeTelemetry.Proofs.Delivery.Line
import NodeTelemetry.Proofs.Traffic.Streams
import NodeTelemetry.Proofs.Delivery.Delays
import NodeTelemetry.Proofs.Delivery.Outlook
import NodeTelemetry.Proofs.Delivery.Course
import NodeTelemetry.Proofs.Delivery.Expecting
import NodeTelemetry.Proofs.Delivery.Reconnecting
import NodeTelemetry.Proofs.Protobuf.Scalar
import NodeTelemetry.Proofs.Protobuf.RoundTrip
import NodeTelemetry.Proofs.Protobuf.Doubles
import NodeTelemetry.Proofs.Protobuf.Unambiguous
import NodeTelemetry.Proofs.Inventory.Records
import NodeTelemetry.Proofs.Relay.Presence
import NodeTelemetry.Proofs.Relay.Recovery
import NodeTelemetry.Proofs.Backlog.Sizing
import NodeTelemetry.Proofs.Inventory.Accounting
import NodeTelemetry.Proofs.Settings.Retention
import NodeTelemetry.Proofs.Settings.Loading
import NodeTelemetry.Proofs.Settings.Layers
import NodeTelemetry.Proofs.Settings.Keys
import NodeTelemetry.Proofs.Settings.Given
import NodeTelemetry.Proofs.Settings.Overriding
import NodeTelemetry.Proofs.Traffic.Ticks
import NodeTelemetry.Proofs.Health.Reporting
import NodeTelemetry.Proofs.Collection.Cadence
import NodeTelemetry.Proofs.Number.Literals
import NodeTelemetry.Proofs.Folding
import NodeTelemetry.Proofs.Kernel.Pressure
import NodeTelemetry.Proofs.Number.Integers
import NodeTelemetry.Proofs.Settings.Guessing
import NodeTelemetry.Proofs.Settings.Verbatim
import NodeTelemetry.Proofs.Inventory.Reordering
import NodeTelemetry.Proofs.Json.Faithful
import NodeTelemetry.Proofs.Kernel.Disks
import NodeTelemetry.Proofs.Protobuf.Padding
import NodeTelemetry.Proofs.Snapshot.Json
import NodeTelemetry.Proofs.Delivery.Doubling
import NodeTelemetry.Proofs.Backlog.Ceiling
import NodeTelemetry.Proofs.Traffic.Attempts
import NodeTelemetry.Proofs.Url.Strictness
import NodeTelemetry.Proofs.Url.Host
import NodeTelemetry.Proofs.Url.Reading
import NodeTelemetry.Proofs.Url.Dialling
import NodeTelemetry.Proofs.Relay.Dialling
