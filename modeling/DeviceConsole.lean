import DeviceConsole.Catalog.Basic
import DeviceConsole.Catalog.Builtin
import DeviceConsole.Catalog.Template
import DeviceConsole.ConnectionId
import DeviceConsole.Error
import DeviceConsole.Event.Bus
import DeviceConsole.Event.ThingEvent
import DeviceConsole.Json.Numeral
import DeviceConsole.Json.Outline
import DeviceConsole.Json.Parser
import DeviceConsole.Json.Printer
import DeviceConsole.Json.Reader
import DeviceConsole.Json.Skip
import DeviceConsole.Json.Value
import DeviceConsole.KeyMap
import DeviceConsole.Mqtt.Call
import DeviceConsole.Mqtt.Link
import DeviceConsole.Notification
import DeviceConsole.Number.Binary64
import DeviceConsole.Number.Shortest
import DeviceConsole.Payload.Base64
import DeviceConsole.Payload.Codec
import DeviceConsole.Payload.Hex
import DeviceConsole.Payload.RenderMode
import DeviceConsole.Profile.Basic
import DeviceConsole.Profile.ClientOptions
import DeviceConsole.Profile.Options
import DeviceConsole.Profile.Record
import DeviceConsole.Profile.Subscription
import DeviceConsole.Program
import DeviceConsole.Proofs.Catalog.Forms
import DeviceConsole.Proofs.Catalog.Payloads
import DeviceConsole.Proofs.Catalog.Resolving
import DeviceConsole.Proofs.Coherence.Account
import DeviceConsole.Proofs.Coherence.Calls
import DeviceConsole.Proofs.Coherence.Coherent
import DeviceConsole.Proofs.Coherence.Errand
import DeviceConsole.Proofs.Coherence.Interleaved
import DeviceConsole.Proofs.Coherence.Register
import DeviceConsole.Proofs.Execution
import DeviceConsole.Proofs.Footprint
import DeviceConsole.Proofs.Json.Canonical
import DeviceConsole.Proofs.Json.Filling
import DeviceConsole.Proofs.Json.Reading
import DeviceConsole.Proofs.Json.RoundTrip
import DeviceConsole.Proofs.Json.Tokens
import DeviceConsole.Proofs.KeyList
import DeviceConsole.Proofs.Mqtt.Calls
import DeviceConsole.Proofs.Mqtt.Delivery
import DeviceConsole.Proofs.Mqtt.Orderly
import DeviceConsole.Proofs.Mqtt.Places
import DeviceConsole.Proofs.Mqtt.Queues
import DeviceConsole.Proofs.Mqtt.Seats
import DeviceConsole.Proofs.Mqtt.Wire
import DeviceConsole.Proofs.Number.Rounding
import DeviceConsole.Proofs.Overlap.Alters
import DeviceConsole.Proofs.Overlap.Destroyed
import DeviceConsole.Proofs.Overlap.Filters
import DeviceConsole.Proofs.Overlap.Sessions
import DeviceConsole.Proofs.Overlap.Stages
import DeviceConsole.Proofs.Overlap.Traffic
import DeviceConsole.Proofs.Payload.Base64
import DeviceConsole.Proofs.Payload.Codec
import DeviceConsole.Proofs.Payload.Hex
import DeviceConsole.Proofs.Payload.Spelling
import DeviceConsole.Proofs.Profile.Codec
import DeviceConsole.Proofs.Profile.Declaring
import DeviceConsole.Proofs.Profile.Identity
import DeviceConsole.Proofs.Profile.RoundTrip
import DeviceConsole.Proofs.Profile.Stripping
import DeviceConsole.Proofs.Session.Activity
import DeviceConsole.Proofs.Session.Aspects
import DeviceConsole.Proofs.Session.Attempt
import DeviceConsole.Proofs.Session.Attention
import DeviceConsole.Proofs.Session.Board
import DeviceConsole.Proofs.Session.Bulk
import DeviceConsole.Proofs.Session.Chronicle
import DeviceConsole.Proofs.Session.Delegation
import DeviceConsole.Proofs.Session.Failures
import DeviceConsole.Proofs.Session.Filtering
import DeviceConsole.Proofs.Session.Gate
import DeviceConsole.Proofs.Session.Granted
import DeviceConsole.Proofs.Session.Interference
import DeviceConsole.Proofs.Session.Lifecycle
import DeviceConsole.Proofs.Session.Messaging
import DeviceConsole.Proofs.Session.Operations
import DeviceConsole.Proofs.Session.Play
import DeviceConsole.Proofs.Session.Publishing
import DeviceConsole.Proofs.Session.Quiet
import DeviceConsole.Proofs.Session.Reachable
import DeviceConsole.Proofs.Session.Reaction
import DeviceConsole.Proofs.Session.Renewal
import DeviceConsole.Proofs.Session.Replay
import DeviceConsole.Proofs.Session.Reports
import DeviceConsole.Proofs.Session.Requests
import DeviceConsole.Proofs.Session.Restoring
import DeviceConsole.Proofs.Session.Retries
import DeviceConsole.Proofs.Session.Run
import DeviceConsole.Proofs.Session.Scopes
import DeviceConsole.Proofs.Session.Soundness
import DeviceConsole.Proofs.Session.Subscribing
import DeviceConsole.Proofs.Session.Unknown
import DeviceConsole.Proofs.Session.Views
import DeviceConsole.Proofs.Session.Withdrawal
import DeviceConsole.Proofs.Shadow.Closed
import DeviceConsole.Proofs.Shadow.Convergence
import DeviceConsole.Proofs.Shadow.Faithful
import DeviceConsole.Proofs.Shadow.Integers
import DeviceConsole.Proofs.Shadow.Lookup
import DeviceConsole.Proofs.Shadow.MergePatch
import DeviceConsole.Proofs.Shadow.Paths
import DeviceConsole.Proofs.Shadow.Satisfaction
import DeviceConsole.Proofs.Shadow.Syncing
import DeviceConsole.Proofs.Shadow.WellFormed
import DeviceConsole.Proofs.Storage.Encoding
import DeviceConsole.Proofs.Storage.Files
import DeviceConsole.Proofs.Storage.Ledger
import DeviceConsole.Proofs.Storage.Saving
import DeviceConsole.Proofs.Storage.Tracking
import DeviceConsole.Proofs.Text.Substitution
import DeviceConsole.Proofs.Text.Utf8
import DeviceConsole.Proofs.Topic.Extraction
import DeviceConsole.Proofs.Topic.Matching
import DeviceConsole.Proofs.Topic.Widening
import DeviceConsole.Qos
import DeviceConsole.Script.Broker
import DeviceConsole.Script.Input
import DeviceConsole.Script.Report
import DeviceConsole.Script.Start
import DeviceConsole.Script.Steps
import DeviceConsole.Session.Console
import DeviceConsole.Session.Lifecycle
import DeviceConsole.Session.Messaging
import DeviceConsole.Session.Operations
import DeviceConsole.Session.Reaction
import DeviceConsole.Session.Snapshot
import DeviceConsole.Session.Timestamp
import DeviceConsole.Session.Transport
import DeviceConsole.Settings
import DeviceConsole.Shadow.Delta
import DeviceConsole.Shadow.Document
import DeviceConsole.Simulation.Outage
import DeviceConsole.Simulation.World
import DeviceConsole.Storage.FileStore
import DeviceConsole.Storage.Profiles
import DeviceConsole.Text.Substitute
import DeviceConsole.Text.Utf8
import DeviceConsole.Toml.Parser
import DeviceConsole.Toml.Scalar
import DeviceConsole.Toml.Table
import DeviceConsole.Toml.Text
import DeviceConsole.Topic.Filter
import DeviceConsole.Topic.ThingId
