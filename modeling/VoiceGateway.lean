import VoiceGateway.CommandLine.Arguments
import VoiceGateway.CommandLine.Command
import VoiceGateway.CommandLine.Report
import VoiceGateway.Config
import VoiceGateway.Config.Decode
import VoiceGateway.Config.Render
import VoiceGateway.Config.Source
import VoiceGateway.Directory
import VoiceGateway.Duration
import VoiceGateway.EventBus
import VoiceGateway.Failure
import VoiceGateway.Handshake.Call
import VoiceGateway.Handshake.Coordinator
import VoiceGateway.Handshake.Progress
import VoiceGateway.Handshake.Rendezvous
import VoiceGateway.Handshake.Run
import VoiceGateway.Identity
import VoiceGateway.JoinRequest
import VoiceGateway.Json.Decode
import VoiceGateway.Json.Draft
import VoiceGateway.Json.Numeral
import VoiceGateway.Json.Token
import VoiceGateway.Json.Value
import VoiceGateway.Main
import VoiceGateway.Mismatch
import VoiceGateway.Number.Binary64
import VoiceGateway.Number.Shortest
import VoiceGateway.Reconnect.Accountant
import VoiceGateway.Reconnect.Backoff
import VoiceGateway.Reconnect.Demonstration
import VoiceGateway.Reconnect.Loop
import VoiceGateway.Reconnect.Rehearsal
import VoiceGateway.Registry
import VoiceGateway.Session
import VoiceGateway.Shard
import VoiceGateway.Simulation
import VoiceGateway.Snowflake
import VoiceGateway.Stream
import VoiceGateway.Text.Blank
import VoiceGateway.Text.Decimal
import VoiceGateway.Text.Hexadecimal
import VoiceGateway.Text.Printable
import VoiceGateway.Text.Quoted
import VoiceGateway.Toml.Reader
import VoiceGateway.Toml.Scalar
import VoiceGateway.Toml.Text
import VoiceGateway.Toml.Value
import VoiceGateway.Toml.Writer
import VoiceGateway.Trace
import VoiceGateway.Transport
import VoiceGateway.Transport.Loopback
import VoiceGateway.Transport.Scripted
import VoiceGateway.Wire.Command
import VoiceGateway.Wire.Event
import VoiceGateway.Proofs.Handshake.Move
import VoiceGateway.Proofs.Stream
import VoiceGateway.Proofs.Handshake.Growth
import VoiceGateway.Proofs.Handshake.Change
import VoiceGateway.Proofs.Handshake.Lifecycle
import VoiceGateway.Proofs.Handshake.Ledger
import VoiceGateway.Proofs.Handshake.Convergence
import VoiceGateway.Proofs.Handshake.Meeting
import VoiceGateway.Proofs.Handshake.Subscriptions
import VoiceGateway.Proofs.Handshake.Gathering
import VoiceGateway.Proofs.Handshake.Pursuit
import VoiceGateway.Proofs.Handshake.Poised
import VoiceGateway.Proofs.Handshake.Verdict
import VoiceGateway.Proofs.Handshake.Ending
import VoiceGateway.Proofs.Handshake.Audience
import VoiceGateway.Proofs.Handshake.Accounting
import VoiceGateway.Proofs.Reconnect.Perseverance
import VoiceGateway.Proofs.Decimal
import VoiceGateway.Proofs.Json.Scanning
import VoiceGateway.Proofs.Json.Assembling
import VoiceGateway.Proofs.Wire.RoundTrip
import VoiceGateway.Proofs.Toml.Quoting
import VoiceGateway.Proofs.Number.Binary64
import VoiceGateway.Proofs.Toml.Numbers
import VoiceGateway.Proofs.Toml.Document
import VoiceGateway.Proofs.Config.RoundTrip
import VoiceGateway.Proofs.Handshake.Following
import VoiceGateway.Proofs.Registry.Share
import VoiceGateway.Proofs.Handshake.Alone
import VoiceGateway.Proofs.Handshake.Passage
import VoiceGateway.Proofs.Handshake.Likeness
import VoiceGateway.Proofs.Handshake.Alongside
import VoiceGateway.Proofs.Handshake.Mirror
import VoiceGateway.Proofs.Handshake.Isolation
import VoiceGateway.Proofs.Handshake.Routing
import VoiceGateway.Proofs.Handshake.Deletion
import VoiceGateway.Proofs.Handshake.Loopback
import VoiceGateway.Proofs.Reconnect.History
import VoiceGateway.Proofs.Reconnect.Readership
import VoiceGateway.Proofs.Reconnect.Crew
import VoiceGateway.Proofs.Reconnect.Shutdown
import VoiceGateway.Proofs.Json.Keeping
import VoiceGateway.Proofs.Wire.Envelope
import VoiceGateway.Proofs.Wire.Records
import VoiceGateway.Proofs.Toml.Distinct
import VoiceGateway.Proofs.Config.Overlay
import VoiceGateway.Proofs.Reading
import VoiceGateway.Proofs.Snowflake
import VoiceGateway.Proofs.Json.Lone
import VoiceGateway.Proofs.Wire.Ids
import VoiceGateway.Proofs.Handshake.Lag
import VoiceGateway.Proofs.Handshake.Performing
import VoiceGateway.Proofs.Simulation
import VoiceGateway.Proofs.Duration
import VoiceGateway.Proofs.JoinRequest
import VoiceGateway.Proofs.Reconnect.Delays
import VoiceGateway.Proofs.Reconnect.Factors
import VoiceGateway.Proofs.Reconnect.Printing
import VoiceGateway.Proofs.Number.Values
import VoiceGateway.Proofs.Reconnect.Jitter
