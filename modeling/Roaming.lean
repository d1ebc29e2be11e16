import Roaming.AccessPoint
import Roaming.Agent
import Roaming.Agent.Options
import Roaming.Agent.Transcript
import Roaming.Decimal
import Roaming.Failure
import Roaming.Host
import Roaming.Latency
import Roaming.Main
import Roaming.Monitor
import Roaming.Monitor.Operation
import Roaming.NetworkManager
import Roaming.Notice
import Roaming.Observation
import Roaming.Probe
import Roaming.Proofs.Answers
import Roaming.Proofs.Association
import Roaming.Proofs.Binary64
import Roaming.Proofs.Calls
import Roaming.Proofs.Choice
import Roaming.Proofs.Columns
import Roaming.Proofs.Commands
import Roaming.Proofs.Complaints
import Roaming.Proofs.Course
import Roaming.Proofs.Deadlines
import Roaming.Proofs.Drafts
import Roaming.Proofs.DryRun
import Roaming.Proofs.Effects
import Roaming.Proofs.Endurance
import Roaming.Proofs.Eviction
import Roaming.Proofs.Filing
import Roaming.Proofs.Finiteness
import Roaming.Proofs.FloatRange
import Roaming.Proofs.Gateway
import Roaming.Proofs.History
import Roaming.Proofs.Hysteresis
import Roaming.Proofs.Iteration
import Roaming.Proofs.LastPin
import Roaming.Proofs.LatencyHistory
import Roaming.Proofs.LatestScan
import Roaming.Proofs.Lines
import Roaming.Proofs.Measurement
import Roaming.Proofs.Merge
import Roaming.Proofs.Naming
import Roaming.Proofs.PinSafety
import Roaming.Proofs.Probing
import Roaming.Proofs.Protocol
import Roaming.Proofs.Readers
import Roaming.Proofs.RepeatedScan
import Roaming.Proofs.Reports
import Roaming.Proofs.Representation
import Roaming.Proofs.Resolution
import Roaming.Proofs.Room
import Roaming.Proofs.Rounding
import Roaming.Proofs.RowOrder
import Roaming.Proofs.Scans
import Roaming.Proofs.Scoring
import Roaming.Proofs.Selection
import Roaming.Proofs.Sighting
import Roaming.Proofs.Startup
import Roaming.Proofs.Store
import Roaming.Proofs.Summary
import Roaming.Proofs.Table
import Roaming.Proofs.Waiting
import Roaming.Proofs.Words
import Roaming.Registry
import Roaming.Registry.Eviction
import Roaming.Registry.Store
import Roaming.Repinning
import Roaming.Route
import Roaming.Settings
import Roaming.Settings.Document
import Roaming.Settings.Draft
import Roaming.Span
import Roaming.Text.Blank
import Roaming.Text.Quoted
import Roaming.Text.Unprinted
import Roaming.Text.Utf8
import Roaming.Toml.Document
import Roaming.Toml.Moment
import Roaming.Toml.Quoted
import Roaming.Toml.Scalar
import Roaming.Toml.Value
import Roaming.Verdict
import Roaming.Wait
