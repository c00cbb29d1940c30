import RunnerFleet.Agent
import RunnerFleet.Arbiter
import RunnerFleet.Clock.Agenda
import RunnerFleet.Clock.Civil
import RunnerFleet.Clock.Span
import RunnerFleet.Clock.Timestamp
import RunnerFleet.Command
import RunnerFleet.CommandLine.Address
import RunnerFleet.CommandLine.Arguments
import RunnerFleet.CommandLine.Files
import RunnerFleet.CommandLine.Run
import RunnerFleet.Coordinator.Adding
import RunnerFleet.Coordinator.Basic
import RunnerFleet.Coordinator.Deleting
import RunnerFleet.Coordinator.RequestId
import RunnerFleet.Coordinator.Streams
import RunnerFleet.Coordinator.Sweep
import RunnerFleet.Coordinator.SyncStream
import RunnerFleet.Coordinator.Timeline
import RunnerFleet.Coordinator.Waiting
import RunnerFleet.Decimal.Binary64
import RunnerFleet.Decimal.Fixed
import RunnerFleet.Decimal.Reading
import RunnerFleet.Decimal.Shortest
import RunnerFleet.Documents.Coordinator
import RunnerFleet.Documents.Fleet
import RunnerFleet.Documents.Host
import RunnerFleet.Documents.Metrics
import RunnerFleet.Documents.Reading
import RunnerFleet.Documents.Scripts
import RunnerFleet.Documents.Settings
import RunnerFleet.Hosting.Basic
import RunnerFleet.Hosting.Provision
import RunnerFleet.Hosting.Scripted
import RunnerFleet.Hosting.Session
import RunnerFleet.Hosting.Timeline
import RunnerFleet.Http.Announcements
import RunnerFleet.Http.Api
import RunnerFleet.Http.Exchange
import RunnerFleet.Json.Basic
import RunnerFleet.Json.Lenient
import RunnerFleet.Json.Parser
import RunnerFleet.Json.Printer
import RunnerFleet.Json.Schema
import RunnerFleet.Main
import RunnerFleet.Metrics.Counters
import RunnerFleet.Metrics.Exposition
import RunnerFleet.Metrics.Gauges
import RunnerFleet.Metrics.Histogram
import RunnerFleet.Placement
import RunnerFleet.Roster
import RunnerFleet.Runner
import RunnerFleet.Settings
import RunnerFleet.Store
import RunnerFleet.Table
import RunnerFleet.Text.Blank
import RunnerFleet.Text.Quoted
import RunnerFleet.Text.Utf8
import RunnerFleet.Text.Uuid
import RunnerFleet.Text.Visible
import RunnerFleet.Toml.Basic
import RunnerFleet.Toml.Document
import RunnerFleet.Toml.Scalar
import RunnerFleet.Toml.Schema
import RunnerFleet.Vm.Bundles
import RunnerFleet.Vm.Error
import RunnerFleet.Vm.Guest
import RunnerFleet.Vm.Helper
import RunnerFleet.Vm.Host
import RunnerFleet.Vm.InMemory
import RunnerFleet.Vm.Listing
import RunnerFleet.Vm.Metadata
import RunnerFleet.Vm.Operation
import RunnerFleet.Vm.Power
import RunnerFleet.Vm.Programs
import RunnerFleet.Vm.Reach
import RunnerFleet.Vm.Scripted
import RunnerFleet.Vm.Start
import RunnerFleet.Vm.Stop
import RunnerFleet.Vm.Timeline
import RunnerFleet.Wire.Field
import RunnerFleet.Wire.Frame
import RunnerFleet.Wire.Message
import RunnerFleet.Wire.Report
import RunnerFleet.Proofs.Arbiter.Matching
import RunnerFleet.Proofs.Hosting.Records
import RunnerFleet.Proofs.Hosting.Tasks
import RunnerFleet.Proofs.Hosting.Run
import RunnerFleet.Proofs.Hosting.Sound
import RunnerFleet.Proofs.Hosting.Removal
import RunnerFleet.Proofs.Vm.Operations
import RunnerFleet.Proofs.Hosting.Lifecycle
import RunnerFleet.Proofs.Hosting.Cleanup
import RunnerFleet.Proofs.Hosting.Readiness
import RunnerFleet.Proofs.Coordinator.Outbox
import RunnerFleet.Proofs.Hosting.Creations
import RunnerFleet.Proofs.Fleet.System
import RunnerFleet.Proofs.Fleet.Creations
import RunnerFleet.Proofs.Store.Indexes
import RunnerFleet.Proofs.Coordinator.Snapshots
import RunnerFleet.Proofs.Sync.Run
import RunnerFleet.Proofs.Sync.Attachment
import RunnerFleet.Proofs.Sync.Ledger
import RunnerFleet.Proofs.Sync.Replies
import RunnerFleet.Proofs.Store.Reports
import RunnerFleet.Proofs.Coordinator.Streams
import RunnerFleet.Proofs.Fleet.Stores
import RunnerFleet.Proofs.Fleet.Deletion
import RunnerFleet.Proofs.Vm.Pool
import RunnerFleet.Proofs.Hosting.Notices
import RunnerFleet.Proofs.Fleet.Attributions
import RunnerFleet.Proofs.Fleet.Rejoining
import RunnerFleet.Proofs.Metrics.FreeSlots
import RunnerFleet.Proofs.Arbiter.Waits
import RunnerFleet.Proofs.Fleet.Undelivered
import RunnerFleet.Proofs.Text.Utf8
import RunnerFleet.Proofs.Wire.Fields
import RunnerFleet.Proofs.Wire.Messages
import RunnerFleet.Proofs.Store.Refusals
import RunnerFleet.Proofs.Store.Replacement
import RunnerFleet.Proofs.Hosting.Walks
import RunnerFleet.Proofs.Coordinator.Sweeps
import RunnerFleet.Proofs.Fleet.Sweeps
import RunnerFleet.Proofs.Metrics.Recordings
import RunnerFleet.Proofs.Metrics.Verdicts
import RunnerFleet.Proofs.Metrics.Requests
import RunnerFleet.Proofs.Store.Capacity
import RunnerFleet.Proofs.Placement.Selection
import RunnerFleet.Proofs.Metrics.SlotSums
import RunnerFleet.Proofs.Metrics.Census
import RunnerFleet.Proofs.Coordinator.Grace
import RunnerFleet.Proofs.Coordinator.Adding
import RunnerFleet.Proofs.Vm.Courses
import RunnerFleet.Proofs.Vm.Starting
import RunnerFleet.Proofs.Vm.Stopping
import RunnerFleet.Proofs.Vm.Reaching
import RunnerFleet.Proofs.Metrics.Scraping
import RunnerFleet.Proofs.Metrics.Families
import RunnerFleet.Proofs.Store.Reordering
