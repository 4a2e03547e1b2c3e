import Rollout.App.Config
import Rollout.App.Config.Codec
import Rollout.App.Group
import Rollout.Backoff
import Rollout.Cli.Args
import Rollout.Cli.Duration
import Rollout.Cli.Log
import Rollout.Cli.Program
import Rollout.Cli.Transcript
import Rollout.Deployment.Basic
import Rollout.Deployment.Rollout
import Rollout.Dict
import Rollout.Error
import Rollout.File
import Rollout.Fleet.Basic
import Rollout.Fleet.Handle
import Rollout.Http.Client
import Rollout.Http.Clients
import Rollout.Http.Message
import Rollout.Http.Network
import Rollout.Http.Problem
import Rollout.Http.Status
import Rollout.Http.Url.Basic
import Rollout.Http.Url.Domain
import Rollout.Http.Url.Domain.Direction
import Rollout.Http.Url.Domain.Joiner
import Rollout.Http.Url.Domain.Mapping
import Rollout.Http.Url.Host
import Rollout.Http.Url.Percent
import Rollout.Http.Url.Punycode
import Rollout.Json.Basic
import Rollout.Json.Codec
import Rollout.Json.Printer
import Rollout.Json.Reader
import Rollout.Json.Record
import Rollout.Launch.Resolver
import Rollout.Lease.Basic
import Rollout.Lease.Grant
import Rollout.LogFilter
import Rollout.LogFilter.Directive
import Rollout.LogFilter.Pattern
import Rollout.LogLevel
import Rollout.Machine.Basic
import Rollout.Machine.Config
import Rollout.Machine.Config.Codec
import Rollout.Machine.Discovery
import Rollout.Machine.Event
import Rollout.Machine.Health
import Rollout.Machine.Metadata
import Rollout.Main
import Rollout.Options
import Rollout.Proofs.Ages
import Rollout.Proofs.AllOrNone
import Rollout.Proofs.Canceling
import Rollout.Proofs.Checks
import Rollout.Proofs.Command
import Rollout.Proofs.CommandGate
import Rollout.Proofs.Conservation
import Rollout.Proofs.Convergence
import Rollout.Proofs.Courses
import Rollout.Proofs.Deciding
import Rollout.Proofs.Deployment
import Rollout.Proofs.Discovery
import Rollout.Proofs.Documents
import Rollout.Proofs.Durations
import Rollout.Proofs.Events
import Rollout.Proofs.Fanout
import Rollout.Proofs.Freshness
import Rollout.Proofs.GivingUp
import Rollout.Proofs.Handle
import Rollout.Proofs.HealthGate
import Rollout.Proofs.Heeding
import Rollout.Proofs.History
import Rollout.Proofs.InPlace
import Rollout.Proofs.Inputs
import Rollout.Proofs.Isolation
import Rollout.Proofs.JobAgreement
import Rollout.Proofs.JobHistory
import Rollout.Proofs.LeaseCourses
import Rollout.Proofs.LeaseSafety
import Rollout.Proofs.Leasing
import Rollout.Proofs.Ledger
import Rollout.Proofs.Liveness
import Rollout.Proofs.Members
import Rollout.Proofs.OneShot
import Rollout.Proofs.Ownership
import Rollout.Proofs.Owning
import Rollout.Proofs.Pacing
import Rollout.Proofs.Poll
import Rollout.Proofs.Polling
import Rollout.Proofs.Preparation
import Rollout.Proofs.Protocol
import Rollout.Proofs.Records
import Rollout.Proofs.Request
import Rollout.Proofs.Restarting
import Rollout.Proofs.Returns
import Rollout.Proofs.RollingGate
import Rollout.Proofs.RoundTrip
import Rollout.Proofs.Rounds
import Rollout.Proofs.Schedules
import Rollout.Proofs.ServiceChecks
import Rollout.Proofs.Slots
import Rollout.Proofs.Snapshots
import Rollout.Proofs.Staleness
import Rollout.Proofs.Swaps
import Rollout.Proofs.Timeouts
import Rollout.Proofs.Triple
import Rollout.Proofs.Turns
import Rollout.Proofs.Variables
import Rollout.Proofs.Volumes
import Rollout.Proofs.Waits
import Rollout.Rehearsal.Disk
import Rollout.Rehearsal.Plane
import Rollout.Rehearsal.Script
import Rollout.Rehearsal.Server
import Rollout.Release.Basic
import Rollout.Release.Command
import Rollout.Release.Job
import Rollout.Remote.Call
import Rollout.Session.Basic
import Rollout.Session.Fanout
import Rollout.Session.Poll
import Rollout.Session.Request
import Rollout.Session.Work
import Rollout.Settings
import Rollout.Strategy
import Rollout.Text.Blank
import Rollout.Text.Bytes
import Rollout.Text.Case
import Rollout.Text.CodeTable
import Rollout.Text.Letter
import Rollout.Text.Normal
import Rollout.Text.Number
import Rollout.Text.Quoted
import Rollout.Text.Split
import Rollout.Time.Calendar
import Rollout.Time.Timestamp
import Rollout.Version
import Rollout.Volume.Basic
import Rollout.Volume.Pool
