import ClusterFleet.Api.Address
import ClusterFleet.Api.Document
import ClusterFleet.Api.Error
import ClusterFleet.Api.Schema
import ClusterFleet.Api.Server
import ClusterFleet.Api.Shape
import ClusterFleet.Api.Store
import ClusterFleet.Api.Watch
import ClusterFleet.Cleanup.Access
import ClusterFleet.Cleanup.Binding
import ClusterFleet.Cleanup.Folder
import ClusterFleet.Cleanup.Group
import ClusterFleet.Cleanup.ManifestText
import ClusterFleet.Cleanup.Manifests
import ClusterFleet.Cleanup.OnServer
import ClusterFleet.Cleanup.Script
import ClusterFleet.Cleanup.Target
import ClusterFleet.Cleanup.Template
import ClusterFleet.Command.Arguments
import ClusterFleet.Command.Execution
import ClusterFleet.Command.Help
import ClusterFleet.Command.Option
import ClusterFleet.Command.Report
import ClusterFleet.Decimal.Binary
import ClusterFleet.Decimal.Double
import ClusterFleet.Decimal.Numeral
import ClusterFleet.Domain.Composition
import ClusterFleet.Domain.Direction
import ClusterFleet.Domain.Folding
import ClusterFleet.Domain.Joining
import ClusterFleet.Domain.Mark
import ClusterFleet.Domain.Name
import ClusterFleet.Domain.Permitted
import ClusterFleet.Domain.Punycode
import ClusterFleet.Failure
import ClusterFleet.Hub.ClusterSet
import ClusterFleet.Hub.Event
import ClusterFleet.Hub.Membership
import ClusterFleet.Hub.Policy
import ClusterFleet.Hub.Program
import ClusterFleet.Hub.Rehearsal
import ClusterFleet.Hub.Runner
import ClusterFleet.Hub.Schedule
import ClusterFleet.Hub.Settings
import ClusterFleet.Hub.State
import ClusterFleet.Hub.StatusUpdate
import ClusterFleet.Hub.WorkQueue
import ClusterFleet.Json.Basic
import ClusterFleet.Json.Form
import ClusterFleet.Json.Reader
import ClusterFleet.Json.Writer
import ClusterFleet.Main
import ClusterFleet.Object.Condition
import ClusterFleet.Object.Edit
import ClusterFleet.Object.Form
import ClusterFleet.Object.Key
import ClusterFleet.Object.Kind
import ClusterFleet.Object.Resource
import ClusterFleet.Proofs.Api.Carried
import ClusterFleet.Proofs.Api.Dialogue
import ClusterFleet.Proofs.Api.StatusPut
import ClusterFleet.Proofs.Cleanup.Addresses
import ClusterFleet.Proofs.Cleanup.Chores
import ClusterFleet.Proofs.Cleanup.Exact
import ClusterFleet.Proofs.Cleanup.Holdings
import ClusterFleet.Proofs.Cleanup.Manifests
import ClusterFleet.Proofs.Decimal.Digits
import ClusterFleet.Proofs.Decimal.Reading
import ClusterFleet.Proofs.Hub.Amid
import ClusterFleet.Proofs.Hub.Breaks
import ClusterFleet.Proofs.Hub.Churn
import ClusterFleet.Proofs.Hub.Dismissal
import ClusterFleet.Proofs.Hub.Frame
import ClusterFleet.Proofs.Hub.Membership
import ClusterFleet.Proofs.Hub.Rebuild
import ClusterFleet.Proofs.Hub.Settings
import ClusterFleet.Proofs.Hub.Step
import ClusterFleet.Proofs.Hub.Timeline
import ClusterFleet.Proofs.Object.Conditions
import ClusterFleet.Proofs.Object.History
import ClusterFleet.Proofs.Object.InPlace
import ClusterFleet.Proofs.Object.Keys
import ClusterFleet.Proofs.Object.Place
import ClusterFleet.Proofs.Object.Reencoding
import ClusterFleet.Proofs.Object.RoundTrip
import ClusterFleet.Proofs.Queue.Drain
import ClusterFleet.Proofs.Queue.Exclusive
import ClusterFleet.Proofs.Queue.Kept
import ClusterFleet.Proofs.Queue.Ledger
import ClusterFleet.Proofs.Queue.Pending
import ClusterFleet.Proofs.Queue.Room
import ClusterFleet.Proofs.Queue.Sound
import ClusterFleet.Proofs.Store.Contents
import ClusterFleet.Proofs.Store.Effort
import ClusterFleet.Proofs.Store.Faultless
import ClusterFleet.Proofs.Store.Later
import ClusterFleet.Proofs.Store.Latest
import ClusterFleet.Proofs.Store.Requests
import ClusterFleet.Proofs.Store.Swap
import ClusterFleet.Proofs.Store.Versions
import ClusterFleet.Proofs.Sync.Again
import ClusterFleet.Proofs.Sync.Backoff
import ClusterFleet.Proofs.Sync.Changes
import ClusterFleet.Proofs.Sync.Convergence
import ClusterFleet.Proofs.Sync.Course
import ClusterFleet.Proofs.Sync.Failure
import ClusterFleet.Proofs.Sync.Feed
import ClusterFleet.Proofs.Sync.History
import ClusterFleet.Proofs.Sync.Lossless
import ClusterFleet.Proofs.Sync.Order
import ClusterFleet.Proofs.Sync.Quiet
import ClusterFleet.Proofs.Sync.Reconcile
import ClusterFleet.Proofs.Sync.Redelivery
import ClusterFleet.Proofs.Sync.Release
import ClusterFleet.Proofs.Sync.Resync
import ClusterFleet.Proofs.Sync.Sweep
import ClusterFleet.Proofs.Sync.Tombstone
import ClusterFleet.Proofs.Sync.Turn
import ClusterFleet.Proofs.Sync.Undisturbed
import ClusterFleet.Proofs.Text.Parts
import ClusterFleet.Proofs.Time.Order
import ClusterFleet.Proofs.Time.RoundTrip
import ClusterFleet.Proofs.Update.Alone
import ClusterFleet.Proofs.Update.Attempt
import ClusterFleet.Proofs.Update.Commute
import ClusterFleet.Proofs.Update.Deadline
import ClusterFleet.Proofs.Update.Outcome
import ClusterFleet.Proofs.Update.Pool
import ClusterFleet.Proofs.Update.Position
import ClusterFleet.Proofs.Update.Repeat
import ClusterFleet.Proofs.Update.Reread
import ClusterFleet.Proofs.Update.Retries
import ClusterFleet.Store.Error
import ClusterFleet.Store.Memory
import ClusterFleet.Text.Base64
import ClusterFleet.Text.Blank
import ClusterFleet.Text.Hidden
import ClusterFleet.Text.Quoted
import ClusterFleet.Text.Ranges
import ClusterFleet.Time.Instant
import ClusterFleet.Time.Span
import ClusterFleet.Time.Timestamp
import ClusterFleet.Url.Endpoint
import ClusterFleet.Url.Ipv4
import ClusterFleet.Url.Ipv6
import ClusterFleet.Yaml.Cursor
import ClusterFleet.Yaml.Mark
import ClusterFleet.Yaml.Node
import ClusterFleet.Yaml.Scalar
import ClusterFleet.Yaml.Token
