import Durable.Proofs.Worker.Refinement
import Durable.Proofs.Ctx.ReplayGuard
import Durable.Proofs.Fan.FailFast
import Durable.Proofs.Engine.TerminalImmutability
import Durable.Proofs.Engine.SignalHandshake
import Durable.Proofs.Engine.Redelivery
import Durable.Proofs.Engine.StepImmutability
import Durable.Proofs.Engine.ResultCopies
import Durable.Proofs.Engine.SlotPaths
import Durable.Proofs.Transport.Paths
import Durable.Proofs.Wakes.Runs
import Durable.Proofs.Queue.RateWindows
import Durable.Proofs.Queue.RedisAdmission
import Durable.Singleton.Admission
import Durable.Singleton.Runs
import Durable.Proofs.Singleton.Progress
import Durable.Proofs.Codec.Transparency
import Durable.Proofs.Lifecycle.Tags
import Durable.Proofs.Lease.Ownership
import Durable.Proofs.Lease.Claims
import Durable.Proofs.Engine.ChildEndings
import Durable.Proofs.Engine.RunGates
import Durable.Proofs.Retention.Sweep
import Durable.Proofs.Retention.Deletion
import Durable.Proofs.Engine.Timeouts
import Durable.Proofs.Attributes.Filters
import Durable.Proofs.Attributes.Picker
import Durable.Proofs.Engine.Continuations
import Durable.Proofs.Schedules.Bookkeeping
import Durable.Proofs.Fan.Sending
import Durable.Proofs.Fan.Waves
import Durable.Proofs.Worker.FailFast
import Durable.Schedules.Ticks
import Durable.Proofs.Schedules.Ticks
import Durable.Proofs.Schedules.Overlap
import Durable.Proofs.Schedules.Memo
import Durable.Engine.BufferedSignals
import Durable.Proofs.Engine.BufferedSignals
import Durable.Proofs.Detail.RunDetail
import Durable.Proofs.Engine.ResultBatches
import Durable.Proofs.Store.Takes
import Durable.Proofs.Events.Matching
import Durable.Proofs.Store.TagFilter
import Durable.Proofs.Store.PendingWrites
import Durable.Proofs.Gateway.TenantAuth
import Durable.Proofs.Gateway.ProxyRunGateway
import Durable.Proofs.Transport.TenantEvents
import Durable.Proofs.Transport.QueueJobs
import Durable.Proofs.Schedules.Polling
import Durable.Proofs.Store.RowMappers
import Durable.Proofs.Lifecycle.Retries
import Durable.Proofs.Handshake.Announced
import Durable.Proofs.Engine.FanWaiters
import Durable.Proofs.Engine.Versions
import Durable.Proofs.Transport.RunReplies
import Durable.Proofs.Transport.InboxKeys
import Durable.Proofs.Engine.BoundedRunner
import Durable.Proofs.Transport.AdaptiveConcurrency
import Durable.Proofs.Transport.WorkerKeys
import Durable.Proofs.Engine.Addresses
import Durable.Proofs.Engine.EventAccumulators
import Durable.Proofs.Engine.EntityRuns
