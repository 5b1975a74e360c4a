import ControlForge.Access.RateLimits
import ControlForge.Access.Residue
import ControlForge.Access.RetentionRuns
import ControlForge.Audit.Soundness
import ControlForge.Backups.Recording
import ControlForge.Cloud.Accounting
import ControlForge.Cloud.Agreement
import ControlForge.Cloud.AlertLinks
import ControlForge.Cloud.Cidr
import ControlForge.Cloud.CompiledReplay
import ControlForge.Cloud.DispatchSafety
import ControlForge.Cloud.Quota
import ControlForge.Cloud.RecoveryProgress
import ControlForge.Cloud.SignedRequests
import ControlForge.Containment.Ownership
import ControlForge.Containment.Recovery
import ControlForge.Detection.Agreement
import ControlForge.Detection.ConditionMeaning
import ControlForge.Detection.HistorySet
import ControlForge.Devices.Replay
import ControlForge.Devices.Standing
import ControlForge.Directory.Continuity
import ControlForge.Directory.Counters
import ControlForge.Directory.Enrollments
import ControlForge.Directory.Revisions
import ControlForge.Directory.Secrets
import ControlForge.Directory.SignIns
import ControlForge.MacAccount.Resumption
import ControlForge.Processing.Closure
import ControlForge.Processing.Durability
import ControlForge.Processing.ScheduleRuns
import ControlForge.Response.Deadlines
import ControlForge.Telemetry.ExactlyOnce
import ControlForge.Telemetry.Progress
import ControlForge.Telemetry.Snapshots
