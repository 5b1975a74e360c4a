import ControlForge.Audit.Record
import ControlForge.Cases.Graph
import ControlForge.Foundation.Table
import ControlForge.Foundation.Text
import ControlForge.Foundation.Transaction
import ControlForge.Identity
import ControlForge.Telemetry.Event
import Mathlib.Order.Lattice

/-!
# The tables of the processing store

Events and their detection jobs, alerts, and the cases that alerts are linked
to, with the primary keys, the unique indexes and the triggers of their
schema.
-/

namespace ControlForge

namespace Store

inductive JobStatus where
  | pending
  | leased
  | retry
  | succeeded
  | dead
deriving DecidableEq, Repr

/-- A row of `events`. -/
structure EventRow where
  tenantId : String
  eventId : String
  eventType : String
  occurredAt : Timestamp
  receivedAt : Timestamp
  actor : String
  sourceIp : Option String
  target : Option String
  deviceId : Option String
  payloadJson : String
  payloadSha256 : String
deriving DecidableEq

def EventRow.hasKey (tenantId eventId : String) (row : EventRow) : Bool :=
  row.tenantId = tenantId ∧ row.eventId = eventId

def EventRow.clash (left right : EventRow) : Bool :=
  left.hasKey right.tenantId right.eventId

/-- A row of `detection_jobs`. -/
structure JobRow where
  tenantId : String
  jobId : String
  eventId : String
  status : JobStatus
  attempts : Nat
  availableAt : Timestamp
  leaseOwner : Option String
  leaseExpiresAt : Option Timestamp
  lastError : Option String
  createdAt : Timestamp
  updatedAt : Timestamp
deriving DecidableEq

def JobRow.hasKey (tenantId jobId : String) (row : JobRow) : Bool :=
  row.tenantId = tenantId ∧ row.jobId = jobId

/-- The primary key, and `UNIQUE (tenant_id, event_id)`. -/
def JobRow.clash (left right : JobRow) : Bool :=
  left.hasKey right.tenantId right.jobId ||
    (left.tenantId = right.tenantId ∧ left.eventId = right.eventId : Bool)

/-- A row of `alerts`. -/
structure AlertRow where
  tenantId : String
  alertId : String
  eventId : String
  ruleId : String
  ruleVersion : String
  ruleDigest : String
  ruleSnapshotJson : String
  fingerprintVersion : String
  detectorVersion : String
  title : String
  severity : Severity
  actor : String
  reasonsJson : String
  tagsJson : String
  evidenceJson : String
  createdAt : Timestamp
deriving DecidableEq

def AlertRow.hasKey (tenantId alertId : String) (row : AlertRow) : Bool :=
  row.tenantId = tenantId ∧ row.alertId = alertId

def AlertRow.clash (left right : AlertRow) : Bool :=
  left.hasKey right.tenantId right.alertId

inductive Priority where
  | low
  | medium
  | high
  | critical
deriving DecidableEq, Repr

def Priority.rank : Priority → Nat
  | .low => 0
  | .medium => 1
  | .high => 2
  | .critical => 3

theorem Priority.rank_injective : Function.Injective Priority.rank := by
  intro left right same
  cases left <;> cases right <;> first | rfl | cases same

instance : LinearOrder Priority :=
  LinearOrder.lift' Priority.rank Priority.rank_injective

/-- A row of `cases`. -/
structure CaseRow where
  tenantId : String
  caseId : String
  title : String
  priority : Priority
  status : CaseStatus
  assigneeUserId : Option String
  openedAt : Timestamp
  updatedAt : Timestamp
  closedAt : Option Timestamp
  version : Nat
  semanticKey : Option String
  investigationCycle : Nat
deriving DecidableEq

def CaseRow.hasKey (tenantId caseId : String) (row : CaseRow) : Bool :=
  row.tenantId = tenantId ∧ row.caseId = caseId

/-- The rows `idx_cases_open_semantic` covers, with one key. -/
def CaseRow.openWith (tenantId semanticKey : String) (row : CaseRow) : Bool :=
  row.tenantId = tenantId ∧ row.semanticKey = some semanticKey ∧
    row.status ≠ .closed

/-- Two rows violate the primary key or `idx_cases_open_semantic`. -/
def CaseRow.clash (left right : CaseRow) : Bool :=
  left.hasKey right.tenantId right.caseId ||
    match right.semanticKey with
    | some semanticKey =>
        right.status ≠ .closed && left.openWith right.tenantId semanticKey
    | none => false

/-- A row of `case_alerts`. -/
structure CaseAlertRow where
  tenantId : String
  caseId : String
  alertId : String
  linkedAt : Timestamp
deriving DecidableEq

def CaseAlertRow.clash (left right : CaseAlertRow) : Bool :=
  left.tenantId = right.tenantId ∧ left.caseId = right.caseId ∧
    left.alertId = right.alertId

/-- A row of `case_activity`. -/
structure ActivityRow where
  tenantId : String
  activityId : String
  caseId : String
  activityType : String
  actorId : String
  bodyJson : String
  createdAt : Timestamp
deriving DecidableEq

def ActivityRow.clash (left right : ActivityRow) : Bool :=
  left.tenantId = right.tenantId ∧ left.activityId = right.activityId

/-- A row of `dispositions`. -/
structure DispositionRow where
  tenantId : String
  dispositionId : String
  caseId : String
  status : String
  rationale : String
  ruleVersion : String
  createdBy : String
  createdAt : Timestamp
  falsePositiveReason : Option String
  investigationCycle : Nat
deriving DecidableEq

def DispositionRow.clash (left right : DispositionRow) : Bool :=
  left.tenantId = right.tenantId ∧ left.dispositionId = right.dispositionId

/-- The database, over any audit log.  Tenants, devices and users are only
read here. -/
structure Database (Log : Type) where
  tenants : List String
  devices : List (String × String)
  users : List UserRow
  events : Table EventRow EventRow.clash
  jobs : Table JobRow JobRow.clash
  alerts : Table AlertRow AlertRow.clash
  cases : Table CaseRow CaseRow.clash
  caseAlerts : Table CaseAlertRow CaseAlertRow.clash
  activity : Table ActivityRow ActivityRow.clash
  dispositions : Table DispositionRow DispositionRow.clash
  audit : Log

inductive StoreError where
  | leaseOwnership (message : String)
  | identityConflict (message : String)
  | invalidValue (message : String)
  | runtime (message : String)
  | authorization (message : String)
  | caseNotFound (message : String)
  | caseTransition (message : String)
  | caseValidation (message : String)
  /-- A constraint of a table. -/
  | integrity (message : String)
  /-- `RAISE(ABORT, ...)`. -/
  | trigger (message : String)
  | audit (failure : AuditError)
deriving DecidableEq

abbrev Program (Log : Type) : Type → Type :=
  Transaction (Database Log) StoreError

/-! ## Triggers -/

/-- A disposition of the case in its investigation cycle exists. -/
def currentDisposition (dispositions : List DispositionRow) (row : CaseRow) :
    Bool :=
  dispositions.any fun disposition =>
    disposition.tenantId = row.tenantId ∧ disposition.caseId = row.caseId ∧
      disposition.investigationCycle = row.investigationCycle

/-- The triggers on an update of the status of a case. -/
def statusTriggers (dispositions : List DispositionRow) (old new : CaseRow) :
    Option String :=
  firstRaised [
    (!CaseStatus.transitionGuard old.status new.status,
      "invalid case status transition"),
    (new.version ≠ old.version + 1,
      "case status transition must increment version"),
    (new.status = .closed && !currentDisposition dispositions old,
      "case cannot close without a current-cycle disposition")]

/-- The trigger `dispositions_false_positive_reason_guard`. -/
def dispositionTriggers (row : DispositionRow) : Option String :=
  firstRaised [
    (match row.falsePositiveReason with
      | none => row.status = "false_positive"
      | some reason =>
          if row.status = "false_positive" then
            Text.sqliteLength (Text.sqliteTrim reason) = 0
          else true,
      "false-positive reason does not match disposition")]

end Store

end ControlForge
