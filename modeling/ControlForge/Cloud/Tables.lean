import ControlForge.Cases.Graph
import ControlForge.Foundation.Table
import ControlForge.Foundation.Text
import ControlForge.Telemetry.Event

/-!
# The tables of the cloud control plane

The rows that the workers and the analysts of the cloud runtime share, with
the keys, the unique indexes and the trigger of their migrations.  A column
that holds a JSON text keeps the value it was made from.
-/

namespace ControlForge

namespace Cloud

/-- A row of `events`. -/
structure EventRow where
  tenantId : String
  eventId : String
  eventType : String
  occurredAt : EventTime
  receivedAt : Timestamp
  actor : String
  sourceIp : Option String
  target : Option String
  deviceId : Option String
  attributes : Dict
  payloadSha256 : String
  processedAt : Option Timestamp
  processingError : Option String

def EventRow.hasKey (tenantId eventId : String) (row : EventRow) : Bool :=
  row.tenantId = tenantId ∧ row.eventId = eventId

def EventRow.clash (left right : EventRow) : Bool :=
  left.hasKey right.tenantId right.eventId

structure DetectionAlert where
  alertId : String
  ruleId : String
  title : String
  severity : Severity
  eventId : String
  actor : String
  reasons : List String
  tags : List String
  ruleVersion : Nat
  ruleDigest : String
  createdAt : EventTime
deriving DecidableEq

/-- A row of `alerts`. -/
structure AlertRow where
  tenantId : String
  alert : DetectionAlert
deriving DecidableEq

def AlertRow.hasOccurrence (tenantId ruleId eventId : String)
    (row : AlertRow) : Bool :=
  row.tenantId = tenantId ∧ row.alert.ruleId = ruleId ∧
    row.alert.eventId = eventId

/-- The primary key, and `idx_alerts_semantic_occurrence`. -/
def AlertRow.clash (left right : AlertRow) : Bool :=
  (left.tenantId = right.tenantId ∧
      left.alert.alertId = right.alert.alertId : Bool) ||
    left.hasOccurrence right.tenantId right.alert.ruleId right.alert.eventId

inductive Priority where
  | low
  | medium
  | high
  | critical
deriving DecidableEq, Repr

/-- A row of `cases`. -/
structure CaseRow where
  tenantId : String
  caseId : String
  semanticKey : Option String
  title : String
  priority : Priority
  status : CaseStatus
  openedAt : Timestamp
  updatedAt : Timestamp
  closedAt : Option Timestamp
  assigneePrincipalId : Option String
  dispositionRequiredAfter : Option Timestamp
deriving DecidableEq

def CaseRow.hasKey (tenantId caseId : String) (row : CaseRow) : Bool :=
  row.tenantId = tenantId ∧ row.caseId = caseId

/-- The rows `idx_cases_open_semantic` covers, with one key. -/
def CaseRow.activeWith (tenantId semanticKey : String) (row : CaseRow) : Bool :=
  row.tenantId = tenantId ∧ row.semanticKey = some semanticKey ∧
    row.status ≠ .closed

/-- The primary key, and `idx_cases_open_semantic`. -/
def CaseRow.clash (left right : CaseRow) : Bool :=
  left.hasKey right.tenantId right.caseId ||
    match right.semanticKey with
    | some semanticKey =>
        right.status ≠ .closed && left.activeWith right.tenantId semanticKey
    | none => false

/-- A row of `case_alerts`. -/
structure CaseAlertRow where
  tenantId : String
  caseId : String
  alertId : String
  linkedAt : Timestamp
deriving DecidableEq

def CaseAlertRow.ofAlert (tenantId alertId : String) (row : CaseAlertRow) :
    Bool :=
  row.tenantId = tenantId ∧ row.alertId = alertId

def CaseAlertRow.clash (left right : CaseAlertRow) : Bool :=
  left.tenantId = right.tenantId ∧ left.caseId = right.caseId ∧
    left.alertId = right.alertId

/-- A row of `case_dispositions`. -/
structure DispositionRow where
  tenantId : String
  dispositionId : String
  caseId : String
  disposition : String
  rationale : String
  createdBy : String
  createdAt : Timestamp
  falsePositiveReason : Option String
deriving DecidableEq

def DispositionRow.clash (left right : DispositionRow) : Bool :=
  left.tenantId = right.tenantId ∧ left.dispositionId = right.dispositionId

/-- `case_dispositions_false_positive_reason_guard`. -/
def DispositionRow.reasonGuard (row : DispositionRow) : Bool :=
  match row.falsePositiveReason with
  | none => row.disposition = "false_positive"
  | some reason =>
      if row.disposition = "false_positive" then
        Text.sqliteLength (Text.sqliteTrim reason) = 0
      else true

/-- A row of `audit_log`. -/
structure AuditRow where
  tenantId : String
  action : String
  actorId : String
  resourceType : String
  resourceId : String
  payload : List (String × String)
  createdAt : Timestamp
deriving DecidableEq

structure Database where
  events : Table EventRow EventRow.clash
  alerts : Table AlertRow AlertRow.clash
  cases : Table CaseRow CaseRow.clash
  caseAlerts : Table CaseAlertRow CaseAlertRow.clash
  dispositions : Table DispositionRow DispositionRow.clash
  audit : List AuditRow

end Cloud

end ControlForge
