import ControlForge.Clock
import ControlForge.Foundation.Table
import ControlForge.Foundation.Text

/-!
# The table of response actions

The rows of `response_actions`, the constraints of the table, and the triggers
of the response governance schema.  The triggers of one statement have no
defined order; the model reports the first that objects, in schema order.
-/

namespace ControlForge

namespace Response

inductive ActionStatus where
  | proposed
  | approved
  | rejected
  | dispatched
  | succeeded
  | failed
  | expired
deriving DecidableEq, Repr

/-- The text stored for a status. -/
def ActionStatus.text : ActionStatus → String
  | .proposed => "proposed"
  | .approved => "approved"
  | .rejected => "rejected"
  | .dispatched => "dispatched"
  | .succeeded => "succeeded"
  | .failed => "failed"
  | .expired => "expired"

/-- `status IN ('proposed', 'approved', 'dispatched')`. -/
def ActionStatus.live : ActionStatus → Bool
  | .proposed | .approved | .dispatched => true
  | _ => false

/-- `status IN ('rejected', 'succeeded', 'failed', 'expired')`. -/
def ActionStatus.terminal (status : ActionStatus) : Bool :=
  !status.live

structure ActionRow where
  tenantId : String
  actionId : String
  caseId : String
  actionType : String
  targetType : String
  targetId : String
  rationale : String
  riskLevel : String
  status : ActionStatus
  proposedBy : String
  proposedAt : Timestamp
  approvedBy : Option String
  approvedAt : Option Timestamp
  rejectedBy : Option String
  rejectedAt : Option Timestamp
  rejectionReason : Option String
  dispatchCount : Nat
  dispatchedAt : Option Timestamp
  expiresAt : Timestamp
  resultJson : Option String
  resultDeviceId : Option String
  completedAt : Option Timestamp
deriving DecidableEq

/-- The primary key of the row. -/
def ActionRow.hasKey (tenantId actionId : String) (row : ActionRow) : Bool :=
  row.tenantId = tenantId ∧ row.actionId = actionId

/-- The rows the index `idx_response_one_live_device` covers. -/
def ActionRow.liveOnDevice (row : ActionRow) : Bool :=
  row.targetType = "device" ∧ row.status.live

/-- Two rows violate the primary key or the index on live device actions. -/
def ActionRow.clash (left right : ActionRow) : Bool :=
  left.hasKey right.tenantId right.actionId ||
    (left.liveOnDevice && right.liveOnDevice &&
      (left.tenantId = right.tenantId ∧ left.targetId = right.targetId : Bool))

abbrev ActionTable := Table ActionRow ActionRow.clash

/-! ## Triggers -/

/-- The columns `response_action_identity_immutable` protects. -/
def ActionRow.sameIdentity (new old : ActionRow) : Bool :=
  new.tenantId = old.tenantId ∧ new.actionId = old.actionId ∧
    new.caseId = old.caseId ∧ new.actionType = old.actionType ∧
    new.targetType = old.targetType ∧ new.targetId = old.targetId ∧
    new.rationale = old.rationale ∧ new.riskLevel = old.riskLevel ∧
    new.proposedBy = old.proposedBy ∧ new.proposedAt = old.proposedAt ∧
    new.expiresAt = old.expiresAt

/-- The status changes `response_action_transition_guard` lets through. -/
def transitionAllowed : ActionStatus → ActionStatus → Bool
  | .proposed, .approved | .proposed, .rejected | .proposed, .expired => true
  | .approved, .dispatched | .approved, .expired => true
  | .dispatched, .succeeded | .dispatched, .failed
  | .dispatched, .expired => true
  | _, _ => false

/-- `column IS NOT NULL AND column < limit`. -/
def setBefore (column : Option Timestamp) (limit : Timestamp) : Bool :=
  match column with
  | some time => time < limit
  | none => false

/-- `column IS NOT NULL AND column != other`. -/
def setOther (column : Option String) (other : String) : Bool :=
  match column with
  | some value => value ≠ other
  | none => false

def approvalPermitted (old new : ActionRow) : Bool :=
  setOther new.approvedBy old.proposedBy && setBefore new.approvedAt old.expiresAt

def rejectionPermitted (old new : ActionRow) : Bool :=
  setOther new.rejectedBy old.proposedBy &&
    setBefore new.rejectedAt old.expiresAt &&
    match new.rejectionReason with
    | some reason => Text.sqliteLength (Text.sqliteTrim reason) ≠ 0
    | none => false

def dispatchPermitted (old new : ActionRow) : Bool :=
  (old.status = .approved : Bool) && (new.dispatchCount = 1 : Bool) &&
    setBefore new.dispatchedAt old.expiresAt

def resultPermitted (old new : ActionRow) : Bool :=
  (old.status = .dispatched : Bool) && new.resultJson.isSome &&
    (new.resultDeviceId = some old.targetId : Bool) &&
    setBefore new.completedAt old.expiresAt

/-- Every trigger and check an update of a row meets.  The triggers on the
status fire when the statement sets that column, changed or not. -/
def updateGuard (setsStatus : Bool) (old new : ActionRow) : Option String :=
  firstRaised [
    (!new.sameIdentity old, "response action identity is immutable"),
    (setsStatus && !transitionAllowed old.status new.status,
      "invalid response action transition"),
    (setsStatus && new.status = .approved && !approvalPermitted old new,
      "response approval requires an independent human"),
    (setsStatus && new.status = .rejected && !rejectionPermitted old new,
      "response rejection requires an independent human and reason"),
    (setsStatus && new.status = .dispatched && !dispatchPermitted old new,
      "response dispatch is invalid"),
    (setsStatus && (new.status = .succeeded ∨ new.status = .failed) &&
        !resultPermitted old new,
      "response result is not bound to the target device"),
    (old.status.terminal, "terminal response action is immutable"),
    (5 < new.dispatchCount,
      "CHECK constraint failed: dispatch_count >= 0 AND dispatch_count <= 5")]

theorem updateGuard_eq_none {setsStatus : Bool} {old new : ActionRow} :
    updateGuard setsStatus old new = none ↔
      new.sameIdentity old = true ∧
        (setsStatus = true →
          transitionAllowed old.status new.status = true ∧
          (new.status = .approved → approvalPermitted old new = true) ∧
          (new.status = .rejected → rejectionPermitted old new = true) ∧
          (new.status = .dispatched → dispatchPermitted old new = true) ∧
          (new.status = .succeeded ∨ new.status = .failed →
            resultPermitted old new = true)) ∧
        old.status.live = true ∧ new.dispatchCount ≤ 5 := by
  cases setsStatus <;> simp [updateGuard, ActionStatus.terminal, and_assoc]

end Response

end ControlForge
