import ControlForge.Audit.Record
import ControlForge.Cases.Graph
import ControlForge.Devices.Authenticator
import ControlForge.Foundation.OrderBy
import ControlForge.Identity
import ControlForge.Response.Tables

/-!
# The standalone response service

Proposal, review, dispatch and result of a response action.  Every operation
is one transaction; `approve`, `reject` and `submitDeviceResult` commit the
expiry of an overdue action before they report it.  The authenticator of
device requests runs before the transaction, so a device operation takes its
verdict.  The identifier of a proposed action is drawn by the caller.
-/

namespace ControlForge

namespace Response

open Devices (AuthenticatedDevice CollectorError)

/-- The columns of `cases` the service reads. -/
structure CaseRef where
  tenantId : String
  caseId : String
  status : CaseStatus

/-- The columns of `devices` the service reads. -/
structure DeviceRef where
  tenantId : String
  deviceId : String
  status : String

structure Database (Log : Type) where
  actions : ActionTable
  cases : List CaseRef
  devices : List DeviceRef
  identity : IdentityTables
  audit : Log

inductive ResponseError where
  | authorization (message : String)
  | authentication (failure : CollectorError)
  | notFound (message : String)
  | conflict (message : String)
  | expired (message : String)
  | validation (message : String)
  | deviceActionBinding (message : String)
  | integrity (message : String)
  | audit (failure : AuditError)
deriving DecidableEq

/-- `StandaloneResponseService`: its constructor refuses other limits. -/
structure Service (Log : Type) where
  append : AuditAppend Log
  maxDispatchAttempts : Nat
  admitted : 1 ≤ maxDispatchAttempts ∧ maxDispatchAttempts ≤ 5

/-! ## Views of a row -/

structure ResponseAction where
  actionId : String
  tenantId : String
  caseId : String
  actionType : String
  targetId : String
  rationale : String
  status : ActionStatus
  proposedBy : String
  proposedAt : Timestamp
  approvedBy : Option String
  approvedAt : Option Timestamp
  rejectedBy : Option String
  rejectedAt : Option Timestamp
  rejectionReason : Option String
  dispatchCount : Nat
  dispatchedAt : Option Timestamp
  expiresAt : Timestamp
  completedAt : Option Timestamp
  resultSummary : Option String
  resultEvidence : List String
deriving DecidableEq

structure AgentResponseAction where
  actionId : String
  actionType : String
  targetType : String
  targetId : String
  rationale : String
  riskLevel : String
  expiresAt : Timestamp
deriving DecidableEq

structure ResponseResult where
  actionId : String
  status : String
  changed : Bool
deriving DecidableEq

/-- `_ACTION_TYPES`. -/
def actionTypes : List String :=
  ["isolate_endpoint", "release_endpoint"]

/-- `_action_type`. -/
def storedActionType (value : String) : Except ResponseError String :=
  if value ∈ actionTypes then .ok value
  else .error (.validation "stored response action type is invalid")

def stringItem : Json → Option String
  | .str value => some value
  | _ => none

/-- `_stored_result`: the summary and the evidence of a recorded result. -/
def storedResult : Option String →
    Except ResponseError (Option String × List String)
  | none => .ok (none, [])
  | some text =>
      match Json.loads text with
      | some (.obj members) =>
          match members.lookup "summary", members.lookup "evidence" with
          | some (.str summary), some (.arr evidence) =>
              match evidence.mapM stringItem with
              | some items => .ok (some summary, items)
              | none =>
                  .error (.validation "stored response result is invalid")
          | _, _ => .error (.validation "stored response result is invalid")
      | _ => .error (.validation "stored response result is invalid")

/-- `_action`. -/
def responseAction (row : ActionRow) : Except ResponseError ResponseAction := do
  let (resultSummary, resultEvidence) ← storedResult row.resultJson
  let actionType ← storedActionType row.actionType
  return {
    actionId := row.actionId
    tenantId := row.tenantId
    caseId := row.caseId
    actionType
    targetId := row.targetId
    rationale := row.rationale
    status := row.status
    proposedBy := row.proposedBy
    proposedAt := row.proposedAt
    approvedBy := row.approvedBy
    approvedAt := row.approvedAt
    rejectedBy := row.rejectedBy
    rejectedAt := row.rejectedAt
    rejectionReason := row.rejectionReason
    dispatchCount := row.dispatchCount
    dispatchedAt := row.dispatchedAt
    expiresAt := row.expiresAt
    completedAt := row.completedAt
    resultSummary
    resultEvidence }

/-- `_agent_action`. -/
def agentAction (row : ActionRow) :
    Except ResponseError AgentResponseAction := do
  let actionType ← storedActionType row.actionType
  return {
    actionId := row.actionId
    actionType
    targetType := "device"
    targetId := row.targetId
    rationale := row.rationale
    riskLevel := "active"
    expiresAt := row.expiresAt }

/-! ## Statements -/

section Statements

variable {Log : Type}

abbrev Program (Log : Type) : Type → Type :=
  Transaction (Database Log) ResponseError

def ofIdentity (result : Except HumanAuthorizationError Unit) :
    Except ResponseError Unit :=
  result.mapError fun failure => .authorization failure.message

def requireCapability (principal : SessionPrincipal)
    (capability : Capability) : Except ResponseError Unit :=
  ofIdentity (Identity.requireCapability principal principal.tenantId capability)

/-- The capability check inside a transaction. -/
def requireCurrentCapability (principal : SessionPrincipal)
    (capability : Capability) (now : Timestamp) : Program Log Unit := do
  let database ← get
  Transaction.ofExcept (ofIdentity
    (Identity.requireCurrentCapability database.identity principal capability
      now))

/-- An `UPDATE` of the action table and its row count. -/
def updateActions (setsStatus : Bool) (selected : ActionRow → Bool)
    (change : ActionRow → ActionRow) : Program Log Nat := fun database =>
  match database.actions.updateWhere selected change (updateGuard setsStatus)
      "UNIQUE constraint failed" with
  | .ok (count, actions) => .ok (count, { database with actions })
  | .error message => .error (.integrity message)

def audit (service : Service Log) (record : AuditRecord) :
    Program Log Unit := fun database =>
  match service.append record database.audit with
  | .ok (_, log) => .ok ((), { database with audit := log })
  | .error failure => .error (.audit failure)

/-- The audit record of a response event. -/
def record (tenantId action actorType actorId actionId : String)
    (payload : Dict) (now : Timestamp) : AuditRecord where
  tenantId
  action
  actorType
  actorId
  resourceType := "response_action"
  resourceId := actionId
  payload
  now

def CaseRef.isCaseOf (reference : CaseRef) (row : ActionRow) : Bool :=
  reference.tenantId = row.tenantId ∧ reference.caseId = row.caseId

/-- `_require_action`. -/
def requireAction (tenantId actionId : String) : Program Log ActionRow := do
  let database ← get
  match database.actions.rows.find? (·.hasKey tenantId actionId) with
  | some row => return row
  | none => throw (.notFound "response action is unavailable")

/-- `_case_is_closed`. -/
def caseIsClosed (row : ActionRow) : Program Log Bool := do
  let database ← get
  match database.cases.find? (·.isCaseOf row) with
  | some reference => return reference.status = .closed
  | none => return true

end Statements

/-! ## Expiry -/

section Operations

variable {Log : Type} (service : Service Log)

/-- `_expire_one`. -/
def expireOne (row : ActionRow) (now : Timestamp) (reason : String) :
    Program Log Unit := do
  let count ← updateActions true
    (fun stored =>
      stored.hasKey row.tenantId row.actionId && stored.status.live)
    (fun stored => { stored with status := .expired, completedAt := some now })
  if count = 1 then
    audit service (record row.tenantId "response.expired" "system"
      "standalone-response-governor" row.actionId
      { members :=
          [("previous_status", .str row.status.text), ("reason", .str reason)] }
      now)

/-- The optional restriction of an expiry to one target device. -/
def onDevice (deviceId : Option String) (row : ActionRow) : Bool :=
  match deviceId with
  | none => true
  | some device => row.targetType = "device" ∧ row.targetId = device

/-- `_expire_due`. -/
def expireDue (tenantId : String) (now : Timestamp)
    (deviceId : Option String) : Program Log PUnit := do
  let database ← get
  let due := database.actions.rows.filter fun row =>
    (row.tenantId = tenantId : Bool) && row.status.live &&
      (row.expiresAt ≤ now : Bool) && onDevice deviceId row
  (orderBy ActionRow.actionId due).forM fun row => expireOne service row now "deadline"

/-- `_expire_closed_case_actions`. -/
def expireClosedCaseActions (tenantId : String) (now : Timestamp)
    (deviceId : Option String) : Program Log PUnit := do
  let database ← get
  let orphaned := database.actions.rows.filter fun row =>
    (row.tenantId = tenantId : Bool) &&
      database.cases.any (fun reference =>
        reference.isCaseOf row && reference.status = .closed) &&
      (row.status = .proposed ∨ row.status = .approved : Bool) &&
      onDevice deviceId row
  (orderBy ActionRow.actionId orphaned).forM fun row => expireOne service row now "case_closed"

/-! ## Human operations -/

def getAction (database : Database Log) (principal : SessionPrincipal)
    (actionId : String) : Except ResponseError ResponseAction := do
  requireCapability principal .view
  match database.actions.rows.find? (·.hasKey principal.tenantId actionId) with
  | some row => responseAction row
  | none => .error (.notFound "response action is unavailable")

/-- The row `propose` inserts. -/
def proposedRow (principal : SessionPrincipal)
    (actionId caseId actionType deviceId rationale : String)
    (now expiresAt : Timestamp) : ActionRow where
  tenantId := principal.tenantId
  actionId
  caseId
  actionType
  targetType := "device"
  targetId := deviceId
  rationale
  riskLevel := "active"
  status := .proposed
  proposedBy := principal.userId
  proposedAt := now
  approvedBy := none
  approvedAt := none
  rejectedBy := none
  rejectedAt := none
  rejectionReason := none
  dispatchCount := 0
  dispatchedAt := none
  expiresAt
  resultJson := none
  resultDeviceId := none
  completedAt := none

/-- An `INSERT` into the action table; its integrity errors become conflicts. -/
def insertAction (row : ActionRow) : Program Log Unit := fun database =>
  match database.actions.insert row with
  | some actions => .ok ((), { database with actions })
  | none => .error
      (.conflict "target device already has a live response action")

/-- The transaction of `propose`. -/
def proposeTransaction (principal : SessionPrincipal)
    (actionId caseId actionType deviceId rationale : String)
    (now expiresAt : Timestamp) : Program Log Unit := do
  requireCurrentCapability principal .proposeResponse now
  expireDue service principal.tenantId now (some deviceId)
  expireClosedCaseActions service principal.tenantId now (some deviceId)
  let database ← get
  Transaction.require
    (database.cases.any fun reference =>
      (reference.tenantId = principal.tenantId ∧ reference.caseId = caseId ∧
        reference.status ≠ .closed : Bool))
    (.notFound "response case is unavailable")
  Transaction.require
    (database.devices.any fun device =>
      (device.tenantId = principal.tenantId ∧ device.deviceId = deviceId ∧
        device.status = "active" : Bool))
    (.notFound "response target device is unavailable")
  insertAction (proposedRow principal actionId caseId actionType deviceId
    rationale now expiresAt)
  audit service (record principal.tenantId "response.proposed" "user"
    principal.userId actionId
    { members :=
        [("action_type", .str actionType), ("case_id", .str caseId),
          ("expires_at", .str (utcText expiresAt)),
          ("target_id", .str deviceId)] } now)

/-- What an operation returns, beside the new database. -/
abbrev Outcome (Log Value : Type) : Type :=
  Except ResponseError Value × Database Log

/-- Run a transaction and then read something from the committed database. -/
def commitThen {Value Result : Type} (program : Program Log Value)
    (after : Value → Database Log → Except ResponseError Result)
    (database : Database Log) : Outcome Log Result :=
  match program.commit database with
  | (.ok value, committed) => (after value committed, committed)
  | (.error failure, same) => (.error failure, same)

/-- Refuse before any transaction begins. -/
def checked {Result : Type} (check : Except ResponseError Unit)
    (operation : Database Log → Outcome Log Result)
    (database : Database Log) : Outcome Log Result :=
  match check with
  | .ok () => operation database
  | .error failure => (.error failure, database)

def bounded (text : String) (limit : Nat) : Bool :=
  1 ≤ text.length && text.length ≤ limit

def raiseUnless (condition : Bool) (failure : ResponseError) :
    Except ResponseError Unit :=
  if condition then .ok () else .error failure

def propose (principal : SessionPrincipal)
    (actionId caseId actionType deviceId rationale : String)
    (now : Timestamp) (expiresInSeconds : Int) :
    Database Log → Outcome Log ResponseAction :=
  checked (do
      requireCapability principal .proposeResponse
      raiseUnless (actionTypes.contains actionType)
        (.validation "response action type is not allowlisted")
      raiseUnless (bounded (Text.strip rationale) 500)
        (.validation
          "response rationale must contain between 1 and 500 characters")
      raiseUnless (60 ≤ expiresInSeconds && expiresInSeconds ≤ 900)
        (.validation "response proposal expiry must be 60 to 900 seconds"))
    (commitThen
      (proposeTransaction service principal actionId caseId actionType deviceId
        (Text.strip rationale) now (now + seconds expiresInSeconds))
      fun _ committed => getAction committed principal actionId)

/-- The transaction of `approve`; it returns whether the action expired. -/
def approveTransaction (principal : SessionPrincipal) (actionId : String)
    (now : Timestamp) : Program Log Bool := do
  requireCurrentCapability principal .approveResponse now
  let row ← requireAction principal.tenantId actionId
  Transaction.require (row.proposedBy ≠ principal.userId)
    (.authorization "response proposer cannot approve the action")
  if ← caseIsClosed row then
    expireOne service row now "case_closed"
    return true
  else if row.expiresAt ≤ now then
    expireOne service row now "deadline"
    return true
  else
    Transaction.require (row.status = .proposed)
      (.conflict "response action is not awaiting approval")
    let count ← updateActions true
      (fun stored =>
        stored.hasKey principal.tenantId actionId &&
          (stored.status = .proposed ∧ stored.proposedBy ≠ principal.userId ∧
            now < stored.expiresAt : Bool))
      (fun stored =>
        { stored with
          status := .approved
          approvedBy := some principal.userId
          approvedAt := some now })
    Transaction.require (count = 1)
      (.conflict "response approval lost an atomic race")
    audit service (record principal.tenantId "response.approved" "user"
      principal.userId actionId
      { members := [("proposed_by", .str row.proposedBy)] } now)
    return false

def approve (principal : SessionPrincipal) (actionId : String)
    (now : Timestamp) : Database Log → Outcome Log ResponseAction :=
  checked (requireCapability principal .approveResponse)
    (commitThen (approveTransaction service principal actionId now)
      fun expired committed =>
        if expired then
          .error (.expired "response proposal expired before approval")
        else getAction committed principal actionId)

/-- The transaction of `reject`; it returns whether the action expired. -/
def rejectTransaction (principal : SessionPrincipal)
    (actionId reason : String) (now : Timestamp) : Program Log Bool := do
  requireCurrentCapability principal .approveResponse now
  let row ← requireAction principal.tenantId actionId
  Transaction.require (row.proposedBy ≠ principal.userId)
    (.authorization "response proposer cannot reject the action")
  if row.expiresAt ≤ now then
    expireOne service row now "deadline"
    return true
  else
    Transaction.require (row.status = .proposed)
      (.conflict "response action is not awaiting review")
    let count ← updateActions true
      (fun stored =>
        stored.hasKey principal.tenantId actionId &&
          (stored.status = .proposed ∧ stored.proposedBy ≠ principal.userId ∧
            now < stored.expiresAt : Bool))
      (fun stored =>
        { stored with
          status := .rejected
          rejectedBy := some principal.userId
          rejectedAt := some now
          rejectionReason := some reason })
    Transaction.require (count = 1)
      (.conflict "response rejection lost an atomic race")
    audit service (record principal.tenantId "response.rejected" "user"
      principal.userId actionId { members := [("reason", .str reason)] } now)
    return false

def reject (principal : SessionPrincipal) (actionId reason : String)
    (now : Timestamp) : Database Log → Outcome Log ResponseAction :=
  checked (do
      requireCapability principal .approveResponse
      raiseUnless (bounded (Text.strip reason) 500)
        (.validation
          "rejection reason must contain between 1 and 500 characters"))
    (commitThen
      (rejectTransaction service principal actionId (Text.strip reason) now)
      fun expired committed =>
        if expired then
          .error (.expired "response proposal expired before review")
        else getAction committed principal actionId)

/-- `ORDER BY proposed_at DESC, action_id DESC`. -/
def newestFirst (left right : ActionRow) : Prop :=
  right.proposedAt < left.proposedAt ∨
    (left.proposedAt = right.proposedAt ∧ right.actionId ≤ left.actionId)

instance : DecidableRel newestFirst := fun left right => by
  unfold newestFirst
  infer_instance

def listTransaction (tenantId : String) (now : Timestamp) (limit : Nat) :
    Program Log (List ActionRow) := do
  expireDue service tenantId now none
  expireClosedCaseActions service tenantId now none
  let database ← get
  let rows := database.actions.rows.filter fun row => row.tenantId = tenantId
  return (rows.insertionSort newestFirst).take limit

def listActions (principal : SessionPrincipal) (now : Timestamp)
    (limit : Int) : Database Log → Outcome Log (List ResponseAction) :=
  checked (do
      requireCapability principal .view
      raiseUnless (1 ≤ limit && limit ≤ 200)
        (.validation "response query limit must be between 1 and 200"))
    (commitThen (listTransaction service principal.tenantId now limit.toNat)
      fun rows _ => rows.mapM responseAction)

/-! ## Device operations -/

/-- `ORDER BY r.approved_at, r.action_id`, absent times first. -/
def dispatchOrder (left right : ActionRow) : Prop :=
  match left.approvedAt, right.approvedAt with
  | none, some _ => True
  | some _, none => False
  | none, none => left.actionId ≤ right.actionId
  | some first, some second =>
      first < second ∨ (first = second ∧ left.actionId ≤ right.actionId)

instance : DecidableRel dispatchOrder := fun left right => by
  unfold dispatchOrder
  split <;> infer_instance

/-- The actions a poll hands out, at most twenty. -/
def dispatchable (device : AuthenticatedDevice) (now : Timestamp)
    (database : Database Log) : List ActionRow :=
  let rows := database.actions.rows.filter fun row =>
    (row.tenantId = device.tenantId ∧ row.targetType = "device" ∧
        row.targetId = device.deviceId : Bool) &&
      database.cases.any (fun reference =>
        reference.isCaseOf row && reference.status ≠ .closed) &&
      (row.status = .approved ∨ row.status = .dispatched : Bool) &&
      (now < row.expiresAt ∧
        row.dispatchCount < service.maxDispatchAttempts : Bool)
  (rows.insertionSort dispatchOrder).take 20

/-- The first dispatch of an action, or one more delivery of it. -/
def markDispatched (device : AuthenticatedDevice) (now : Timestamp)
    (row : ActionRow) : Program Log Nat :=
  if row.status = .approved then
    updateActions true
      (fun stored =>
        stored.hasKey device.tenantId row.actionId &&
          (stored.status = .approved ∧ now < stored.expiresAt : Bool))
      (fun stored =>
        { stored with
          status := .dispatched
          dispatchCount := 1
          dispatchedAt := some now })
  else
    updateActions false
      (fun stored =>
        stored.hasKey device.tenantId row.actionId &&
          (stored.status = .dispatched ∧
            stored.dispatchCount = row.dispatchCount ∧
            now < stored.expiresAt : Bool))
      (fun stored => { stored with dispatchCount := row.dispatchCount + 1 })

def dispatchRecord (device : AuthenticatedDevice) (now : Timestamp)
    (row : ActionRow) : AuditRecord :=
  if row.status = .approved then
    record device.tenantId "response.dispatched" "device" device.deviceId
      row.actionId { members := [("dispatch_count", .int 1)] } now
  else
    record device.tenantId "response.dispatch_retried" "device"
      device.deviceId row.actionId
      { members := [("dispatch_count", .int (row.dispatchCount + 1))] } now

/-- One round of the loop of `poll_device`. -/
def dispatchOne (device : AuthenticatedDevice) (now : Timestamp)
    (row : ActionRow) : Program Log AgentResponseAction := do
  let count ← markDispatched device now row
  Transaction.require (count = 1)
    (.conflict "response dispatch lost an atomic race")
  audit service (dispatchRecord device now row)
  Transaction.ofExcept (agentAction row)

def pollTransaction (device : AuthenticatedDevice) (now : Timestamp) :
    Program Log (List AgentResponseAction) := do
  expireDue service device.tenantId now (some device.deviceId)
  expireClosedCaseActions service device.tenantId now (some device.deviceId)
  let database ← get
  (dispatchable service device now database).mapM
    (dispatchOne service device now)

/-- Continue with the authenticated device. -/
def authenticated {Result : Type}
    (verdict : Except CollectorError AuthenticatedDevice)
    (operation : AuthenticatedDevice → Database Log → Outcome Log Result)
    (database : Database Log) : Outcome Log Result :=
  match verdict with
  | .ok device => operation device database
  | .error failure => (.error (.authentication failure), database)

def pollDevice (verdict : Except CollectorError AuthenticatedDevice)
    (requestedDeviceId : String) (now : Timestamp) :
    Database Log → Outcome Log (List AgentResponseAction) :=
  authenticated verdict fun device =>
    checked
      (raiseUnless (requestedDeviceId = device.deviceId)
        (.deviceActionBinding
          "collector action poll target does not match credential"))
      (commitThen (pollTransaction service device now)
        fun dispatched _ => .ok dispatched)

/-- The status a device may report. -/
def resultStatus (status : String) : Option ActionStatus :=
  if status = "succeeded" then some .succeeded
  else if status = "failed" then some .failed
  else none

/-- The recorded form of a result. -/
def resultJson (status summary : String) (evidence : List String) : String :=
  Json.dumps false (Json.sortKeys (.obj [
    ("evidence", .arr (evidence.map .str)),
    ("status", .str status),
    ("summary", .str summary)]))

/-- The transaction of `submit_device_result`: whether the action expired and
whether anything changed. -/
def submitTransaction (device : AuthenticatedDevice)
    (actionId statusText : String) (status : ActionStatus) (summary : String)
    (evidence : List String) (now : Timestamp) :
    Program Log (Bool × Bool) := do
  let text := resultJson statusText summary evidence
  let row ← requireAction device.tenantId actionId
  Transaction.require
    (row.targetType = "device" ∧ row.targetId = device.deviceId)
    (.deviceActionBinding "collector result does not match the response target")
  if row.status = .succeeded ∨ row.status = .failed then
    Transaction.require
      (row.status = status ∧ row.resultDeviceId = some device.deviceId ∧
        row.resultJson = some text)
      (.conflict "response action already has a different result")
    return (false, false)
  else if row.status = .dispatched ∧ row.expiresAt ≤ now then
    expireOne service row now "deadline"
    return (true, true)
  else
    Transaction.require (row.status = .dispatched)
      (.conflict "response action was not dispatched")
    let count ← updateActions true
      (fun stored =>
        stored.hasKey device.tenantId actionId &&
          (stored.status = .dispatched ∧ stored.targetType = "device" ∧
            stored.targetId = device.deviceId ∧ now < stored.expiresAt : Bool))
      (fun stored =>
        { stored with
          status
          resultJson := some text
          resultDeviceId := some device.deviceId
          completedAt := some now })
    Transaction.require (count = 1)
      (.conflict "response result lost an atomic race")
    audit service (record device.tenantId ("response." ++ statusText) "device"
      device.deviceId actionId
      { members :=
          [("evidence", .arr (evidence.map .str)), ("summary", .str summary)] }
      now)
    return (false, true)

/-- The evidence bound: at most 20 items of 1 to 256 characters. -/
def evidenceBounded (evidence : List String) : Bool :=
  evidence.length ≤ 20 &&
    evidence.all fun item => bounded (Text.strip item) 256

/-- The checks on the content of a result. -/
def resultChecks (summary : String) (evidence : List String) :
    Except ResponseError Unit := do
  raiseUnless (bounded (Text.strip summary) 500)
    (.validation
      "response result summary must contain between 1 and 500 characters")
  raiseUnless (evidenceBounded evidence)
    (.validation "response evidence is outside the bounded contract")

def submitDeviceResult (verdict : Except CollectorError AuthenticatedDevice)
    (actionId statusText summary : String) (evidence : List String)
    (now : Timestamp) : Database Log → Outcome Log ResponseResult :=
  authenticated verdict fun device =>
    match resultStatus statusText with
    | none => fun database =>
        (.error (.validation "response result status is invalid"), database)
    | some status =>
        checked (resultChecks summary evidence)
          (commitThen
            (submitTransaction service device actionId statusText status
              (Text.strip summary) (evidence.map Text.strip) now)
            fun (expired, changed) _ =>
              if expired then
                .error (.expired
                  "response action expired before its result arrived")
              else .ok ⟨actionId, statusText, changed⟩)

end Operations

/-! ## Operations and runs -/

/-- One call of the service, or a change of everything the service does not
own. -/
inductive Operation (Log : Type) where
  | propose (principal : SessionPrincipal)
      (actionId caseId actionType deviceId rationale : String)
      (now : Timestamp) (expiresInSeconds : Int)
  | approve (principal : SessionPrincipal) (actionId : String)
      (now : Timestamp)
  | reject (principal : SessionPrincipal) (actionId reason : String)
      (now : Timestamp)
  | get (principal : SessionPrincipal) (actionId : String)
  | listActions (principal : SessionPrincipal) (now : Timestamp) (limit : Int)
  | pollDevice (verdict : Except CollectorError AuthenticatedDevice)
      (requestedDeviceId : String) (now : Timestamp)
  | submitDeviceResult (verdict : Except CollectorError AuthenticatedDevice)
      (actionId status summary : String) (evidence : List String)
      (now : Timestamp)
  | environment (cases : List CaseRef) (devices : List DeviceRef)
      (identity : IdentityTables) (audit : Log)

inductive Reply where
  | action (value : ResponseAction)
  | actions (values : List ResponseAction)
  | dispatched (values : List AgentResponseAction)
  | result (value : ResponseResult)
  | done

/-- Tag the value an operation returns. -/
def Outcome.tag {Log Value : Type} (wrap : Value → Reply)
    (outcome : Outcome Log Value) : Outcome Log Reply :=
  (outcome.1.map wrap, outcome.2)

def execute {Log : Type} (service : Service Log) (database : Database Log) :
    Operation Log → Outcome Log Reply
  | .propose principal actionId caseId actionType deviceId rationale now
      expiresInSeconds =>
      (propose service principal actionId caseId actionType deviceId rationale
        now expiresInSeconds database).tag .action
  | .approve principal actionId now =>
      (approve service principal actionId now database).tag .action
  | .reject principal actionId reason now =>
      (reject service principal actionId reason now database).tag .action
  | .get principal actionId =>
      Outcome.tag .action (getAction database principal actionId, database)
  | .listActions principal now limit =>
      (listActions service principal now limit database).tag .actions
  | .pollDevice verdict requestedDeviceId now =>
      (pollDevice service verdict requestedDeviceId now database).tag
        .dispatched
  | .submitDeviceResult verdict actionId status summary evidence now =>
      (submitDeviceResult service verdict actionId status summary evidence now
        database).tag .result
  | .environment cases devices identity audit =>
      (.ok .done, { database with cases, devices, identity, audit })

end Response

end ControlForge
