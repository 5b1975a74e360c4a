import ControlForge.Foundation.Interleaving
import ControlForge.Foundation.OrderBy
import ControlForge.Response.Tables

/-!
# Response actions of the cloud runtime

A collector polls for the actions that target its device: one statement selects
a page of them, and another one marks what was approved as dispatched.  Humans
propose and decide actions, and collectors report results, at the same time.

A request is suspended before each of its statements, and between two of its
readings of the clock.  The clock never runs backwards.
-/

namespace ControlForge

namespace Cloud

namespace Dispatch

open Response (ActionStatus)

/-! ## The table -/

inductive ActionType where
  | collectDiagnostics
  | enrichIndicator
  | isolateEndpoint
  | releaseEndpoint
  | disableIdentity
  | revokeSessions
deriving DecidableEq, Repr

inductive TargetType where
  | device
  | identity
  | indicator
deriving DecidableEq, Repr

inductive RiskLevel where
  | readOnly
  | active
  | highImpact
deriving DecidableEq, Repr

/-- A row of `response_actions`. -/
structure ActionRow where
  tenantId : String
  actionId : String
  caseId : String
  actionType : ActionType
  targetType : TargetType
  targetId : String
  rationale : String
  riskLevel : RiskLevel
  status : ActionStatus
  proposedBy : String
  proposedAt : Timestamp
  approvedBy : Option String
  approvedAt : Option Timestamp
  expiresAt : Timestamp
  /-- The summary and the evidence of a result. -/
  resultJson : Option (String × List String)
  completedAt : Option Timestamp
deriving DecidableEq

namespace ActionRow

def hasKey (tenantId actionId : String) (row : ActionRow) : Bool :=
  row.tenantId = tenantId ∧ row.actionId = actionId

def clash (left right : ActionRow) : Bool :=
  left.hasKey right.tenantId right.actionId

/-- The action targets something with the id of the device. -/
def targets (tenantId deviceId : String) (row : ActionRow) : Bool :=
  row.tenantId = tenantId ∧ row.targetId = deviceId

end ActionRow

structure Database where
  actions : Table ActionRow ActionRow.clash
  clock : Timestamp

/-- An update of rows that keeps their keys. -/
def Database.update (selected : ActionRow → Bool) (change : ActionRow → ActionRow)
    (same : ∀ row, (change row).tenantId = row.tenantId ∧
      (change row).actionId = row.actionId) (database : Database) :
    Database :=
  { database with
    actions := database.actions.mapRows (Table.applyWhere selected change) (by
      intro left right
      have kept (row : ActionRow) :
          (Table.applyWhere selected change row).tenantId = row.tenantId ∧
            (Table.applyWhere selected change row).actionId =
              row.actionId := by
        unfold Table.applyWhere
        split
        · exact same row
        · exact ⟨rfl, rfl⟩
      simp only [ActionRow.clash, ActionRow.hasKey, (kept left).1,
        (kept left).2, (kept right).1, (kept right).2]) }

/-! ## Requests -/

/-- What a resumption reads from its surroundings: a random identifier, and
whether the case of a proposal is open. -/
structure Input where
  uuid : String
  openCase : Bool

/-- The columns a poll hands out. -/
structure HandedAction where
  actionId : String
  actionType : ActionType
  targetType : TargetType
  targetId : String
  rationale : String
  riskLevel : RiskLevel
  expiresAt : Timestamp
deriving DecidableEq

def ActionRow.handed (row : ActionRow) : HandedAction where
  actionId := row.actionId
  actionType := row.actionType
  targetType := row.targetType
  targetId := row.targetId
  rationale := row.rationale
  riskLevel := row.riskLevel
  expiresAt := row.expiresAt

/-- What a resumption has committed or returned. -/
inductive Effect where
  | none
  /-- `jsonError`. -/
  | refused (status : Nat) (error : String)
  /-- An `AuthorizationError`, or an error of the database. -/
  | thrown (message : String)
  | proposed (actionId : String) (status : ActionStatus)
  | decided (actionId : String) (status : ActionStatus)
  /-- The response of a poll. -/
  | handed (tenantId deviceId : String) (actions : List HandedAction)
  | recorded (actionId : String) (status : ActionStatus)
deriving DecidableEq

/-! ### Proposals -/

/-- `actionRisk`. -/
def ActionType.risk : ActionType → RiskLevel
  | .collectDiagnostics | .enrichIndicator => .readOnly
  | .isolateEndpoint | .releaseEndpoint => .active
  | .disableIdentity | .revokeSessions => .highImpact

def ActionType.requiredTarget : ActionType → TargetType
  | .enrichIndicator => .indicator
  | .disableIdentity | .revokeSessions => .identity
  | .collectDiagnostics | .isolateEndpoint | .releaseEndpoint => .device

/-- What `actionProposalSchema` accepts, apart from the lengths of texts. -/
structure ActionProposal where
  actionType : ActionType
  targetType : TargetType
  targetId : String
  rationale : String
  expiresInMinutes : Nat
  required : targetType = actionType.requiredTarget
  bounded : 5 ≤ expiresInMinutes ∧ expiresInMinutes ≤ 1440

structure ProposalRequest where
  tenantId : String
  principalId : String
  caseId : String
  /-- The role has the capability `propose_active_action`. -/
  proposesActive : Bool
  proposal : ActionProposal

inductive ProposalPoint where
  | findCase
  | stamp
  | check (actionId : String) (proposedAt : Timestamp)
  | insert (row : ActionRow)
  | finished

def ProposalRequest.row (request : ProposalRequest) (actionId : String)
    (proposedAt expiresAt : Timestamp) : ActionRow :=
  let risk := request.proposal.actionType.risk
  { tenantId := request.tenantId
    actionId
    caseId := request.caseId
    actionType := request.proposal.actionType
    targetType := request.proposal.targetType
    targetId := request.proposal.targetId
    rationale := request.proposal.rationale
    riskLevel := risk
    status := if risk = .readOnly then .approved else .proposed
    proposedBy := request.principalId
    proposedAt
    approvedBy := if risk = .readOnly then some "policy:auto-read-only" else none
    approvedAt := if risk = .readOnly then some proposedAt else none
    expiresAt
    resultJson := none
    completedAt := none }

/-- `POST /v1/cases/:caseId/actions`. -/
def ProposalRequest.resume (request : ProposalRequest) (input : Input)
    (point : ProposalPoint) (database : Database) :
    ProposalPoint × Database × Effect :=
  match point with
  | .findCase =>
      if input.openCase then (.stamp, database, .none)
      else (.finished, database, .refused 404 "open case not found")
  | .stamp => (.check input.uuid database.clock, database, .none)
  | .check actionId proposedAt =>
      let expiresAt :=
        database.clock + seconds (60 * request.proposal.expiresInMinutes)
      let row := request.row actionId proposedAt expiresAt
      if row.riskLevel ≠ .readOnly ∧ request.proposesActive = false then
        (.finished, database,
          .thrown "principal role cannot propose active response")
      else (.insert row, database, .none)
  | .insert row =>
      match database.actions.insert row with
      | none => (.finished, database, .thrown "UNIQUE constraint failed")
      | some actions =>
          (.finished, { database with actions },
            .proposed row.actionId row.status)
  | .finished => (.finished, database, .none)

/-! ### Decisions -/

structure DecisionRequest where
  tenantId : String
  principalId : String
  actionId : String
  approve : Bool

/-- The columns the decision reads. -/
structure AwaitedAction where
  proposedBy : String
  riskLevel : RiskLevel
  status : ActionStatus
  expiresAt : Timestamp

inductive DecisionPoint where
  | load
  | check (action : AwaitedAction)
  | stamp
  | write (decidedAt : Timestamp)
  | finished

namespace DecisionRequest

variable (request : DecisionRequest)

def status : ActionStatus :=
  if request.approve then .approved else .rejected

/-- `WHERE tenant_id = ? AND action_id = ? AND status = 'proposed'
AND expires_at > ?`. -/
def selects (decidedAt : Timestamp) (row : ActionRow) : Bool :=
  row.hasKey request.tenantId request.actionId &&
    (row.status = .proposed ∧ decidedAt < row.expiresAt : Bool)

def change (decidedAt : Timestamp) (row : ActionRow) : ActionRow :=
  { row with
    status := request.status
    approvedBy := some request.principalId
    approvedAt := some decidedAt }

/-- `POST /v1/actions/:actionId/decision`. -/
def resume (point : DecisionPoint) (database : Database) :
    DecisionPoint × Database × Effect :=
  match point with
  | .load =>
      match database.actions.rows.find?
          (·.hasKey request.tenantId request.actionId) with
      | none => (.finished, database, .refused 404 "response action not found")
      | some row =>
          (.check ⟨row.proposedBy, row.riskLevel, row.status, row.expiresAt⟩,
            database, .none)
  | .check action =>
      if action.status ≠ .proposed then
        (.finished, database,
          .refused 409 "response action is not awaiting a decision")
      else if action.expiresAt ≤ database.clock then
        (.finished, database, .refused 409 "response action has expired")
      else if action.riskLevel ≠ .readOnly ∧
          action.proposedBy = request.principalId then
        (.finished, database,
          .refused 409 "active response requires approval by a second principal")
      else (.stamp, database, .none)
  | .stamp => (.write database.clock, database, .none)
  | .write decidedAt =>
      let changed := database.actions.rows.countP (request.selects decidedAt)
      let next := database.update (request.selects decidedAt)
        (request.change decidedAt) fun _ => ⟨rfl, rfl⟩
      if changed = 1 then
        (.finished, next, .decided request.actionId request.status)
      else
        (.finished, next,
          .refused 409 "response action is no longer awaiting a decision")
  | .finished => (.finished, database, .none)

end DecisionRequest

/-! ### Polls -/

/-- The collector that signed a request, as `requireCollector` returns it. -/
structure Collector where
  tenantId : Option String
  deviceId : Option String

/-- The tenant and the device; the empty text is false. -/
def Collector.bound (collector : Collector) : Option (String × String) :=
  match collector.tenantId, collector.deviceId with
  | some tenantId, some deviceId =>
      if tenantId = "" ∨ deviceId = "" then none else some (tenantId, deviceId)
  | _, _ => none

def validDeviceId (deviceId : String) : Bool :=
  !deviceId.toList.isEmpty && decide (deviceId.length ≤ 128) &&
    deviceId.toList.all fun character =>
      character.isAlphanum || ['.', '_', ':', '-'].contains character

structure PollRequest where
  collector : Collector
  deviceId : Option String

inductive PollPoint where
  | authorize
  | select (tenantId deviceId : String) (now : Timestamp)
  | mark (tenantId deviceId : String) (selected : List HandedAction)
  | finished

/-- The condition of the first statement. -/
def isDispatchable (tenantId deviceId : String) (now : Timestamp)
    (row : ActionRow) : Bool :=
  row.targets tenantId deviceId && (row.targetType = .device : Bool) &&
    (row.status = .approved ∨ row.status = .dispatched : Bool) &&
    (now < row.expiresAt : Bool)

/-- `ORDER BY proposed_at LIMIT 20`. -/
def dispatchable (tenantId deviceId : String) (now : Timestamp)
    (rows : List ActionRow) : List ActionRow :=
  (orderBy ActionRow.proposedAt
    (rows.filter (isDispatchable tenantId deviceId now))).take 20

/-- The condition of the second statement. -/
def isMarked (tenantId deviceId : String) (row : ActionRow) : Bool :=
  row.targets tenantId deviceId && (row.status = .approved : Bool)

def dispatched (row : ActionRow) : ActionRow :=
  { row with status := .dispatched }

/-- `GET /v1/agent/actions`. -/
def PollRequest.resume (request : PollRequest) (point : PollPoint)
    (database : Database) : PollPoint × Database × Effect :=
  match point with
  | .authorize =>
      match request.collector.bound with
      | none =>
          (.finished, database,
            .thrown "collector has no bound tenant and device")
      | some (tenantId, boundDevice) =>
          let deviceId := request.deviceId.getD ""
          if validDeviceId deviceId = false then
            (.finished, database, .refused 400 "valid device_id is required")
          else if deviceId ≠ boundDevice then
            (.finished, database,
              .thrown
                "collector may retrieve actions only for its bound device")
          else (.select tenantId deviceId database.clock, database, .none)
  | .select tenantId deviceId now =>
      match dispatchable tenantId deviceId now database.actions.rows with
      | [] => (.finished, database, .handed tenantId deviceId [])
      | rows =>
          (.mark tenantId deviceId (rows.map ActionRow.handed), database, .none)
  | .mark tenantId deviceId selected =>
      (.finished,
        database.update (isMarked tenantId deviceId) dispatched
          (fun _ => ⟨rfl, rfl⟩),
        .handed tenantId deviceId selected)
  | .finished => (.finished, database, .none)

/-! ### Results -/

structure ResultRequest where
  collector : Collector
  actionId : String
  succeeded : Bool
  summary : String
  evidence : List String

inductive ResultPoint where
  | authorize
  | write (tenantId deviceId : String) (completedAt : Timestamp)
  | finished

namespace ResultRequest

variable (request : ResultRequest)

def status : ActionStatus :=
  if request.succeeded then .succeeded else .failed

def selects (tenantId deviceId : String) (row : ActionRow) : Bool :=
  row.hasKey tenantId request.actionId && (row.targetType = .device : Bool) &&
    (row.targetId = deviceId : Bool) && (row.status = .dispatched : Bool)

def change (completedAt : Timestamp) (row : ActionRow) : ActionRow :=
  { row with
    status := request.status
    resultJson := some (request.summary, request.evidence)
    completedAt := some completedAt }

/-- `POST /v1/agent/actions/:actionId/result`. -/
def resume (point : ResultPoint) (database : Database) :
    ResultPoint × Database × Effect :=
  match point with
  | .authorize =>
      match request.collector.bound with
      | none =>
          (.finished, database,
            .thrown "collector has no bound tenant and device")
      | some (tenantId, deviceId) =>
          (.write tenantId deviceId database.clock, database, .none)
  | .write tenantId deviceId completedAt =>
      let changed :=
        database.actions.rows.countP (request.selects tenantId deviceId)
      let next := database.update (request.selects tenantId deviceId)
        (request.change completedAt) fun _ => ⟨rfl, rfl⟩
      if changed = 1 then
        (.finished, next, .recorded request.actionId request.status)
      else
        (.finished, next, .refused 404 "dispatched response action not found")
  | .finished => (.finished, database, .none)

end ResultRequest

/-! ## The runtime -/

inductive Process where
  | idle
  | proposal (request : ProposalRequest) (point : ProposalPoint)
  | decision (request : DecisionRequest) (point : DecisionPoint)
  | poll (request : PollRequest) (point : PollPoint)
  | result (request : ResultRequest) (point : ResultPoint)

inductive Process.Starts : Process → Prop
  | proposal (request : ProposalRequest) : Starts (.proposal request .findCase)
  | decision (request : DecisionRequest) : Starts (.decision request .load)
  | poll (request : PollRequest) : Starts (.poll request .authorize)
  | result (request : ResultRequest) : Starts (.result request .authorize)

def Process.resume (input : Input) (process : Process) (database : Database) :
    Process × Database × Effect :=
  match process with
  | .idle => (.idle, database, .none)
  | .proposal request point =>
      let (next, database, effect) := request.resume input point database
      (.proposal request next, database, effect)
  | .decision request point =>
      let (next, database, effect) := request.resume point database
      (.decision request next, database, effect)
  | .poll request point =>
      let (next, database, effect) := request.resume point database
      (.poll request next, database, effect)
  | .result request point =>
      let (next, database, effect) := request.resume point database
      (.result request next, database, effect)

/-- The scheduled statement that expires actions. -/
def isOverdue (now : Timestamp) (row : ActionRow) : Bool :=
  row.status.live && (row.expiresAt < now : Bool)

def expired (row : ActionRow) : ActionRow :=
  { row with status := .expired }

inductive Outside (database : Database) : Database → Prop
  /-- Time passes. -/
  | tick {clock : Timestamp} (later : database.clock ≤ clock) :
      Outside database { database with clock }
  /-- The scheduled handler, with the clock it has read. -/
  | expire {now : Timestamp} (read : now ≤ database.clock) :
      Outside database
        (database.update (isOverdue now) expired fun _ => ⟨rfl, rfl⟩)

def procedure : Procedure Database Process Input Effect where
  idle := .idle
  starts := Process.Starts
  resume := Process.resume
  outside := Outside

/-- No action has been proposed yet. -/
def Empty (database : Database) : Prop :=
  database.actions.rows = []

def system : TransitionSystem (Pool Database Process) (PoolLabel Input Effect) :=
  procedure.system Empty

end Dispatch

end Cloud

end ControlForge
