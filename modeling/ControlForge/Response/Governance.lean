import ControlForge.Foundation.Transition
import ControlForge.Response.Lifecycle

/-!
# Governance of response actions over whole runs

The runs start with no response action and interleave the operations of the
service, by any principals and devices, with arbitrary changes of the tables
the service does not own.
-/

namespace ControlForge

namespace Response

open Devices (AuthenticatedDevice)

variable {Log : Type}

/-- An operation and what it returned. -/
abbrev Entry (Log : Type) : Type :=
  Operation Log × Except ResponseError Reply

def system (service : Service Log) :
    TransitionSystem (Database Log) (Entry Log) where
  initial database := database.actions.rows = []
  step database entry next := execute service database entry.1 = (entry.2, next)

/-! ## The invariant of a row -/

/-- What a reviewed action records: an approver other than the proposer, and
an approval in time. -/
def ApprovedIndependently (row : ActionRow) : Prop :=
  ∃ approver time, row.approvedBy = some approver ∧
    approver ≠ row.proposedBy ∧ row.approvedAt = some time ∧
    time < row.expiresAt

structure RowInvariant (service : Service Log) (row : ActionRow) : Prop where
  targetsDevice : row.targetType = "device"
  approved : row.status = .approved ∨ row.status = .dispatched ∨
    row.status = .succeeded ∨ row.status = .failed → ApprovedIndependently row
  bounded : row.dispatchCount ≤ service.maxDispatchAttempts
  undispatched : row.status = .proposed ∨ row.status = .approved ∨
    row.status = .rejected → row.dispatchCount = 0

theorem rowInvariant_fresh {service : Service Log} {operation : Operation Log}
    {row : ActionRow} (isFresh : Fresh operation row) :
    RowInvariant service row := by
  obtain ⟨principal, actionId, caseId, actionType, deviceId, rationale, now,
    expiry, -, rfl⟩ := isFresh
  constructor <;> simp [proposedRow]

theorem resultStatus_completed {statusText : String} {status : ActionStatus}
    (reported : resultStatus statusText = some status) :
    status = .succeeded ∨ status = .failed := by
  unfold resultStatus at reported
  split at reported
  · exact .inl (Option.some.inj reported).symm
  · split at reported
    · exact .inr (Option.some.inj reported).symm
    · cases reported

theorem rowInvariant_change {service : Service Log}
    {operation : Operation Log} {handedOut : List String}
    {old new : ActionRow} (invariant : RowInvariant service old)
    (change : Change service operation handedOut old new) :
    RowInvariant service new := by
  obtain ⟨targetsDevice, approved, bounded, undispatched⟩ := invariant
  have positive := service.admitted.1
  cases change with
  | expire isLive =>
      exact ⟨targetsDevice, by simp, bounded, by simp⟩
  | approve isOperation proposed independent inTime =>
      refine ⟨targetsDevice, fun _ => ?_, bounded, fun _ => ?_⟩
      · exact ⟨_, _, rfl, Ne.symm independent, rfl, inTime⟩
      · exact undispatched (.inl proposed)
  | reject isOperation proposed independent inTime =>
      exact ⟨targetsDevice, by simp, bounded, fun _ =>
        undispatched (.inl proposed)⟩
  | dispatch isOperation ownTenant handed isApproved inTime =>
      exact ⟨targetsDevice, fun _ => approved (.inl isApproved), positive,
        by simp⟩
  | redispatch isOperation ownTenant handed dispatched inTime belowLimit =>
      refine ⟨targetsDevice, approved, belowLimit, ?_⟩
      simp [dispatched]
  | complete isOperation reported key ownTarget dispatched inTime =>
      refine ⟨targetsDevice, fun _ => approved (.inr (.inl dispatched)),
        bounded, ?_⟩
      rcases resultStatus_completed reported with rfl | rfl <;> simp

/-! ## One step, seen from a stored action -/

/-- The operation is a result submitted in time by the device of the action. -/
def SubmittedByTarget (operation : Operation Log) (old : ActionRow)
    (status : ActionStatus) : Prop :=
  ∃ device statusText summary evidence now,
    operation = .submitDeviceResult (.ok device) old.actionId statusText
      summary evidence now ∧
    device.tenantId = old.tenantId ∧ device.deviceId = old.targetId ∧
    resultStatus statusText = some status ∧ now < old.expiresAt

/-- What a step may do to a stored action. -/
structure Continues (operation : Operation Log) (old new : ActionRow) :
    Prop where
  sameIdentity : new.sameIdentity old = true
  countMonotone : old.dispatchCount ≤ new.dispatchCount
  terminalUnchanged : old.status.terminal = true → new = old
  completion : new.status = .succeeded ∨ new.status = .failed →
    new = old ∨
      (old.status = .dispatched ∧ SubmittedByTarget operation old new.status)

section Change

variable {service : Service Log} {operation : Operation Log}
  {handedOut : List String} {old new : ActionRow}

theorem Change.live (change : Change service operation handedOut old new) :
    old.status.live = true := by
  cases change with
  | expire isLive => exact isLive
  | approve _ status | reject _ status | dispatch _ _ _ status
  | redispatch _ _ _ status | complete _ _ _ _ status =>
      rw [status]
      rfl

theorem Change.sameIdentity
    (change : Change service operation handedOut old new) :
    new.sameIdentity old = true := by
  cases change <;> simp [ActionRow.sameIdentity]

theorem Change.countMonotone (invariant : RowInvariant service old)
    (change : Change service operation handedOut old new) :
    old.dispatchCount ≤ new.dispatchCount := by
  cases change with
  | dispatch _ _ _ isApproved =>
      have zero := invariant.undispatched (.inr (.inl isApproved))
      simp [zero]
  | redispatch => exact Nat.le_succ _
  | expire | approve | reject | complete => exact Nat.le_refl _

theorem sameIdentity_trans {first second third : ActionRow}
    (left : second.sameIdentity first = true)
    (right : third.sameIdentity second = true) :
    third.sameIdentity first = true := by
  simp only [ActionRow.sameIdentity, decide_eq_true_eq] at left right ⊢
  simp [left, right]

/-- A terminal action is where its changes end. -/
theorem reached_of_terminal
    (reached : Relation.ReflTransGen (Change service operation handedOut)
      old new)
    (terminal : old.status.terminal = true) : new = old := by
  rcases Relation.ReflTransGen.cases_head reached with same | ⟨middle, change, -⟩
  · exact same.symm
  · simp [ActionStatus.terminal, change.live] at terminal

theorem Change.completion
    (change : Change service operation handedOut old new)
    (completed : new.status = .succeeded ∨ new.status = .failed) :
    old.status = .dispatched ∧
      SubmittedByTarget operation old new.status := by
  cases change with
  | expire | approve | reject | dispatch => simp at completed
  | redispatch _ _ _ dispatched => simp [dispatched] at completed
  | complete isOperation reported key ownTarget dispatched inTime =>
      simp only [ActionRow.hasKey, decide_eq_true_eq] at key
      rw [← key.2] at isOperation
      exact ⟨dispatched, _, _, _, _, _, isOperation, key.1.symm,
        ownTarget.2.symm, reported, inTime⟩

/-- Within one operation nothing is dispatched and then completed. -/
theorem reached_completion
    (reached : Relation.ReflTransGen (Change service operation handedOut)
      old new)
    (completed : new.status = .succeeded ∨ new.status = .failed) :
    new = old ∨
      (old.status = .dispatched ∧
        SubmittedByTarget operation old new.status) := by
  induction reached using Relation.ReflTransGen.head_induction_on with
  | refl => exact .inl rfl
  | @head first middle change rest induction =>
      right
      rcases induction with same | ⟨dispatched, submitted⟩
      · rw [same] at completed ⊢
        exact change.completion completed
      · obtain ⟨_, _, _, _, _, isSubmit, -⟩ := submitted
        cases change with
        | expire | approve | reject => cases dispatched
        | dispatch isOperation | redispatch isOperation =>
            rw [isOperation] at isSubmit
            cases isSubmit
        | complete _ reported =>
            rcases resultStatus_completed reported with rfl | rfl <;>
              cases dispatched

theorem reached_continues (invariant : RowInvariant service old)
    (reached : Relation.ReflTransGen (Change service operation handedOut)
      old new) :
    RowInvariant service new ∧ Continues operation old new := by
  have kept : RowInvariant service new ∧ new.sameIdentity old = true ∧
      old.dispatchCount ≤ new.dispatchCount := by
    induction reached with
    | refl =>
        exact ⟨invariant, by simp [ActionRow.sameIdentity], Nat.le_refl _⟩
    | tail _ change induction =>
        obtain ⟨middleInvariant, same, monotone⟩ := induction
        exact ⟨rowInvariant_change middleInvariant change,
          sameIdentity_trans same change.sameIdentity,
          Nat.le_trans monotone (change.countMonotone middleInvariant)⟩
  exact ⟨kept.1, kept.2.1, kept.2.2, reached_of_terminal reached,
    reached_completion reached⟩

end Change

/-! ## The invariant of a run -/

/-- Some poll of the trace handed the action to a device of its tenant. -/
def Polled (trace : List (Entry Log)) (tenantId actionId : String) : Prop :=
  ∃ device requestedDeviceId now actions,
    (.pollDevice (.ok device) requestedDeviceId now,
      .ok (.dispatched actions)) ∈ trace ∧
    device.tenantId = tenantId ∧ actionId ∈ actions.map (·.actionId)

theorem Polled.append {trace : List (Entry Log)} {tenantId actionId : String}
    (polled : Polled trace tenantId actionId) (entry : Entry Log) :
    Polled (trace ++ [entry]) tenantId actionId := by
  obtain ⟨device, requested, now, actions, member, rest⟩ := polled
  exact ⟨device, requested, now, actions, List.mem_append_left _ member, rest⟩

theorem polled_of_handedOut {trace : List (Entry Log)}
    {operation : Operation Log} {reply : Except ResponseError Reply}
    {device : AuthenticatedDevice} {requestedDeviceId actionId : String}
    {now : Timestamp}
    (isOperation : operation = .pollDevice (.ok device) requestedDeviceId now)
    (handed : actionId ∈ handedOut reply) :
    Polled (trace ++ [(operation, reply)]) device.tenantId actionId := by
  unfold handedOut at handed
  split at handed
  · next actions =>
      exact ⟨device, requestedDeviceId, now, actions, by simp [isOperation],
        rfl, handed⟩
  · cases handed

structure RunInvariant (service : Service Log) (trace : List (Entry Log))
    (database : Database Log) : Prop where
  rows : ∀ row ∈ database.actions.rows, RowInvariant service row
  polled : ∀ row ∈ database.actions.rows,
    row.dispatchCount ≠ 0 → Polled trace row.tenantId row.actionId

theorem runInvariant_step {service : Service Log} {trace : List (Entry Log)}
    {database next : Database Log} {entry : Entry Log}
    (invariant : RunInvariant service trace database)
    (step : (system service).step database entry next) :
    RunInvariant service (trace ++ [entry]) next := by
  obtain ⟨operation, reply⟩ := entry
  have advances := execute_advances service database operation
  have executed : execute service database operation = (reply, next) := step
  rw [executed] at advances
  constructor
  · exact Evolves.forall_mem (fun _ => rowInvariant_fresh)
      (fun _ _ => rowInvariant_change) advances invariant.rows
  · refine Evolves.forall_mem ?_ ?_ advances fun row member dispatched =>
      (invariant.polled row member dispatched).append _
    · rintro row ⟨_, _, _, _, _, _, _, _, -, rfl⟩ dispatched
      simp [proposedRow] at dispatched
    · intro old new polled change dispatched
      cases change with
      | expire | approve | reject | complete => exact polled dispatched
      | dispatch isOperation ownTenant handed =>
          rw [ownTenant]
          exact polled_of_handedOut isOperation handed
      | redispatch isOperation ownTenant handed =>
          rw [ownTenant]
          exact polled_of_handedOut isOperation handed

theorem runInvariant_run {service : Service Log} {start finish : Database Log}
    {trace : List (Entry Log)} (empty : start.actions.rows = [])
    (run : (system service).Run start trace finish) :
    RunInvariant service trace finish := by
  refine run.historyInvariant ?_ fun invariant _ step =>
    runInvariant_step invariant step
  constructor <;> simp [empty]

/-- Two live actions on one device are the same action: the index sees to it,
since every action targets a device. -/
theorem oneLive {service : Service Log} {trace : List (Entry Log)}
    {database : Database Log}
    (invariant : RunInvariant service trace database)
    {left right : ActionRow} (leftMember : left ∈ database.actions.rows)
    (rightMember : right ∈ database.actions.rows)
    (leftLive : left.status.live = true) (rightLive : right.status.live = true)
    (sameTarget : left.tenantId = right.tenantId ∧
      left.targetId = right.targetId) : left = right := by
  have leftDevice := (invariant.rows left leftMember).targetsDevice
  have rightDevice := (invariant.rows right rightMember).targetsDevice
  refine Table.eq_of_clash leftMember rightMember ?_ ?_
  · simp [ActionRow.clash, ActionRow.liveOnDevice, leftDevice, rightDevice,
      leftLive, rightLive, sameTarget.1, sameTarget.2]
  · simp [ActionRow.clash, ActionRow.liveOnDevice, leftDevice, rightDevice,
      leftLive, rightLive, sameTarget.1, sameTarget.2]

theorem step_continues {service : Service Log} {trace : List (Entry Log)}
    {database : Database Log}
    (invariant : RunInvariant service trace database)
    (operation : Operation Log) {row : ActionRow}
    (member : row ∈ database.actions.rows) :
    ∃ next ∈ (execute service database operation).2.actions.rows,
      Continues operation row next := by
  obtain ⟨next, nextMember, reached⟩ :=
    (execute_advances service database operation).descendant member
  exact ⟨next, nextMember,
    (reached_continues (invariant.rows row member) reached).2⟩

end Response

end ControlForge
