import ControlForge.Response.Service

/-!
# What one operation does to the action table

`Change` lists the row changes an operation may make, each with the guard its
statement carries.  `execute_advances` is the inversion of `execute`: whatever
an operation returns, the table has gone through fresh proposals and such
changes only.
-/

namespace ControlForge

namespace Response

open Devices (AuthenticatedDevice CollectorError)

variable {Log : Type}

/-- The rows an operation may insert. -/
def Fresh (operation : Operation Log) (row : ActionRow) : Prop :=
  ∃ principal actionId caseId actionType deviceId rationale now expiry,
    operation = .propose principal actionId caseId actionType deviceId
      rationale now expiry ∧
    row = proposedRow principal actionId caseId actionType deviceId
      (Text.strip rationale) now (now + seconds expiry)

/-- The changes an operation may make to a row.  `handedOut` holds the
identifiers of the actions it returned to a device. -/
inductive Change (service : Service Log) (operation : Operation Log)
    (handedOut : List String) : ActionRow → ActionRow → Prop
  | expire {old : ActionRow} {now : Timestamp}
      (isLive : old.status.live = true) :
      Change service operation handedOut old
        { old with status := .expired, completedAt := some now }
  | approve {old : ActionRow} {principal : SessionPrincipal}
      {actionId : String} {now : Timestamp}
      (isOperation : operation = .approve principal actionId now)
      (proposed : old.status = .proposed)
      (independent : old.proposedBy ≠ principal.userId)
      (inTime : now < old.expiresAt) :
      Change service operation handedOut old
        { old with
          status := .approved
          approvedBy := some principal.userId
          approvedAt := some now }
  | reject {old : ActionRow} {principal : SessionPrincipal}
      {actionId reason : String} {now : Timestamp}
      (isOperation : operation = .reject principal actionId reason now)
      (proposed : old.status = .proposed)
      (independent : old.proposedBy ≠ principal.userId)
      (inTime : now < old.expiresAt) :
      Change service operation handedOut old
        { old with
          status := .rejected
          rejectedBy := some principal.userId
          rejectedAt := some now
          rejectionReason := some (Text.strip reason) }
  | dispatch {old : ActionRow} {device : AuthenticatedDevice}
      {requestedDeviceId : String} {now : Timestamp}
      (isOperation : operation =
        .pollDevice (.ok device) requestedDeviceId now)
      (ownTenant : old.tenantId = device.tenantId)
      (handed : old.actionId ∈ handedOut)
      (approved : old.status = .approved)
      (inTime : now < old.expiresAt) :
      Change service operation handedOut old
        { old with
          status := .dispatched
          dispatchCount := 1
          dispatchedAt := some now }
  | redispatch {old : ActionRow} {device : AuthenticatedDevice}
      {requestedDeviceId : String} {now : Timestamp}
      (isOperation : operation =
        .pollDevice (.ok device) requestedDeviceId now)
      (ownTenant : old.tenantId = device.tenantId)
      (handed : old.actionId ∈ handedOut)
      (dispatched : old.status = .dispatched)
      (inTime : now < old.expiresAt)
      (belowLimit : old.dispatchCount < service.maxDispatchAttempts) :
      Change service operation handedOut old
        { old with dispatchCount := old.dispatchCount + 1 }
  | complete {old : ActionRow} {device : AuthenticatedDevice}
      {actionId statusText summary : String} {status : ActionStatus}
      {evidence : List String} {now : Timestamp}
      (isOperation : operation = .submitDeviceResult (.ok device) actionId
        statusText summary evidence now)
      (reported : resultStatus statusText = some status)
      (key : old.hasKey device.tenantId actionId = true)
      (ownTarget : old.targetType = "device" ∧ old.targetId = device.deviceId)
      (dispatched : old.status = .dispatched)
      (inTime : now < old.expiresAt) :
      Change service operation handedOut old
        { old with
          status
          resultJson := some (resultJson statusText (Text.strip summary)
            (evidence.map Text.strip))
          resultDeviceId := some device.deviceId
          completedAt := some now }

/-- The action table has gone through proposals and changes only. -/
def Advances (service : Service Log) (operation : Operation Log)
    (handedOut : List String) (before after : Database Log) : Prop :=
  Evolves (Fresh operation) (Change service operation handedOut)
    before.actions.rows after.actions.rows

instance (service : Service Log) (operation : Operation Log)
    (handedOut : List String) :
    Std.Refl (Advances service operation handedOut) where
  refl database := Evolves.refl database.actions.rows

instance (service : Service Log) (operation : Operation Log)
    (handedOut : List String) :
    IsTrans (Database Log) (Advances service operation handedOut) where
  trans _ _ _ first second := Evolves.trans first second

open Transaction (Follows Guarantees)

section Statements

variable {service : Service Log} {operation : Operation Log}
  {handedOut : List String}

theorem follows_updateActions {setsStatus : Bool}
    {selected : ActionRow → Bool} {change : ActionRow → ActionRow}
    (permitted : ∀ old, selected old = true →
      Change service operation handedOut old (change old)) :
    Follows (Advances service operation handedOut)
      (updateActions setsStatus selected change) := by
  intro before count after succeeded
  unfold updateActions at succeeded
  split at succeeded
  · next updated =>
      cases succeeded
      obtain ⟨-, rows, -⟩ := Table.updateWhere_eq_ok.mp updated
      unfold Advances
      rw [rows]
      refine Evolves.update fun row _ => ?_
      cases isSelected : selected row with
      | false => exact .inl (Table.applyWhere_unselected isSelected)
      | true =>
          rw [Table.applyWhere_selected isSelected]
          exact .inr (permitted row isSelected)
  · cases succeeded

theorem updateActions_changed {setsStatus : Bool}
    {selected : ActionRow → Bool} {change : ActionRow → ActionRow}
    {before after : Database Log} {count : Nat}
    (updated : updateActions setsStatus selected change before =
      .ok (count, after)) (positive : 0 < count) :
    ∃ row ∈ before.actions.rows, selected row = true ∧
      change row ∈ after.actions.rows := by
  unfold updateActions at updated
  split at updated
  · next result =>
      cases updated
      exact Table.updateWhere_changed result positive
  · cases updated

theorem follows_audit (record : AuditRecord) :
    Follows (Advances service operation handedOut)
      (audit service record) := by
  intro before result after succeeded
  unfold audit at succeeded
  split at succeeded
  · cases succeeded
    exact Evolves.refl _
  · cases succeeded

theorem follows_insertAction {row : ActionRow} (isFresh : Fresh operation row) :
    Follows (Advances service operation handedOut) (insertAction row) := by
  intro before result after succeeded
  unfold insertAction at succeeded
  split at succeeded
  · next inserted =>
      cases succeeded
      unfold Advances
      rw [(Table.insert_eq_some.mp inserted).2]
      exact Evolves.insert isFresh
  · cases succeeded

theorem follows_requireCurrentCapability (principal : SessionPrincipal)
    (capability : Capability) (now : Timestamp) :
    Follows (Advances service operation handedOut)
      (requireCurrentCapability principal capability now) :=
  Follows.bind Follows.get fun _ => Follows.ofExcept _

theorem follows_requireAction (tenantId actionId : String) :
    Follows (Advances service operation handedOut)
      (requireAction tenantId actionId) := by
  refine Follows.bind Follows.get fun database => ?_
  split
  · exact Follows.pure _
  · exact Follows.throw _

theorem follows_caseIsClosed (row : ActionRow) :
    Follows (Advances service operation handedOut) (caseIsClosed row) := by
  refine Follows.bind Follows.get fun database => ?_
  split <;> exact Follows.pure _

theorem follows_expireOne (row : ActionRow) (now : Timestamp)
    (reason : String) :
    Follows (Advances service operation handedOut)
      (expireOne service row now reason) := by
  refine Follows.bind (follows_updateActions ?_) fun count => ?_
  · intro old isSelected
    exact .expire (Bool.and_eq_true_iff.mp isSelected).2
  · exact Follows.ite (fun _ => follows_audit _) fun _ => Follows.pure _

theorem follows_expireDue (tenantId : String) (now : Timestamp)
    (deviceId : Option String) :
    Follows (Advances service operation handedOut)
      (expireDue service tenantId now deviceId) :=
  Follows.bind Follows.get fun _ =>
    Follows.forM fun row _ => follows_expireOne row now "deadline"

theorem follows_expireClosedCaseActions (tenantId : String) (now : Timestamp)
    (deviceId : Option String) :
    Follows (Advances service operation handedOut)
      (expireClosedCaseActions service tenantId now deviceId) :=
  Follows.bind Follows.get fun _ =>
    Follows.forM fun row _ => follows_expireOne row now "case_closed"

end Statements

/-! ## The transactions -/

section Transactions

variable {service : Service Log}

theorem follows_proposeTransaction (principal : SessionPrincipal)
    (actionId caseId actionType deviceId rationale : String)
    (now : Timestamp) (expiry : Int) :
    Follows
      (Advances service (.propose principal actionId caseId actionType
        deviceId rationale now expiry) [])
      (proposeTransaction service principal actionId caseId actionType
        deviceId (Text.strip rationale) now (now + seconds expiry)) := by
  refine Follows.bind (follows_requireCurrentCapability _ _ _) fun _ => ?_
  refine Follows.bind (follows_expireDue _ _ _) fun _ => ?_
  refine Follows.bind (follows_expireClosedCaseActions _ _ _) fun _ => ?_
  refine Follows.bind Follows.get fun _ => ?_
  refine Follows.bind (Follows.require _ _) fun _ => ?_
  refine Follows.bind (Follows.require _ _) fun _ => ?_
  refine Follows.bind (follows_insertAction ?_) fun _ => follows_audit _
  exact ⟨principal, actionId, caseId, actionType, deviceId, rationale, now,
    expiry, rfl, rfl⟩

theorem follows_approveTransaction (principal : SessionPrincipal)
    (actionId : String) (now : Timestamp) :
    Follows (Advances service (.approve principal actionId now) [])
      (approveTransaction service principal actionId now) := by
  refine Follows.bind (follows_requireCurrentCapability _ _ _) fun _ => ?_
  refine Follows.bind (follows_requireAction _ _) fun row => ?_
  refine Follows.bind (Follows.require _ _) fun _ => ?_
  refine Follows.bind (follows_caseIsClosed row) fun closed => ?_
  refine Follows.ite (fun _ => ?_) fun _ => Follows.ite (fun _ => ?_) fun _ => ?_
  · exact Follows.bind (follows_expireOne _ _ _) fun _ => Follows.pure _
  · exact Follows.bind (follows_expireOne _ _ _) fun _ => Follows.pure _
  · refine Follows.bind (Follows.require _ _) fun _ => ?_
    refine Follows.bind (follows_updateActions ?_) fun _ => ?_
    · intro old isSelected
      simp only [Bool.and_eq_true, decide_eq_true_eq] at isSelected
      obtain ⟨-, proposed, independent, inTime⟩ := isSelected
      exact .approve rfl proposed independent inTime
    · refine Follows.bind (Follows.require _ _) fun _ => ?_
      exact Follows.bind (follows_audit _) fun _ => Follows.pure _

theorem follows_rejectTransaction (principal : SessionPrincipal)
    (actionId reason : String) (now : Timestamp) :
    Follows (Advances service (.reject principal actionId reason now) [])
      (rejectTransaction service principal actionId (Text.strip reason)
        now) := by
  refine Follows.bind (follows_requireCurrentCapability _ _ _) fun _ => ?_
  refine Follows.bind (follows_requireAction _ _) fun row => ?_
  refine Follows.bind (Follows.require _ _) fun _ => ?_
  refine Follows.ite (fun _ => ?_) fun _ => ?_
  · exact Follows.bind (follows_expireOne _ _ _) fun _ => Follows.pure _
  · refine Follows.bind (Follows.require _ _) fun _ => ?_
    refine Follows.bind (follows_updateActions ?_) fun _ => ?_
    · intro old isSelected
      simp only [Bool.and_eq_true, decide_eq_true_eq] at isSelected
      obtain ⟨-, proposed, independent, inTime⟩ := isSelected
      exact .reject rfl proposed independent inTime
    · refine Follows.bind (Follows.require _ _) fun _ => ?_
      exact Follows.bind (follows_audit _) fun _ => Follows.pure _

theorem follows_listTransaction {operation : Operation Log}
    (tenantId : String) (now : Timestamp) (limit : Nat) :
    Follows (Advances service operation [])
      (listTransaction service tenantId now limit) := by
  refine Follows.bind (follows_expireDue _ _ _) fun _ => ?_
  refine Follows.bind (follows_expireClosedCaseActions _ _ _) fun _ => ?_
  exact Follows.bind Follows.get fun _ => Follows.pure _

theorem follows_markDispatched {device : AuthenticatedDevice}
    {requestedDeviceId : String} {now : Timestamp} {handedOut : List String}
    {row : ActionRow} (handed : row.actionId ∈ handedOut)
    (belowLimit : row.dispatchCount < service.maxDispatchAttempts) :
    Follows
      (Advances service (.pollDevice (.ok device) requestedDeviceId now)
        handedOut)
      (markDispatched device now row) := by
  refine Follows.ite (fun _ => ?_) fun _ => ?_
  · refine follows_updateActions fun old isSelected => ?_
    simp only [ActionRow.hasKey, Bool.and_eq_true, decide_eq_true_eq]
      at isSelected
    obtain ⟨⟨ownTenant, sameId⟩, approved, inTime⟩ := isSelected
    exact .dispatch rfl ownTenant (sameId ▸ handed) approved inTime
  · refine follows_updateActions fun old isSelected => ?_
    simp only [ActionRow.hasKey, Bool.and_eq_true, decide_eq_true_eq]
      at isSelected
    obtain ⟨⟨ownTenant, sameId⟩, dispatched, sameCount, inTime⟩ := isSelected
    rw [← sameCount] at belowLimit ⊢
    exact .redispatch rfl ownTenant (sameId ▸ handed) dispatched inTime
      belowLimit

theorem follows_dispatchOne {device : AuthenticatedDevice}
    {requestedDeviceId : String} {now : Timestamp} {handedOut : List String}
    {row : ActionRow} (handed : row.actionId ∈ handedOut)
    (belowLimit : row.dispatchCount < service.maxDispatchAttempts) :
    Follows
      (Advances service (.pollDevice (.ok device) requestedDeviceId now)
        handedOut)
      (dispatchOne service device now row) := by
  refine Follows.bind (follows_markDispatched handed belowLimit) fun _ => ?_
  refine Follows.bind (Follows.require _ _) fun _ => ?_
  exact Follows.bind (follows_audit _) fun _ => Follows.ofExcept _

theorem dispatchOne_actionId {device : AuthenticatedDevice} {now : Timestamp}
    {row : ActionRow} :
    Guarantees (fun _ action _ => action.actionId = row.actionId)
      (dispatchOne service device now row) := by
  intro before action after succeeded
  unfold dispatchOne at succeeded
  obtain ⟨_, _, -, succeeded⟩ := Transaction.run_bind_ok.mp succeeded
  obtain ⟨_, _, -, succeeded⟩ := Transaction.run_bind_ok.mp succeeded
  obtain ⟨_, _, -, succeeded⟩ := Transaction.run_bind_ok.mp succeeded
  unfold agentAction storedActionType at succeeded
  split at succeeded
  · cases succeeded
    rfl
  · cases succeeded

theorem dispatchAll_actionIds {device : AuthenticatedDevice}
    {now : Timestamp} (rows : List ActionRow) :
    Guarantees
      (fun _ actions _ => actions.map (·.actionId) = rows.map (·.actionId))
      (rows.mapM (dispatchOne service device now)) := by
  induction rows with
  | nil =>
      intro before actions after succeeded
      cases succeeded
      rfl
  | cons row rows induction =>
      intro before actions after succeeded
      rw [List.mapM_cons] at succeeded
      obtain ⟨action, _, first, succeeded⟩ :=
        Transaction.run_bind_ok.mp succeeded
      obtain ⟨others, _, rest, succeeded⟩ :=
        Transaction.run_bind_ok.mp succeeded
      cases succeeded
      have sameHead := dispatchOne_actionId _ _ _ first
      have sameTail := induction _ _ _ rest
      simp [sameHead, sameTail]

theorem mem_dispatchable_belowLimit {device : AuthenticatedDevice}
    {now : Timestamp} {database : Database Log} {row : ActionRow}
    (member : row ∈ dispatchable service device now database) :
    row.dispatchCount < service.maxDispatchAttempts := by
  have sorted := List.mem_of_mem_take member
  rw [List.mem_insertionSort, List.mem_filter] at sorted
  have selected := sorted.2
  simp only [Bool.and_eq_true, decide_eq_true_eq] at selected
  exact selected.2.2

theorem pollTransaction_advances {device : AuthenticatedDevice}
    {requestedDeviceId : String} {now : Timestamp} :
    Guarantees
      (fun before actions after =>
        Advances service (.pollDevice (.ok device) requestedDeviceId now)
          (actions.map (·.actionId)) before after)
      (pollTransaction service device now) := by
  intro before actions after succeeded
  unfold pollTransaction at succeeded
  obtain ⟨_, afterDue, due, succeeded⟩ := Transaction.run_bind_ok.mp succeeded
  obtain ⟨_, afterClosed, closed, succeeded⟩ :=
    Transaction.run_bind_ok.mp succeeded
  obtain ⟨_, _, read, succeeded⟩ := Transaction.run_bind_ok.mp succeeded
  cases read
  have sameIds := dispatchAll_actionIds _ _ _ _ succeeded
  dsimp only at sameIds ⊢
  rw [sameIds]
  have dispatched : Follows
      (Advances service (.pollDevice (.ok device) requestedDeviceId now)
        ((dispatchable service device now afterClosed).map (·.actionId)))
      ((dispatchable service device now afterClosed).mapM
        (dispatchOne service device now)) := by
    apply Follows.mapM
    intro row member
    exact follows_dispatchOne (List.mem_map_of_mem member)
      (mem_dispatchable_belowLimit member)
  exact Evolves.trans (follows_expireDue _ _ _ _ _ _ due)
    (Evolves.trans (follows_expireClosedCaseActions _ _ _ _ _ _ closed)
      (dispatched _ _ _ succeeded))

theorem follows_submitTransaction {device : AuthenticatedDevice}
    {actionId statusText summary : String} {status : ActionStatus}
    {evidence : List String} {now : Timestamp}
    (reported : resultStatus statusText = some status) :
    Follows
      (Advances service (.submitDeviceResult (.ok device) actionId statusText
        summary evidence now) [])
      (submitTransaction service device actionId statusText status
        (Text.strip summary) (evidence.map Text.strip) now) := by
  refine Follows.bind (follows_requireAction _ _) fun row => ?_
  refine Follows.bind (Follows.require _ _) fun _ => ?_
  refine Follows.ite (fun _ => ?_) fun _ => Follows.ite (fun _ => ?_) fun _ => ?_
  · exact Follows.bind (Follows.require _ _) fun _ => Follows.pure _
  · exact Follows.bind (follows_expireOne _ _ _) fun _ => Follows.pure _
  · refine Follows.bind (Follows.require _ _) fun _ => ?_
    refine Follows.bind (follows_updateActions ?_) fun _ => ?_
    · intro old isSelected
      simp only [Bool.and_eq_true, decide_eq_true_eq] at isSelected
      obtain ⟨key, dispatched, isDevice, ownTarget, inTime⟩ := isSelected
      exact .complete rfl reported key ⟨isDevice, ownTarget⟩ dispatched inTime
    · refine Follows.bind (Follows.require _ _) fun _ => ?_
      exact Follows.bind (follows_audit _) fun _ => Follows.pure _

end Transactions

/-! ## The operations -/

/-- The identifiers of the actions a reply hands to a device. -/
def handedOut : Except ResponseError Reply → List String
  | .ok (.dispatched actions) => actions.map (·.actionId)
  | _ => []

section Outcomes

variable {Value Result : Type} {database next : Database Log}

theorem commitThen_of_ok {program : Program Log Value}
    {after : Value → Database Log → Except ResponseError Result}
    {value : Value} (ran : program database = .ok (value, next)) :
    commitThen program after database = (after value next, next) := by
  simp [commitThen, Transaction.commit, ran]

theorem commitThen_of_error {program : Program Log Value}
    {after : Value → Database Log → Except ResponseError Result}
    {failure : ResponseError} (raised : program database = .error failure) :
    commitThen program after database = (.error failure, database) := by
  simp [commitThen, Transaction.commit, raised]

theorem commitThen_eq_ok {program : Program Log Value}
    {after : Value → Database Log → Except ResponseError Result}
    {result : Result}
    (succeeded : commitThen program after database = (.ok result, next)) :
    ∃ value, program database = .ok (value, next) ∧
      after value next = .ok result := by
  cases ran : program database with
  | error failure =>
      rw [commitThen_of_error ran] at succeeded
      cases succeeded
  | ok pair =>
      obtain ⟨value, committed⟩ := pair
      rw [commitThen_of_ok ran] at succeeded
      simp only [Prod.mk.injEq] at succeeded
      obtain ⟨returned, rfl⟩ := succeeded
      exact ⟨value, rfl, returned⟩

theorem checked_of_ok {check : Except ResponseError Unit}
    {inner : Database Log → Outcome Log Result} (passed : check = .ok ()) :
    checked check inner database = inner database := by
  rw [passed]
  rfl

theorem checked_eq_ok {check : Except ResponseError Unit}
    {inner : Database Log → Outcome Log Result} {result : Result}
    (succeeded : checked check inner database = (.ok result, next)) :
    check = .ok () ∧ inner database = (.ok result, next) := by
  unfold checked at succeeded
  split at succeeded
  · exact ⟨rfl, succeeded⟩
  · cases succeeded

end Outcomes

section Wrappers

variable {service : Service Log} {operation : Operation Log}
  {ids : List String} {Value Result : Type} {database : Database Log}

theorem commitThen_advances {program : Program Log Value}
    {after : Value → Database Log → Except ResponseError Result}
    (follows : Follows (Advances service operation ids) program) :
    Advances service operation ids database
      (commitThen program after database).2 := by
  unfold commitThen
  split
  · next committed =>
      exact follows _ _ _ (Transaction.commit_ok committed)
  · next rolledBack =>
      rw [Transaction.commit_error rolledBack]
      exact Evolves.refl _

theorem checked_advances {check : Except ResponseError Unit}
    {inner : Database Log → Outcome Log Result}
    (advances : Advances service operation ids database (inner database).2) :
    Advances service operation ids database
      (checked check inner database).2 := by
  unfold checked
  split
  · exact advances
  · exact Evolves.refl _

end Wrappers

theorem pollDevice_advances (service : Service Log)
    (verdict : Except CollectorError AuthenticatedDevice)
    (requestedDeviceId : String)
    (now : Timestamp) (database : Database Log) :
    Advances service (.pollDevice verdict requestedDeviceId now)
      (handedOut (execute service database
        (.pollDevice verdict requestedDeviceId now)).1)
      database
      (execute service database
        (.pollDevice verdict requestedDeviceId now)).2 := by
  cases verdict with
  | error message => exact Evolves.refl _
  | ok device =>
      simp only [execute, pollDevice, authenticated, checked, commitThen,
        Outcome.tag]
      split
      · split
        · next committed =>
            exact pollTransaction_advances _ _ _
              (Transaction.commit_ok committed)
        · next rolledBack =>
            rw [Transaction.commit_error rolledBack]
            exact Evolves.refl _
      · exact Evolves.refl _

theorem handedOut_map {Value : Type} (wrap : Value → Reply)
    (notDispatched : ∀ value actions, wrap value ≠ .dispatched actions)
    (outcome : Except ResponseError Value) :
    handedOut (outcome.map wrap) = [] := by
  cases outcome with
  | error failure => rfl
  | ok value =>
      show handedOut (.ok (wrap value)) = []
      unfold handedOut
      split
      · next actions same =>
          cases notDispatched value actions (Except.ok.inj same)
      · rfl

/-- Every operation, whatever it returns, moves the action table by fresh
proposals and permitted changes. -/
theorem execute_advances (service : Service Log) (database : Database Log)
    (operation : Operation Log) :
    Advances service operation
      (handedOut (execute service database operation).1) database
      (execute service database operation).2 := by
  cases operation with
  | propose principal actionId caseId actionType deviceId rationale now
      expiry =>
      have noneHanded := handedOut_map Reply.action (by simp)
        (propose service principal actionId caseId actionType deviceId
          rationale now expiry database).1
      simp only [execute, Outcome.tag, noneHanded]
      exact checked_advances (commitThen_advances
        (follows_proposeTransaction _ _ _ _ _ _ _ _))
  | approve principal actionId now =>
      have noneHanded := handedOut_map Reply.action (by simp)
        (approve service principal actionId now database).1
      simp only [execute, Outcome.tag, noneHanded]
      exact checked_advances (commitThen_advances
        (follows_approveTransaction _ _ _))
  | reject principal actionId reason now =>
      have noneHanded := handedOut_map Reply.action (by simp)
        (reject service principal actionId reason now database).1
      simp only [execute, Outcome.tag, noneHanded]
      exact checked_advances (commitThen_advances
        (follows_rejectTransaction _ _ _ _))
  | get principal actionId => exact Evolves.refl _
  | listActions principal now limit =>
      have noneHanded := handedOut_map Reply.actions (by simp)
        (listActions service principal now limit database).1
      simp only [execute, Outcome.tag, noneHanded]
      exact checked_advances (commitThen_advances
        (follows_listTransaction _ _ _))
  | pollDevice verdict requestedDeviceId now =>
      exact pollDevice_advances service verdict requestedDeviceId now database
  | submitDeviceResult verdict actionId statusText summary evidence now =>
      have noneHanded := handedOut_map Reply.result (by simp)
        (submitDeviceResult service verdict actionId statusText summary
          evidence now database).1
      simp only [execute, Outcome.tag, noneHanded]
      cases verdict with
      | error message => exact Evolves.refl _
      | ok device =>
          simp only [submitDeviceResult, authenticated]
          cases reported : resultStatus statusText with
          | none => exact Evolves.refl _
          | some status =>
              exact checked_advances (commitThen_advances
                (follows_submitTransaction reported))
  | environment cases devices identity audit => exact Evolves.refl _

end Response

end ControlForge
