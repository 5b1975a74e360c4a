import ControlForge.Response.Results

/-!
# Deadlines of dispatched actions

A dispatched action waits for the result of its device.  The loops that expire
overdue actions, and the undelivered actions of closed cases, are one map over
the table each; neither touches a dispatched action before its deadline.  The
review of an action whose case is closed does.
-/

namespace ControlForge

namespace Response

open Devices (AuthenticatedDevice CollectorError)
open Transaction (Follows)
open Table (applyWhere)

variable {Log : Type}

/-- The instant an operation runs at. -/
def Operation.time : Operation Log → Option Timestamp
  | .propose _ _ _ _ _ _ now _ => some now
  | .approve _ _ now => some now
  | .reject _ _ _ now => some now
  | .get _ _ => none
  | .listActions _ now _ => some now
  | .pollDevice _ _ now => some now
  | .submitDeviceResult _ _ _ _ _ now => some now
  | .environment _ _ _ _ => none

/-- The changes of a row that keep the deadline of a dispatched action. -/
inductive TimedChange (now : Timestamp) : ActionRow → ActionRow → Prop
  | expire {old : ActionRow} (isLive : old.status.live = true)
      (due : old.status = .dispatched → old.expiresAt ≤ now) :
      TimedChange now old
        { old with status := .expired, completedAt := some now }
  | advance {old new : ActionRow} (isLive : old.status.live = true)
      (sameIdentity : new.sameIdentity old = true)
      (notExpired : new.status ≠ .expired)
      (keepsDispatch : old.status = .dispatched →
        new.status = .dispatched ∨ new.status.terminal = true) :
      TimedChange now old new

section Change

variable {now : Timestamp} {old new : ActionRow}

theorem TimedChange.live (change : TimedChange now old new) :
    old.status.live = true := by
  cases change with
  | expire isLive => exact isLive
  | advance isLive => exact isLive

theorem TimedChange.sameIdentity (change : TimedChange now old new) :
    new.sameIdentity old = true := by
  cases change with
  | expire => simp [ActionRow.sameIdentity]
  | advance _ same => exact same

theorem TimedChange.due (change : TimedChange now old new)
    (dispatched : old.status = .dispatched) (expired : new.status = .expired) :
    old.expiresAt ≤ now := by
  cases change with
  | expire _ due => exact due dispatched
  | advance _ _ notExpired => exact absurd expired notExpired

theorem expiresAt_of_sameIdentity (same : new.sameIdentity old = true) :
    new.expiresAt = old.expiresAt := by
  simp only [ActionRow.sameIdentity, decide_eq_true_eq] at same
  exact same.2.2.2.2.2.2.2.2.2.2

/-- A dispatched action that has become expired was due. -/
theorem reached_due
    (reached : Relation.ReflTransGen (TimedChange now) old new)
    (dispatched : old.status = .dispatched) (expired : new.status = .expired) :
    old.expiresAt ≤ now := by
  induction reached using Relation.ReflTransGen.head_induction_on with
  | refl =>
      rw [dispatched] at expired
      cases expired
  | @head first middle change rest induction =>
      cases change with
      | expire _ due => exact due dispatched
      | advance isLive same notExpired keepsDispatch =>
          rcases keepsDispatch dispatched with still | terminal
          · rw [← expiresAt_of_sameIdentity same]
            exact induction still
          · rcases Relation.ReflTransGen.cases_head rest with
              isSame | ⟨other, step, -⟩
            · rw [isSame] at notExpired
              exact absurd expired notExpired
            · rw [ActionStatus.terminal, step.live] at terminal
              cases terminal

/-- A dispatched action stays so until it is terminal. -/
theorem reached_dispatched
    (reached : Relation.ReflTransGen (TimedChange now) old new)
    (dispatched : old.status = .dispatched) :
    new.status = .dispatched ∨ new.status.terminal = true := by
  induction reached with
  | refl => exact .inl dispatched
  | tail _ change induction =>
      rcases induction with still | terminal
      · cases change with
        | expire => exact .inr rfl
        | advance _ _ _ keepsDispatch => exact keepsDispatch still
      · rw [ActionStatus.terminal, change.live] at terminal
        cases terminal

theorem reached_sameIdentity
    (reached : Relation.ReflTransGen (TimedChange now) old new) :
    new.sameIdentity old = true := by
  induction reached with
  | refl => simp [ActionRow.sameIdentity]
  | tail _ change induction =>
      exact sameIdentity_trans induction change.sameIdentity

end Change

/-- The action table has gone through proposals and timed changes only. -/
def TimedAdvance (now : Timestamp) (before after : Database Log) : Prop :=
  Evolves (fun row => row.status = .proposed) (TimedChange now)
    before.actions.rows after.actions.rows

instance (now : Timestamp) :
    Std.Refl (TimedAdvance now : Database Log → Database Log → Prop) where
  refl database := Evolves.refl database.actions.rows

instance (now : Timestamp) :
    IsTrans (Database Log) (TimedAdvance now) where
  trans _ _ _ first second := Evolves.trans first second

/-! ## The statements -/

section Statements

variable {service : Service Log} {now : Timestamp}

theorem updateActions_rows {setsStatus : Bool} {selected : ActionRow → Bool}
    {change : ActionRow → ActionRow} {before after : Database Log}
    {count : Nat} (updated : updateActions setsStatus selected change before =
      .ok (count, after)) :
    after.actions.rows =
      before.actions.rows.map (applyWhere selected change) := by
  unfold updateActions at updated
  split at updated
  · next result =>
      cases updated
      exact (Table.updateWhere_eq_ok.mp result).2.1
  · cases updated

theorem timed_updateActions {setsStatus : Bool} {selected : ActionRow → Bool}
    {change : ActionRow → ActionRow}
    (permitted : ∀ old, selected old = true →
      TimedChange now old (change old)) :
    Follows (TimedAdvance now : Database Log → Database Log → Prop)
      (updateActions setsStatus selected change) := by
  intro before count after succeeded
  unfold TimedAdvance
  rw [updateActions_rows succeeded]
  refine Evolves.update fun row _ => ?_
  cases isSelected : selected row with
  | false => exact .inl (Table.applyWhere_unselected isSelected)
  | true =>
      rw [Table.applyWhere_selected isSelected]
      exact .inr (permitted row isSelected)

theorem timed_audit (record : AuditRecord) :
    Follows (TimedAdvance now) (audit service record) := by
  intro before result after succeeded
  unfold TimedAdvance
  rw [audit_actions _ _ _ _ succeeded]
  exact Evolves.refl _

theorem timed_requireCurrentCapability (principal : SessionPrincipal)
    (capability : Capability) (time : Timestamp) :
    Follows (TimedAdvance now : Database Log → Database Log → Prop)
      (requireCurrentCapability principal capability time) :=
  Follows.bind Follows.get fun _ => Follows.ofExcept _

theorem timed_requireAction (tenantId actionId : String) :
    Follows (TimedAdvance now : Database Log → Database Log → Prop)
      (requireAction tenantId actionId) := by
  refine Follows.bind Follows.get fun database => ?_
  split
  · exact Follows.pure _
  · exact Follows.throw _

/-! ## Expiry -/

/-- The rows one of the given actions names, while they are live. -/
def expires (items : List ActionRow) (stored : ActionRow) : Bool :=
  items.any (fun row => stored.hasKey row.tenantId row.actionId) &&
    stored.status.live

/-- The expired form of a row. -/
def expiredAt (now : Timestamp) (row : ActionRow) : ActionRow :=
  { row with status := .expired, completedAt := some now }

theorem expireOne_rows {row : ActionRow} {reason : String}
    {before after : Database Log} {result : Unit}
    (ran : expireOne service row now reason before = .ok (result, after)) :
    after.actions.rows = before.actions.rows.map
      (applyWhere (expires [row]) (expiredAt now)) := by
  unfold expireOne at ran
  obtain ⟨count, middle, updated, audited⟩ := Transaction.run_bind_ok.mp ran
  have sameActions : after.actions = middle.actions := by
    split at audited
    · exact audit_actions _ _ _ _ audited
    · cases audited
      rfl
  have sameSelection : expires [row] = fun stored =>
      stored.hasKey row.tenantId row.actionId && stored.status.live := by
    funext stored
    simp [expires]
  rw [sameActions, updateActions_rows updated, sameSelection]
  rfl

/-- Expiring one action and then others expires them all. -/
theorem applyWhere_expires (row : ActionRow) (items : List ActionRow)
    (stored : ActionRow) :
    applyWhere (expires items) (expiredAt now)
        (applyWhere (expires [row]) (expiredAt now) stored) =
      applyWhere (expires (row :: items)) (expiredAt now) stored := by
  cases isFirst : expires [row] stored with
  | true =>
      have isAny : expires (row :: items) stored = true := by
        simp only [expires, List.any_cons, List.any_nil, Bool.or_false,
          Bool.and_eq_true] at isFirst
        simp [expires, isFirst]
      have finished : expires items (expiredAt now stored) = false := by
        simp [expires, expiredAt, ActionStatus.live]
      rw [Table.applyWhere_selected isFirst, Table.applyWhere_selected isAny,
        Table.applyWhere_unselected finished]
  | false =>
      rw [Table.applyWhere_unselected isFirst]
      have same : expires (row :: items) stored = expires items stored := by
        simp only [expires, List.any_cons, List.any_nil, Bool.or_false,
          Bool.and_eq_false_iff] at isFirst ⊢
        rcases isFirst with other | notLive
        · rw [other, Bool.false_or]
        · rw [notLive, Bool.and_false, Bool.and_false]
      unfold applyWhere
      rw [same]

/-- The loop over the actions to expire is one map. -/
theorem expireAll_rows {reason : String} {items : List ActionRow}
    {before after : Database Log} {result : PUnit}
    (ran : items.forM (fun row => expireOne service row now reason) before =
      .ok (result, after)) :
    after.actions.rows = before.actions.rows.map
      (applyWhere (expires items) (expiredAt now)) := by
  induction items generalizing before with
  | nil =>
      cases ran
      have unchanged : ∀ stored : ActionRow,
          applyWhere (expires []) (expiredAt now) stored = stored :=
        fun stored => Table.applyWhere_unselected (by simp [expires])
      rw [List.map_congr_left fun stored _ => unchanged stored]
      exact (List.map_id' _).symm
  | cons row items induction =>
      obtain ⟨_, middle, first, rest⟩ := Transaction.run_bind_ok.mp ran
      rw [induction rest, expireOne_rows first, List.map_map]
      refine List.map_congr_left fun stored _ => ?_
      exact applyWhere_expires row items stored

/-- Expiring stored actions that are due, or not dispatched, is timed. -/
theorem timed_expireAll {before after : Database Log} {items : List ActionRow}
    (stored : ∀ row ∈ items, row ∈ before.actions.rows)
    (due : ∀ row ∈ items, row.status = .dispatched → row.expiresAt ≤ now)
    (rows : after.actions.rows = before.actions.rows.map
      (applyWhere (expires items) (expiredAt now))) :
    TimedAdvance now before after := by
  unfold TimedAdvance
  rw [rows]
  refine Evolves.update fun row member => ?_
  cases isSelected : expires items row with
  | false => exact .inl (Table.applyWhere_unselected isSelected)
  | true =>
      rw [Table.applyWhere_selected isSelected]
      simp only [expires, Bool.and_eq_true, List.any_eq_true] at isSelected
      obtain ⟨⟨item, itemMember, key⟩, isLive⟩ := isSelected
      have itemKey : item.hasKey item.tenantId item.actionId = true := by
        simp [ActionRow.hasKey]
      have same : row = item := by
        have clashes := clash_of_hasKey key itemKey
        exact Table.eq_of_clash member (stored item itemMember) clashes.1
          clashes.2
      refine .inr (.expire isLive fun dispatched => ?_)
      rw [same] at dispatched ⊢
      exact due item itemMember dispatched

theorem timed_expireDue (tenantId : String) (deviceId : Option String) :
    Follows (TimedAdvance now) (expireDue service tenantId now deviceId) := by
  intro before result after succeeded
  obtain ⟨_, _, read, ran⟩ := Transaction.run_bind_ok.mp succeeded
  cases read
  refine timed_expireAll ?_ ?_ (expireAll_rows ran)
  · intro row member
    exact (List.mem_filter.mp (mem_orderBy.mp member)).1
  · intro row member _
    have selected := (List.mem_filter.mp (mem_orderBy.mp member)).2
    simp only [Bool.and_eq_true, decide_eq_true_eq] at selected
    exact selected.1.2

/-- The actions of closed cases expire while they are undelivered only. -/
theorem timed_expireClosedCaseActions (tenantId : String)
    (deviceId : Option String) :
    Follows (TimedAdvance now)
      (expireClosedCaseActions service tenantId now deviceId) := by
  intro before result after succeeded
  obtain ⟨_, _, read, ran⟩ := Transaction.run_bind_ok.mp succeeded
  cases read
  refine timed_expireAll ?_ ?_ (expireAll_rows ran)
  · intro row member
    exact (List.mem_filter.mp (mem_orderBy.mp member)).1
  · intro row member dispatched
    have selected := (List.mem_filter.mp (mem_orderBy.mp member)).2
    simp only [Bool.and_eq_true, decide_eq_true_eq, dispatched] at selected
    simp at selected

end Statements

/-! ## The transactions -/

section Transactions

variable {service : Service Log} {now : Timestamp}

theorem timed_proposeTransaction (principal : SessionPrincipal)
    (actionId caseId actionType deviceId rationale : String)
    (expiresAt : Timestamp) :
    Follows (TimedAdvance now)
      (proposeTransaction service principal actionId caseId actionType
        deviceId rationale now expiresAt) := by
  refine Follows.bind (timed_requireCurrentCapability _ _ _) fun _ => ?_
  refine Follows.bind (timed_expireDue _ _) fun _ => ?_
  refine Follows.bind (timed_expireClosedCaseActions _ _) fun _ => ?_
  refine Follows.bind Follows.get fun _ => ?_
  refine Follows.bind (Follows.require _ _) fun _ => ?_
  refine Follows.bind (Follows.require _ _) fun _ => ?_
  refine Follows.bind ?_ fun _ => timed_audit _
  intro before result after succeeded
  unfold insertAction at succeeded
  split at succeeded
  · next inserted =>
      cases succeeded
      unfold TimedAdvance
      rw [(Table.insert_eq_some.mp inserted).2]
      exact Evolves.insert rfl
  · cases succeeded

/-- An undispatched action that is approved or rejected. -/
theorem timed_review {old new : ActionRow} (proposed : old.status = .proposed)
    (same : new.sameIdentity old = true) (reviewed : new.status ≠ .expired) :
    TimedChange now old new := by
  refine .advance (by rw [proposed]; rfl) same reviewed ?_
  rw [proposed]
  intro contradiction
  cases contradiction

/-- An action found in the table and expired on its own. -/
theorem timed_expireFound {before after : Database Log} {row : ActionRow}
    {tenantId actionId reason : String} {result : Unit}
    (found : before.actions.rows.find? (·.hasKey tenantId actionId) = some row)
    (due : row.status = .dispatched → row.expiresAt ≤ now)
    (ran : expireOne service row now reason before = .ok (result, after)) :
    TimedAdvance now before after := by
  apply timed_expireAll _ _ (expireOne_rows ran)
  · intro other member
    rw [List.mem_singleton.mp member]
    exact List.mem_of_find?_eq_some found
  · intro other member
    rw [List.mem_singleton.mp member]
    exact due

/-- What `caseIsClosed` returns. -/
def closedCase (database : Database Log) (row : ActionRow) : Bool :=
  match database.cases.find? (·.isCaseOf row) with
  | some reference => reference.status = .closed
  | none => true

theorem run_caseIsClosed (row : ActionRow) (database : Database Log) :
    caseIsClosed row database = .ok (closedCase database row, database) := by
  unfold caseIsClosed closedCase
  rw [Transaction.run_bind, Transaction.run_get]
  dsimp only
  cases database.cases.find? (·.isCaseOf row) <;> rfl

theorem run_requireCurrentCapability {principal : SessionPrincipal}
    {capability : Capability} {time : Timestamp}
    {database after : Database Log} {result : Unit} :
    requireCurrentCapability principal capability time database =
        .ok (result, after) ↔
      Identity.requireCurrentCapability database.identity principal capability
        time = .ok () ∧ after = database := by
  unfold requireCurrentCapability ofIdentity
  rw [Transaction.run_bind, Transaction.run_get]
  dsimp only
  rw [Transaction.run_ofExcept_eq_ok]
  cases Identity.requireCurrentCapability database.identity principal
    capability time with
  | error failure => simp [Except.mapError]
  | ok value => simp [Except.mapError]

theorem run_requireAction_ok {tenantId actionId : String}
    {database after : Database Log} {row : ActionRow}
    (found : requireAction tenantId actionId database = .ok (row, after)) :
    database.actions.rows.find? (·.hasKey tenantId actionId) = some row ∧
      after = database := by
  unfold requireAction at found
  rw [Transaction.run_bind, Transaction.run_get] at found
  dsimp only at found
  cases isFound : database.actions.rows.find? (·.hasKey tenantId actionId) with
  | none =>
      rw [isFound] at found
      cases found
  | some stored =>
      rw [isFound] at found
      cases found
      exact ⟨rfl, rfl⟩

/-- The review of a dispatched action before its deadline, while its case is
closed, by someone who may review it. -/
def ClosedCaseReview (database : Database Log) (principal : SessionPrincipal)
    (actionId : String) (now : Timestamp) (row : ActionRow) : Prop :=
  database.actions.rows.find? (·.hasKey principal.tenantId actionId) =
      some row ∧
    row.status = .dispatched ∧ now < row.expiresAt ∧
    row.proposedBy ≠ principal.userId ∧ closedCase database row = true

theorem approveTransaction_timed {principal : SessionPrincipal}
    {actionId : String} {before after : Database Log} {expired : Bool}
    (ran : approveTransaction service principal actionId now before =
      .ok (expired, after))
    (notClosed : ∀ row,
      ¬ ClosedCaseReview before principal actionId now row) :
    TimedAdvance now before after := by
  unfold approveTransaction at ran
  obtain ⟨_, afterCheck, check, ran⟩ := Transaction.run_bind_ok.mp ran
  obtain ⟨row, afterRead, read, ran⟩ := Transaction.run_bind_ok.mp ran
  obtain ⟨_, afterRequire, required, ran⟩ := Transaction.run_bind_ok.mp ran
  obtain ⟨closed, afterCase, case, ran⟩ := Transaction.run_bind_ok.mp ran
  obtain ⟨-, rfl⟩ := run_requireCurrentCapability.mp check
  obtain ⟨found, rfl⟩ := run_requireAction_ok read
  obtain ⟨independent, rfl⟩ := Transaction.run_require_ok.mp required
  rw [run_caseIsClosed] at case
  cases case
  split at ran
  · next isClosed =>
      obtain ⟨_, _, expiry, done⟩ := Transaction.run_bind_ok.mp ran
      cases done
      refine timed_expireFound found (fun dispatched => ?_) expiry
      by_contra early
      exact notClosed row ⟨found, dispatched, Int.not_le.mp early, independent,
        isClosed⟩
  · split at ran
    · next due =>
        obtain ⟨_, _, expiry, done⟩ := Transaction.run_bind_ok.mp ran
        cases done
        exact timed_expireFound found (fun _ => due) expiry
    · have follows : Follows (TimedAdvance now)
          (do
            Transaction.require (row.status = .proposed)
              (.conflict "response action is not awaiting approval")
            let count ← updateActions true
              (fun stored =>
                stored.hasKey principal.tenantId actionId &&
                  (stored.status = .proposed ∧
                    stored.proposedBy ≠ principal.userId ∧
                    now < stored.expiresAt : Bool))
              (fun stored =>
                { stored with
                  status := .approved
                  approvedBy := some principal.userId
                  approvedAt := some now })
            Transaction.require (count = 1)
              (.conflict "response approval lost an atomic race")
            audit service (record principal.tenantId "response.approved" "user"
              principal.userId actionId
              { members := [("proposed_by", .str row.proposedBy)] } now)
            return false) := by
        refine Follows.bind (Follows.require _ _) fun _ => ?_
        refine Follows.bind (timed_updateActions ?_) fun _ => ?_
        · intro old isSelected
          simp only [Bool.and_eq_true, decide_eq_true_eq] at isSelected
          exact timed_review isSelected.2.1 (by simp [ActionRow.sameIdentity])
            (by simp)
        · refine Follows.bind (Follows.require _ _) fun _ => ?_
          exact Follows.bind (timed_audit _) fun _ => Follows.pure _
      exact follows _ _ _ ran

theorem timed_rejectTransaction (principal : SessionPrincipal)
    (actionId reason : String) :
    Follows (TimedAdvance now)
      (rejectTransaction service principal actionId reason now) := by
  intro before expired after ran
  unfold rejectTransaction at ran
  obtain ⟨_, afterCheck, check, reading⟩ := Transaction.run_bind_ok.mp ran
  obtain ⟨row, afterRead, read, requiring⟩ :=
    Transaction.run_bind_ok.mp reading
  obtain ⟨_, afterRequire, required, deciding⟩ :=
    Transaction.run_bind_ok.mp requiring
  obtain ⟨-, rfl⟩ := run_requireCurrentCapability.mp check
  obtain ⟨found, rfl⟩ := run_requireAction_ok read
  obtain ⟨-, rfl⟩ := Transaction.run_require_ok.mp required
  split at deciding
  · next due =>
      obtain ⟨_, _, expiry, done⟩ := Transaction.run_bind_ok.mp deciding
      cases done
      exact timed_expireFound found (fun _ => due) expiry
  · obtain ⟨_, afterStatus, isProposed, updating⟩ :=
      Transaction.run_bind_ok.mp deciding
    obtain ⟨count, updated, update, counting⟩ :=
      Transaction.run_bind_ok.mp updating
    obtain ⟨_, checkedOne, isOne, auditing⟩ :=
      Transaction.run_bind_ok.mp counting
    obtain ⟨_, audited, append, done⟩ := Transaction.run_bind_ok.mp auditing
    obtain ⟨-, rfl⟩ := Transaction.run_require_ok.mp isProposed
    obtain ⟨-, rfl⟩ := Transaction.run_require_ok.mp isOne
    cases done
    have changed : TimedAdvance now afterStatus checkedOne :=
      timed_updateActions (fun old isSelected => by
        simp only [Bool.and_eq_true, decide_eq_true_eq] at isSelected
        exact timed_review isSelected.2.1 (by simp [ActionRow.sameIdentity])
          (by simp)) _ _ _ update
    exact Evolves.trans changed (timed_audit _ _ _ _ append)

theorem timed_listTransaction (tenantId : String) (limit : Nat) :
    Follows (TimedAdvance now)
      (listTransaction service tenantId now limit) := by
  refine Follows.bind (timed_expireDue _ _) fun _ => ?_
  refine Follows.bind (timed_expireClosedCaseActions _ _) fun _ => ?_
  exact Follows.bind Follows.get fun _ => Follows.pure _

theorem timed_dispatchOne (device : AuthenticatedDevice) (row : ActionRow) :
    Follows (TimedAdvance now) (dispatchOne service device now row) := by
  refine Follows.bind (Follows.ite (fun _ => ?_) fun _ => ?_) fun _ => ?_
  · refine timed_updateActions fun old isSelected => ?_
    simp only [Bool.and_eq_true, decide_eq_true_eq] at isSelected
    refine .advance (by rw [isSelected.2.1]; rfl)
      (by simp [ActionRow.sameIdentity]) (by simp) fun _ => .inl rfl
  · refine timed_updateActions fun old isSelected => ?_
    simp only [Bool.and_eq_true, decide_eq_true_eq] at isSelected
    exact .advance (by rw [isSelected.2.1]; rfl)
      (by simp [ActionRow.sameIdentity]) (by simp [isSelected.2.1]) .inl
  · refine Follows.bind (Follows.require _ _) fun _ => ?_
    exact Follows.bind (timed_audit _) fun _ => Follows.ofExcept _

theorem timed_pollTransaction (device : AuthenticatedDevice) :
    Follows (TimedAdvance now) (pollTransaction service device now) := by
  refine Follows.bind (timed_expireDue _ _) fun _ => ?_
  refine Follows.bind (timed_expireClosedCaseActions _ _) fun _ => ?_
  refine Follows.bind Follows.get fun _ => ?_
  exact Follows.mapM fun row _ => timed_dispatchOne device row

theorem timed_submitTransaction (device : AuthenticatedDevice)
    (actionId statusText summary : String) {status : ActionStatus}
    (evidence : List String)
    (reported : resultStatus statusText = some status) :
    Follows (TimedAdvance now)
      (submitTransaction service device actionId statusText status summary
        evidence now) := by
  intro before outcome after ran
  unfold submitTransaction at ran
  obtain ⟨row, afterRead, read, requiring⟩ := Transaction.run_bind_ok.mp ran
  obtain ⟨_, afterRequire, required, deciding⟩ :=
    Transaction.run_bind_ok.mp requiring
  obtain ⟨found, rfl⟩ := run_requireAction_ok read
  obtain ⟨-, rfl⟩ := Transaction.run_require_ok.mp required
  split at deciding
  · obtain ⟨_, _, sameResult, done⟩ := Transaction.run_bind_ok.mp deciding
    obtain ⟨-, rfl⟩ := Transaction.run_require_ok.mp sameResult
    cases done
    exact Evolves.refl _
  · split at deciding
    · next due =>
        obtain ⟨_, _, expiry, done⟩ := Transaction.run_bind_ok.mp deciding
        cases done
        exact timed_expireFound found (fun _ => due.2) expiry
    · obtain ⟨_, afterStatus, isDispatched, updating⟩ :=
        Transaction.run_bind_ok.mp deciding
      obtain ⟨count, updated, update, counting⟩ :=
        Transaction.run_bind_ok.mp updating
      obtain ⟨_, checkedOne, isOne, auditing⟩ :=
        Transaction.run_bind_ok.mp counting
      obtain ⟨_, audited, append, done⟩ := Transaction.run_bind_ok.mp auditing
      obtain ⟨-, rfl⟩ := Transaction.run_require_ok.mp isDispatched
      obtain ⟨-, rfl⟩ := Transaction.run_require_ok.mp isOne
      cases done
      have terminal := terminal_of_completed (resultStatus_completed reported)
      have notExpired : status ≠ .expired := by
        rcases resultStatus_completed reported with rfl | rfl <;> simp
      have changed : TimedAdvance now afterStatus checkedOne :=
        timed_updateActions (fun old isSelected => by
          simp only [Bool.and_eq_true, decide_eq_true_eq] at isSelected
          exact .advance (by rw [isSelected.2.1]; rfl)
            (by simp [ActionRow.sameIdentity]) notExpired
            fun _ => .inr terminal) _ _ _ update
      exact Evolves.trans changed (timed_audit _ _ _ _ append)

end Transactions

/-! ## Updates that succeed -/

theorem ActionRow.clash_mono {left right left' right' : ActionRow}
    (leftSame : left'.sameIdentity left = true)
    (rightSame : right'.sameIdentity right = true)
    (leftLive : left'.status.live = true → left.status.live = true)
    (rightLive : right'.status.live = true → right.status.live = true)
    (apart : left.clash right = false) : left'.clash right' = false := by
  simp only [ActionRow.sameIdentity, decide_eq_true_eq] at leftSame rightSame
  cases clashes : left'.clash right' with
  | false => rfl
  | true =>
      simp only [ActionRow.clash, ActionRow.hasKey, ActionRow.liveOnDevice,
        leftSame, rightSame, Bool.or_eq_true, Bool.and_eq_true,
        decide_eq_true_eq] at clashes
      rw [← apart]
      simp only [ActionRow.clash, ActionRow.hasKey, ActionRow.liveOnDevice,
        Bool.or_eq_true, Bool.and_eq_true, decide_eq_true_eq, Bool.true_eq]
      apply clashes.imp_right
      rintro ⟨⟨left, right⟩, target⟩
      exact ⟨⟨⟨left.1, leftLive left.2⟩, right.1, rightLive right.2⟩, target⟩

theorem actions_nodup (database : Database Log) :
    database.actions.rows.Nodup :=
  Table.nodup fun row => by simp [ActionRow.clash, ActionRow.hasKey]

/-- A status update of one stored action, to which no trigger objects. -/
theorem updateActions_one {database : Database Log} {row : ActionRow}
    (member : row ∈ database.actions.rows) (selected : ActionRow → Bool)
    (change : ActionRow → ActionRow)
    (only : ∀ stored, selected stored = true →
      stored.hasKey row.tenantId row.actionId = true)
    (isSelected : selected row = true)
    (same : (change row).sameIdentity row = true)
    (closes : (change row).status.live = false)
    (permitted : updateGuard true row (change row) = none) :
    ∃ actions, updateActions true selected change database =
        .ok (1, { database with actions }) ∧ change row ∈ actions.rows := by
  have rowKey : row.hasKey row.tenantId row.actionId = true := by
    simp [ActionRow.hasKey]
  have onlyRow : ∀ stored ∈ database.actions.rows, selected stored = true →
      stored = row := by
    intro stored storedMember storedSelected
    have clashes := clash_of_hasKey (only stored storedSelected) rowKey
    exact Table.eq_of_clash storedMember member clashes.1 clashes.2
  have kept : ∀ stored ∈ database.actions.rows,
      (applyWhere selected change stored).sameIdentity stored = true ∧
        ((applyWhere selected change stored).status.live = true →
          stored.status.live = true) := by
    intro stored storedMember
    cases storedSelected : selected stored with
    | false =>
        rw [Table.applyWhere_unselected storedSelected]
        exact ⟨by simp [ActionRow.sameIdentity], id⟩
    | true =>
        rw [Table.applyWhere_selected storedSelected,
          onlyRow stored storedMember storedSelected]
        refine ⟨same, fun isLive => ?_⟩
        rw [closes] at isLive
        cases isLive
  have stillUnique : (database.actions.rows.map
      (applyWhere selected change)).Pairwise
      fun earlier later => ActionRow.clash earlier later = false := by
    rw [List.pairwise_map]
    refine database.actions.unique.imp_of_mem fun leftMember rightMember => ?_
    exact ActionRow.clash_mono (kept _ leftMember).1 (kept _ rightMember).1
      (kept _ leftMember).2 (kept _ rightMember).2
  have passed : ∀ stored ∈ database.actions.rows, selected stored = true →
      updateGuard true stored (change stored) = none := by
    intro stored storedMember storedSelected
    rw [onlyRow stored storedMember storedSelected]
    exact permitted
  refine ⟨⟨_, stillUnique⟩, ?_, ?_⟩
  · unfold updateActions
    rw [Table.updateWhere_succeeds passed stillUnique,
      Table.countP_of_only (actions_nodup database) member onlyRow,
      if_pos isSelected]
  · have image := List.mem_map_of_mem (f := applyWhere selected change) member
    rwa [Table.applyWhere_selected isSelected] at image

theorem expiryRecord_wellFormed (row : ActionRow) (reason : String) :
    (Json.obj [("previous_status", .str row.status.text),
      ("reason", .str reason)]).WellFormed := by
  simp [Json.WellFormed, Json.WellFormedMembers]

/-- The audit record of an expiry. -/
def expiryRecord (row : ActionRow) (now : Timestamp) (reason : String) :
    AuditRecord :=
  record row.tenantId "response.expired" "system"
    "standalone-response-governor" row.actionId
    { members :=
        [("previous_status", .str row.status.text), ("reason", .str reason)]
      wellFormed := expiryRecord_wellFormed row reason }
    now

theorem run_audit_ok {service : Service Log} {entry : AuditRecord}
    (database : Database Log)
    (appends : (service.append entry database.audit).isOk = true) :
    ∃ log, audit service entry database =
      .ok ((), { database with audit := log }) := by
  unfold audit
  cases appended : service.append entry database.audit with
  | error failure =>
      rw [appended] at appends
      cases appends
  | ok result => exact ⟨result.2, rfl⟩

/-- A stored live action can be expired when the audit log takes the record. -/
theorem run_expireOne {service : Service Log} {database : Database Log}
    {row : ActionRow} {now : Timestamp} {reason : String}
    (member : row ∈ database.actions.rows) (isLive : row.status.live = true)
    (bounded : row.dispatchCount ≤ 5)
    (appends : (service.append (expiryRecord row now reason)
      database.audit).isOk = true) :
    ∃ after, expireOne service row now reason database = .ok ((), after) ∧
      expiredAt now row ∈ after.actions.rows := by
  have transition : transitionAllowed row.status .expired = true := by
    revert isLive
    cases row.status <;> simp [ActionStatus.live, transitionAllowed]
  have sameIdentity : (expiredAt now row).sameIdentity row = true := by
    simp [expiredAt, ActionRow.sameIdentity]
  have permitted : updateGuard true row (expiredAt now row) = none := by
    rw [updateGuard_eq_none]
    exact ⟨sameIdentity, fun _ => ⟨transition, by simp [expiredAt],
      by simp [expiredAt], by simp [expiredAt], by simp [expiredAt]⟩, isLive,
      bounded⟩
  obtain ⟨actions, updated, changed⟩ := updateActions_one member
    (fun stored =>
      stored.hasKey row.tenantId row.actionId && stored.status.live)
    (expiredAt now)
    (fun stored isSelected => (Bool.and_eq_true_iff.mp isSelected).1)
    (by simp [ActionRow.hasKey, isLive]) sameIdentity rfl permitted
  obtain ⟨log, audited⟩ := run_audit_ok { database with actions } appends
  refine ⟨{ database with actions, audit := log }, ?_, changed⟩
  unfold expireOne
  rw [Transaction.run_bind]
  unfold expiredAt at updated
  rw [updated]
  exact audited

/-! ## One operation -/

section Operations

variable {service : Service Log} {database : Database Log}

theorem commitThen_timed {Value Result : Type} {program : Program Log Value}
    {after : Value → Database Log → Except ResponseError Result}
    {now : Timestamp} (follows : Follows (TimedAdvance now) program) :
    TimedAdvance now database (commitThen program after database).2 := by
  unfold commitThen
  split
  · next committed => exact follows _ _ _ (Transaction.commit_ok committed)
  · next rolledBack =>
      rw [Transaction.commit_error rolledBack]
      exact Evolves.refl _

theorem checked_timed {Result : Type} {check : Except ResponseError Unit}
    {inner : Database Log → Outcome Log Result} {now : Timestamp}
    (timed : TimedAdvance now database (inner database).2) :
    TimedAdvance now database (checked check inner database).2 := by
  unfold checked
  split
  · exact timed
  · exact Evolves.refl _

/-- The call is an approval that expires a dispatched action before its
deadline: the reviewer may review it, its case is closed, and the audit log
takes the record. -/
def ExpiresEarly (service : Service Log) (database : Database Log) :
    Operation Log → Prop
  | .approve principal actionId now =>
      requireCapability principal .approveResponse = .ok () ∧
        Identity.requireCurrentCapability database.identity principal
          .approveResponse now = .ok () ∧
        ∃ row, ClosedCaseReview database principal actionId now row ∧
          (service.append (expiryRecord row now "case_closed")
            database.audit).isOk = true
  | _ => False

/-- What an approval that succeeds on such an action shows. -/
theorem expiresEarly_of_review {principal : SessionPrincipal}
    {actionId : String} {now : Timestamp} {row : ActionRow} {expired : Bool}
    {after : Database Log}
    (capable : requireCapability principal .approveResponse = .ok ())
    (ran : approveTransaction service principal actionId now database =
      .ok (expired, after))
    (review : ClosedCaseReview database principal actionId now row) :
    ExpiresEarly service database (.approve principal actionId now) := by
  unfold approveTransaction at ran
  obtain ⟨_, afterCheck, check, reading⟩ := Transaction.run_bind_ok.mp ran
  obtain ⟨stored, afterRead, read, requiring⟩ :=
    Transaction.run_bind_ok.mp reading
  obtain ⟨_, afterRequire, required, asking⟩ :=
    Transaction.run_bind_ok.mp requiring
  obtain ⟨closed, afterCase, case, deciding⟩ :=
    Transaction.run_bind_ok.mp asking
  obtain ⟨current, rfl⟩ := run_requireCurrentCapability.mp check
  obtain ⟨found, rfl⟩ := run_requireAction_ok read
  obtain ⟨-, rfl⟩ := Transaction.run_require_ok.mp required
  have isRow : stored = row := by
    rw [review.1] at found
    exact (Option.some.inj found).symm
  subst isRow
  rw [run_caseIsClosed] at case
  cases case
  rw [if_pos review.2.2.2.2] at deciding
  obtain ⟨_, _, expiry, -⟩ := Transaction.run_bind_ok.mp deciding
  refine ⟨capable, current, stored, review, ?_⟩
  unfold expireOne at expiry
  obtain ⟨count, middle, updated, audited⟩ := Transaction.run_bind_ok.mp expiry
  have isLive : stored.status.live = true := by rw [review.2.1]; rfl
  have sameLog : middle.audit = afterRequire.audit := by
    unfold updateActions at updated
    split at updated
    · cases updated
      rfl
    · cases updated
  have isOne : count = 1 := by
    unfold updateActions at updated
    split at updated
    · next result =>
        cases updated
        rw [(Table.updateWhere_eq_ok.mp result).1]
        have member := List.mem_of_find?_eq_some found
        have key : stored.hasKey stored.tenantId stored.actionId = true := by
          simp [ActionRow.hasKey]
        rw [Table.countP_of_only (actions_nodup afterRequire) member]
        · simp [key, isLive]
        · intro other otherMember isSelected
          have clashes :=
            clash_of_hasKey (Bool.and_eq_true_iff.mp isSelected).1 key
          exact Table.eq_of_clash otherMember member clashes.1 clashes.2
    · cases updated
  rw [if_pos isOne] at audited
  unfold audit at audited
  rw [sameLog] at audited
  unfold expiryRecord
  split at audited
  · next appended =>
      rw [appended]
      rfl
  · cases audited

/-- An operation that is not such an approval keeps the deadlines. -/
theorem execute_timed (operation : Operation Log) {now : Timestamp}
    (time : operation.time = some now)
    (inTime : ¬ ExpiresEarly service database operation) :
    TimedAdvance now database (execute service database operation).2 := by
  cases operation with
  | propose principal actionId caseId actionType deviceId rationale time' _ =>
      cases time
      exact checked_timed (commitThen_timed
        (timed_proposeTransaction _ _ _ _ _ _ _))
  | approve principal actionId time' =>
      cases time
      show TimedAdvance now database
        (approve service principal actionId now database).2
      unfold approve checked
      split
      · next capable =>
          unfold commitThen
          split
          · next committed =>
              have ran := Transaction.commit_ok committed
              refine approveTransaction_timed ran fun row review => ?_
              exact inTime (expiresEarly_of_review capable ran review)
          · next rolledBack =>
              rw [Transaction.commit_error rolledBack]
              exact Evolves.refl _
      · exact Evolves.refl _
  | reject principal actionId reason time' =>
      cases time
      exact checked_timed (commitThen_timed (timed_rejectTransaction _ _ _))
  | listActions principal time' limit =>
      cases time
      exact checked_timed (commitThen_timed (timed_listTransaction _ _))
  | pollDevice verdict requestedDeviceId time' =>
      cases time
      cases verdict with
      | error failure => exact Evolves.refl _
      | ok device =>
          exact checked_timed (commitThen_timed (timed_pollTransaction device))
  | submitDeviceResult verdict actionId statusText summary evidence time' =>
      cases time
      cases verdict with
      | error failure => exact Evolves.refl _
      | ok device =>
          show TimedAdvance now database (submitDeviceResult service
            (.ok device) actionId statusText summary evidence now database).2
          simp only [submitDeviceResult, authenticated]
          cases reported : resultStatus statusText with
          | none => exact Evolves.refl _
          | some status =>
              exact checked_timed (commitThen_timed
                (timed_submitTransaction _ _ _ _ _ reported))
  | get => cases time
  | environment => cases time

/-- An operation that runs at no instant leaves the actions alone. -/
theorem execute_timeless (operation : Operation Log)
    (time : operation.time = none) :
    (execute service database operation).2.actions = database.actions := by
  cases operation with
  | get => rfl
  | environment => rfl
  | propose | approve | reject | listActions | pollDevice
  | submitDeviceResult => cases time

/-- A dispatched action leaves that status for expired only at or after its
deadline. -/
def ExpiresInTime (service : Service Log) (database : Database Log)
    (operation : Operation Log) : Prop :=
  ∀ row ∈ database.actions.rows, row.status = .dispatched →
    ∀ next ∈ (execute service database operation).2.actions.rows,
      next.hasKey row.tenantId row.actionId = true →
      next.status = .expired →
      ∃ now, operation.time = some now ∧ row.expiresAt ≤ now

theorem expiresInTime_of_not_early {operation : Operation Log}
    (inTime : ¬ ExpiresEarly service database operation) :
    ExpiresInTime service database operation := by
  intro row member dispatched next nextMember key expired
  cases time : operation.time with
  | none =>
      rw [execute_timeless operation time] at nextMember
      have rowKey : row.hasKey row.tenantId row.actionId = true := by
        simp [ActionRow.hasKey]
      have clashes := clash_of_hasKey key rowKey
      have same := Table.eq_of_clash nextMember member clashes.1 clashes.2
      rw [same, dispatched] at expired
      cases expired
  | some now =>
      have timed := execute_timed operation time inTime
      obtain ⟨later, laterMember, reached⟩ := timed.descendant member
      have laterKey : later.hasKey row.tenantId row.actionId = true := by
        have same := reached_sameIdentity reached
        simp only [ActionRow.sameIdentity, decide_eq_true_eq] at same
        simp [ActionRow.hasKey, same]
      have clashes := clash_of_hasKey key laterKey
      have same := Table.eq_of_clash nextMember laterMember clashes.1
        clashes.2
      rw [same] at expired
      exact ⟨now, rfl, reached_due reached dispatched expired⟩

/-- The approval expires the action it was called on. -/
theorem early_of_expiresEarly {operation : Operation Log}
    (bounded : ∀ row ∈ database.actions.rows, row.dispatchCount ≤ 5)
    (early : ExpiresEarly service database operation) :
    ¬ ExpiresInTime service database operation := by
  cases operation with
  | approve principal actionId now =>
      obtain ⟨capable, current, row, review, appends⟩ := early
      obtain ⟨found, dispatched, notDue, independent, closed⟩ := review
      have member := List.mem_of_find?_eq_some found
      have isLive : row.status.live = true := by rw [dispatched]; rfl
      obtain ⟨after, expiry, expired⟩ :=
        run_expireOne member isLive (bounded row member) appends
      have capabilityRan : requireCurrentCapability principal .approveResponse
          now database = .ok ((), database) :=
        run_requireCurrentCapability.mpr ⟨current, rfl⟩
      have read : requireAction principal.tenantId actionId database =
          .ok (row, database) := by
        simp [requireAction, Transaction.run_bind, found]
      have ran : approveTransaction service principal actionId now database =
          .ok (true, after) := by
        unfold approveTransaction
        simp only [Transaction.run_bind, capabilityRan, read,
          Transaction.run_require_of independent, run_caseIsClosed, closed,
          if_pos, expiry, Transaction.run_pure]
      have executed : (execute service database
          (.approve principal actionId now)).2 = after := by
        simp only [execute, Outcome.tag, approve, checked_of_ok capable,
          commitThen_of_ok ran]
      intro inTime
      obtain ⟨time, isTime, due⟩ := inTime row member dispatched
        (expiredAt now row) (by rw [executed]; exact expired)
        (by simp [ActionRow.hasKey, expiredAt]) rfl
      cases isTime
      exact Int.not_le.mpr notDue due
  | propose | reject | get | listActions | pollDevice | submitDeviceResult
  | environment => exact early.elim

end Operations

/-! ## The result of a dispatched action -/

theorem resultRecord_wellFormed (summary : String) (evidence : List String) :
    (Json.obj [("evidence", .arr (evidence.map .str)),
      ("summary", .str summary)]).WellFormed := by
  simp [Json.WellFormed, Json.WellFormedMembers]

/-- The audit record of a result. -/
def resultRecord (device : AuthenticatedDevice)
    (actionId statusText summary : String) (evidence : List String)
    (now : Timestamp) : AuditRecord :=
  record device.tenantId ("response." ++ statusText) "device" device.deviceId
    actionId
    { members :=
        [("evidence", .arr (evidence.map .str)), ("summary", .str summary)]
      wellFormed := resultRecord_wellFormed summary evidence }
    now

/-- A result of the target device is accepted until the deadline, whatever has
become of the case. -/
theorem result_accepted (service : Service Log) {database : Database Log}
    {row : ActionRow} (member : row ∈ database.actions.rows)
    (bounded : row.dispatchCount ≤ 5) (isDevice : row.targetType = "device")
    (dispatched : row.status = .dispatched) {device : AuthenticatedDevice}
    (tenant : device.tenantId = row.tenantId)
    (target : device.deviceId = row.targetId) {now : Timestamp}
    (inTime : now < row.expiresAt) {statusText summary : String}
    {evidence : List String}
    (reported : (resultStatus statusText).isSome = true)
    (valid : validResult summary evidence = true)
    (appends : (service.append (resultRecord device row.actionId statusText
      (Text.strip summary) (evidence.map Text.strip) now)
      database.audit).isOk = true) :
    (execute service database (.submitDeviceResult (.ok device) row.actionId
      statusText summary evidence now)).1 =
      .ok (.result ⟨row.actionId, statusText, true⟩) := by
  obtain ⟨status, reports⟩ := Option.isSome_iff_exists.mp reported
  have completed := resultStatus_completed reports
  have key : row.hasKey device.tenantId row.actionId = true := by
    simp [ActionRow.hasKey, tenant]
  have checksPass := resultChecks_eq_ok.mpr valid
  have isLive : row.status.live = true := by rw [dispatched]; rfl
  have closes : status.live = false := by
    rcases completed with rfl | rfl <;> rfl
  have transition : transitionAllowed row.status status = true := by
    rw [dispatched]
    rcases completed with rfl | rfl <;> rfl
  have different : status ≠ .approved ∧ status ≠ .rejected ∧
      status ≠ .dispatched := by
    rcases completed with rfl | rfl <;> simp
  obtain ⟨actions, updated, -⟩ := updateActions_one member
    (fun stored =>
      stored.hasKey device.tenantId row.actionId &&
        (stored.status = .dispatched ∧ stored.targetType = "device" ∧
          stored.targetId = device.deviceId ∧ now < stored.expiresAt : Bool))
    (fun stored =>
      { stored with
        status
        resultJson := some (resultJson statusText (Text.strip summary)
          (evidence.map Text.strip))
        resultDeviceId := some device.deviceId
        completedAt := some now })
    (fun stored isSelected => by
      rw [← tenant]
      exact (Bool.and_eq_true_iff.mp isSelected).1)
    (by simp [key, dispatched, isDevice, target, inTime])
    (by simp [ActionRow.sameIdentity]) closes
    (by
      rw [updateGuard_eq_none]
      refine ⟨by simp [ActionRow.sameIdentity], fun _ => ⟨transition,
        fun same => absurd same different.1,
        fun same => absurd same different.2.1,
        fun same => absurd same different.2.2, fun _ => ?_⟩, isLive, bounded⟩
      simp [resultPermitted, dispatched, target, setBefore, inTime])
  obtain ⟨log, audited⟩ := run_audit_ok { database with actions } appends
  have notCompleted : ¬ (row.status = .succeeded ∨ row.status = .failed) := by
    simp [dispatched]
  have notDue : ¬ (row.status = .dispatched ∧ row.expiresAt ≤ now) :=
    fun due => Int.not_le.mpr inTime due.2
  have ran : submitTransaction service device row.actionId statusText status
      (Text.strip summary) (evidence.map Text.strip) now database =
      .ok ((false, true), { database with actions, audit := log }) := by
    unfold resultRecord at audited
    unfold submitTransaction
    simp only [Transaction.run_bind, run_requireAction member key,
      Transaction.run_require_of
        (show row.targetType = "device" ∧ row.targetId = device.deviceId from
          ⟨isDevice, target.symm⟩),
      if_neg notCompleted, if_neg notDue,
      Transaction.run_require_of dispatched, updated,
      Transaction.run_require_of trivial, audited,
      Transaction.run_pure]
  simp only [execute, Outcome.tag, submitDeviceResult, authenticated, reports,
    checked_of_ok checksPass, commitThen_of_ok ran]
  rfl

/-! ## Runs -/

section Runs

variable {service : Service Log}

/-- An action that was dispatched still is, or has ended: as expired only
when some operation ran at or after its deadline. -/
def Waits (row : ActionRow) (trace : List (Entry Log))
    (database : Database Log) : Prop :=
  ∃ next ∈ database.actions.rows, next.sameIdentity row = true ∧
    (next.status = .dispatched ∨ next.status.terminal = true) ∧
    (next.status = .expired → ∃ entry ∈ trace, ∃ now,
      entry.1.time = some now ∧ row.expiresAt ≤ now)

theorem hasKey_of_sameIdentity {old new : ActionRow}
    (same : new.sameIdentity old = true) :
    new.hasKey old.tenantId old.actionId = true := by
  simp only [ActionRow.sameIdentity, decide_eq_true_eq] at same
  simp [ActionRow.hasKey, same]

theorem waits_step {row : ActionRow} {trace before : List (Entry Log)}
    {database next : Database Log} {entry : Entry Log}
    (invariant : RunInvariant service before database)
    (waits : Waits row trace database)
    (inTime : ¬ ExpiresEarly service database entry.1)
    (step : (system service).step database entry next) :
    Waits row (trace ++ [entry]) next := by
  obtain ⟨stored, member, same, status, overdue⟩ := waits
  have executed : execute service database entry.1 = (entry.2, next) := step
  obtain ⟨later, laterMember, continues⟩ :=
    step_continues invariant entry.1 member
  rw [executed] at laterMember
  have laterSame := sameIdentity_trans same continues.sameIdentity
  rcases status with dispatched | terminal
  · have expiry : later.status = .expired → ∃ now,
        entry.1.time = some now ∧ stored.expiresAt ≤ now := by
      have kept := expiresInTime_of_not_early inTime stored member dispatched
        later
      rw [executed] at kept
      exact kept laterMember (hasKey_of_sameIdentity continues.sameIdentity)
    have laterStatus : later.status = .dispatched ∨
        later.status.terminal = true := by
      cases time : entry.1.time with
      | none =>
          have unchanged : (execute service database entry.1).2.actions =
              database.actions := execute_timeless entry.1 time
          rw [executed] at unchanged
          rw [unchanged] at laterMember
          have clashes := clash_of_hasKey
            (hasKey_of_sameIdentity continues.sameIdentity)
            (show stored.hasKey stored.tenantId stored.actionId = true by
              simp [ActionRow.hasKey])
          rw [Table.eq_of_clash laterMember member clashes.1 clashes.2]
          exact .inl dispatched
      | some now =>
          have timed := execute_timed entry.1 time inTime
          obtain ⟨reachedRow, reachedMember, reached⟩ := timed.descendant member
          rw [executed] at reachedMember
          have clashes := clash_of_hasKey
            (hasKey_of_sameIdentity continues.sameIdentity)
            (hasKey_of_sameIdentity (reached_sameIdentity reached))
          rw [Table.eq_of_clash laterMember reachedMember clashes.1 clashes.2]
          exact reached_dispatched reached dispatched
    refine ⟨later, laterMember, laterSame, laterStatus, fun expired => ?_⟩
    obtain ⟨now, time, due⟩ := expiry expired
    refine ⟨entry, by simp, now, time, ?_⟩
    rw [← expiresAt_of_sameIdentity same]
    exact due
  · have unchanged := continues.terminalUnchanged terminal
    rw [unchanged] at laterMember
    refine ⟨stored, laterMember, same, .inr terminal, fun expired => ?_⟩
    obtain ⟨old, oldMember, now, time, due⟩ := overdue expired
    exact ⟨old, List.mem_append_left _ oldMember, now, time, due⟩

/-- In a run without early expiries, a dispatched action expires at or after
its deadline only, and until then the result of its device is accepted.  In
every state, an operation keeps the deadlines exactly when it is no approval
of a dispatched, unexpired action of a closed case. -/
theorem dispatched_until_deadline (service : Service Log)
    {start middle finish : Database Log} {before after : List (Entry Log)}
    (empty : start.actions.rows = [])
    (reached : (system service).Run start before middle)
    (run : (system service).RunWhere
      (fun database entry => ¬ ExpiresEarly service database entry.1)
      middle after finish) :
    (∀ row ∈ middle.actions.rows, row.status = .dispatched →
      ∀ next ∈ finish.actions.rows,
        next.hasKey row.tenantId row.actionId = true →
        next.status = .expired →
        ∃ entry ∈ after, ∃ now,
          entry.1.time = some now ∧ row.expiresAt ≤ now) ∧
    (∀ operation, ExpiresInTime service finish operation ↔
      ¬ ExpiresEarly service finish operation) ∧
    (∀ row ∈ finish.actions.rows, row.status = .dispatched →
      ∀ device : AuthenticatedDevice, device.tenantId = row.tenantId →
      device.deviceId = row.targetId → ∀ now, now < row.expiresAt →
      ∀ statusText summary evidence,
      (resultStatus statusText).isSome = true →
      validResult summary evidence = true →
      (service.append (resultRecord device row.actionId statusText
        (Text.strip summary) (evidence.map Text.strip) now)
        finish.audit).isOk = true →
      (execute service finish (.submitDeviceResult (.ok device) row.actionId
        statusText summary evidence now)).1 =
        .ok (.result ⟨row.actionId, statusText, true⟩)) := by
  have whole := reached.append (run.weaken fun _ _ _ => trivial)
  have invariant := runInvariant_run empty whole
  have bounded : ∀ row ∈ finish.actions.rows, row.dispatchCount ≤ 5 :=
    fun row member => Nat.le_trans (invariant.rows row member).bounded
      service.admitted.2
  refine ⟨?_, fun operation => ⟨fun inTime early => ?_, ?_⟩, ?_⟩
  · intro row member dispatched next nextMember key expired
    have both : (∃ history, RunInvariant service history finish) ∧
        Waits row after finish := by
      apply run.historyInvariant
      · refine ⟨⟨before, runInvariant_run empty reached⟩, row, member,
          by simp [ActionRow.sameIdentity], .inl dispatched, ?_⟩
        rw [dispatched]
        intro contradiction
        cases contradiction
      · rintro labels state label following ⟨⟨history, holds⟩, waits⟩ inTime
          step
        exact ⟨⟨_, runInvariant_step holds step⟩,
          waits_step holds waits inTime step⟩
    obtain ⟨later, laterMember, same, -, overdue⟩ := both.2
    have clashes := clash_of_hasKey key (hasKey_of_sameIdentity same)
    have isLater := Table.eq_of_clash nextMember laterMember clashes.1
      clashes.2
    exact overdue (isLater ▸ expired)
  · exact early_of_expiresEarly bounded early inTime
  · exact expiresInTime_of_not_early
  · intro row member dispatched device tenant target now inTime statusText
      summary evidence reported valid appends
    exact result_accepted service member (bounded row member)
      (invariant.rows row member).targetsDevice dispatched tenant target inTime
      reported valid appends

end Runs

/-! ## A closed case -/

/-- An action of the two responders is proposed, approved and dispatched. -/
def dispatchExchange : List (Operation Unit) :=
  isolationExchange.take 3

/-- The case of the action is closed. -/
def caseClosure : Operation Unit :=
  .environment [⟨"tenant", "case", .closed⟩] twoResponders.devices
    twoResponders.identity ()

/-- Operations that are no such approvals in any state. -/
theorem run_unreviewed (service : Service Log) (start : Database Log)
    {operations : List (Operation Log)}
    (unreviewed : ∀ operation ∈ operations, ∀ database,
      ¬ ExpiresEarly service database operation) :
    (system service).RunWhere
      (fun database entry => ¬ ExpiresEarly service database entry.1) start
      (runOperations service start operations).1
      (runOperations service start operations).2 := by
  induction operations generalizing start with
  | nil => exact .nil
  | cons operation operations induction =>
      have first : (system service).RunWhere
          (fun database entry => ¬ ExpiresEarly service database entry.1) start
          [(operation, (execute service start operation).1)]
          (execute service start operation).2 :=
        .snoc .nil (unreviewed operation List.mem_cons_self start) rfl
      exact first.append (induction (execute service start operation).2
        fun other member =>
          unreviewed other (List.mem_cons_of_mem _ member))

/-- The case is closed and a responder looks at the actions; the action is
still dispatched. -/
theorem dispatched_until_deadline_closure :
    let dispatched :=
      (runOperations unauditedService twoResponders dispatchExchange).2
    let (trace, finish) := runOperations unauditedService dispatched
      [caseClosure, .listActions
        ⟨"tenant", "a", .responder, "session-a"⟩ 3 10]
    finish.actions.rows.map (·.status) = [.dispatched] ∧
      (∀ row ∈ dispatched.actions.rows, row.status = .dispatched →
        ∀ next ∈ finish.actions.rows,
          next.hasKey row.tenantId row.actionId = true →
          next.status = .expired →
          ∃ entry ∈ trace, ∃ now,
            entry.1.time = some now ∧ row.expiresAt ≤ now) := by
  refine ⟨by decide, ?_⟩
  have reached := run_runOperations unauditedService twoResponders
    dispatchExchange
  have run := run_unreviewed unauditedService
    (runOperations unauditedService twoResponders dispatchExchange).2
    (show ∀ operation ∈ [caseClosure, .listActions
        ⟨"tenant", "a", .responder, "session-a"⟩ 3 10], ∀ database,
        ¬ ExpiresEarly unauditedService database operation by
      simp [caseClosure, ExpiresEarly])
  exact (dispatched_until_deadline unauditedService rfl reached run).1

/-- A second approval of the dispatched action, once its case is closed,
expires it a minute early. -/
theorem closed_case_expires_early :
    let closed := (runOperations unauditedService twoResponders
      (dispatchExchange ++ [caseClosure])).2
    closed.actions.rows.map (·.status) = [.dispatched] ∧
      closed.actions.rows.map (·.expiresAt) = [60000000] ∧
      ((execute unauditedService closed (.approve
        ⟨"tenant", "b", .responder, "session-b"⟩ "action" 3)).2.actions.rows.map
          (·.status)) = [.expired] ∧
      ¬ ExpiresInTime unauditedService closed (.approve
        ⟨"tenant", "b", .responder, "session-b"⟩ "action" 3) := by
  refine ⟨by decide, by decide, by decide, ?_⟩
  apply early_of_expiresEarly
  · decide
  · refine ⟨by decide, by decide, _, ⟨rfl, rfl, by decide, by decide, rfl⟩, rfl⟩

end Response

end ControlForge
