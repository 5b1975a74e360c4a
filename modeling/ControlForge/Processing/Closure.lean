import ControlForge.Processing.Aggregation

/-!
# Closing and reopening cases

A closed case has a disposition of its investigation cycle, and the cycle is
counted by reopenings alone.  The service and the triggers decide alike, with
one exception: a reason that begins with NUL is a text for the service and
empty for the trigger.
-/

namespace ControlForge

namespace Processing

open Store Cases

section Closure

variable {Log : Type} {before after : Database Log}

/-! ## Closed cases -/

/-- Every closed case has a disposition of its investigation cycle. -/
def ClosedWithDisposition (database : Database Log) : Prop :=
  ∀ row ∈ database.cases.rows, row.status = .closed →
    currentDisposition database.dispositions.rows row = true

theorem currentDisposition_congr {dispositions : List DispositionRow}
    {old new : CaseRow} (tenant : new.tenantId = old.tenantId)
    (identifier : new.caseId = old.caseId)
    (cycle : new.investigationCycle = old.investigationCycle) :
    currentDisposition dispositions new =
      currentDisposition dispositions old := by
  unfold currentDisposition
  rw [tenant, identifier, cycle]

theorem currentDisposition_append {dispositions recorded : List DispositionRow}
    {row : CaseRow} (found : currentDisposition dispositions row = true) :
    currentDisposition (dispositions ++ recorded) row = true := by
  unfold currentDisposition at found ⊢
  rw [List.any_append, found, Bool.true_or]

/-- What a permitted transition knows. -/
theorem checkTransition_ok {row : CaseRow} {target : CaseStatus}
    (permitted : checkTransition before row target = .ok ()) :
    target ∈ row.status.transitions ∧
      (reopens target row = true →
        hasActiveSuccessor before.cases.rows row = false) ∧
      (target = .closed →
        currentDisposition before.dispositions.rows row = true) := by
  unfold checkTransition at permitted
  split at permitted
  · cases permitted
  · next allowed =>
      split at permitted
      · cases permitted
      · next noSuccessor =>
          split at permitted
          · cases permitted
          · next disposed =>
              refine ⟨not_not.mp allowed, ?_, ?_⟩
              · intro isReopening
                rw [isReopening, Bool.true_and, Bool.not_eq_true]
                  at noSuccessor
                exact noSuccessor
              · intro isClosing
                simpa [isClosing] using disposed

/-- The status and the cycle a case has after the work of an analyst. -/
theorem caseWork_investigation {row : CaseRow} {change : CaseRow → CaseRow}
    {recorded : List DispositionRow}
    (work : CaseWork before row change recorded) :
    ((change row).status = row.status ∧
      (change row).investigationCycle = row.investigationCycle) ∨
    ∃ target now, change = movedTo target now ∧
      checkTransition before row target = .ok () := by
  cases work with
  | touch => exact .inl ⟨rfl, rfl⟩
  | assign => exact .inl ⟨rfl, rfl⟩
  | move target now permitted => exact .inr ⟨target, now, rfl, permitted⟩
  | dispose => exact .inl ⟨rfl, rfl⟩

theorem closed_analysed (holds : ClosedWithDisposition before)
    {row : CaseRow} {change : CaseRow → CaseRow}
    {recorded : List DispositionRow}
    (analysed : Analysed row change recorded before after) :
    ClosedWithDisposition after := by
  intro new member closed
  rw [analysed.dispositions]
  apply currentDisposition_append
  rw [analysed.cases] at member
  obtain ⟨old, stored, rfl⟩ := List.mem_map.mp member
  by_cases keyed : old.hasKey row.tenantId row.caseId = true
  · obtain ⟨sameTenant, sameId⟩ := caseHasKey_iff.mp keyed
    have isRow := case_eq_of_key stored analysed.stored sameTenant sameId
    rw [Table.applyWhere_selected keyed] at closed ⊢
    rw [isRow] at closed ⊢
    obtain ⟨tenant, identifier, -⟩ := caseWork_keeps analysed.work row
    rcases caseWork_investigation analysed.work with
      ⟨status, cycle⟩ | ⟨target, now, isMove, permitted⟩
    · rw [currentDisposition_congr tenant identifier cycle]
      exact holds row analysed.stored (status ▸ closed)
    · -- A case that is being closed is not being reopened.
      rw [isMove] at closed tenant identifier ⊢
      have isClosing : target = .closed := closed
      have cycle : (movedTo target now row).investigationCycle =
          row.investigationCycle := by
        simp [movedTo, reopens, isClosing]
      rw [currentDisposition_congr tenant identifier cycle]
      exact (checkTransition_ok permitted).2.2 isClosing
  · rw [Bool.not_eq_true] at keyed
    rw [Table.applyWhere_unselected keyed] at closed ⊢
    exact holds old stored closed

theorem closed_alertsStored {library : Library} {decision : Decision}
    {event : EventRow} {now : Timestamp} {alerts : List DetectionAlert}
    (holds : ClosedWithDisposition before)
    (stored : AlertsStored library decision event now alerts before after) :
    ClosedWithDisposition after := by
  obtain ⟨_, _, _, isAfter⟩ := stored.frame
  have dispositions : after.dispositions = before.dispositions := by
    rw [isAfter]
  intro new member closed
  rw [dispositions]
  rcases (cases_evolve stored).ancestor member with
    ⟨old, oldStored, joined⟩ | ⟨fresh, opened, joined⟩
  · obtain ⟨advanced, status, cycle⟩ := joined_many joined
    rw [currentDisposition_congr advanced.tenant advanced.identifier cycle]
    exact holds old oldStored (status ▸ closed)
  · obtain ⟨_, _, _, _, rfl⟩ := opened
    rw [(joined_many joined).2.1] at closed
    cases closed

theorem closed_change {library : Library} {operation : Operation}
    {reply : Reply} (holds : ClosedWithDisposition before)
    (change : Change library before after operation reply) :
    ClosedWithDisposition after := by
  cases change with
  | ingested _ change =>
      obtain ⟨_, _, rfl⟩ := change.frame
      exact holds
  | claimed _ _ _ change =>
      obtain ⟨_, rfl⟩ := change.frame
      exact holds
  | unchanged _ same =>
      rw [same]
      exact holds
  | ended _ _ _ change =>
      obtain ⟨_, rfl⟩ := change.frame
      exact holds
  | completed _ change =>
      obtain ⟨middle, jobs, work, rfl⟩ := change.work
      have stored := closed_alertsStored holds work
      exact stored
  | analysed _ change => exact closed_analysed holds change

/-! ## Cycles -/

/-- The same case after a step: its cycle counts a reopening, and its status
follows the graph. -/
structure CycleStep (old new : CaseRow) : Prop where
  tenant : new.tenantId = old.tenantId
  identifier : new.caseId = old.caseId
  cycle : new.investigationCycle = old.investigationCycle +
    if old.status = .closed ∧ new.status = .opened then 1 else 0
  status : new.status = old.status ∨ new.status ∈ old.status.transitions

theorem cycleStep_of_same {old new : CaseRow}
    (tenant : new.tenantId = old.tenantId)
    (identifier : new.caseId = old.caseId)
    (status : new.status = old.status)
    (cycle : new.investigationCycle = old.investigationCycle) :
    CycleStep old new := by
  refine ⟨tenant, identifier, ?_, .inl status⟩
  have notReopened : ¬ (old.status = .closed ∧ new.status = .opened) := by
    rintro ⟨closed, opened⟩
    rw [status, closed] at opened
    cases opened
  rw [if_neg notReopened, cycle, Nat.add_zero]

theorem cycleStep_change {library : Library} {operation : Operation}
    {reply : Reply} (change : Change library before after operation reply) :
    ∀ old ∈ before.cases.rows, ∃ new ∈ after.cases.rows, CycleStep old new := by
  intro old member
  have kept : after.cases = before.cases →
      ∃ new ∈ after.cases.rows, CycleStep old new := by
    intro same
    rw [same]
    exact ⟨old, member, cycleStep_of_same rfl rfl rfl rfl⟩
  cases change with
  | ingested _ change =>
      obtain ⟨_, _, rfl⟩ := change.frame
      exact kept rfl
  | claimed _ _ _ change =>
      obtain ⟨_, rfl⟩ := change.frame
      exact kept rfl
  | unchanged _ same => exact kept (by rw [same])
  | ended _ _ _ change =>
      obtain ⟨_, rfl⟩ := change.frame
      exact kept rfl
  | completed _ change =>
      obtain ⟨middle, jobs, work, rfl⟩ := change.work
      obtain ⟨new, stored, joined⟩ := (cases_evolve work).descendant member
      obtain ⟨advanced, status, cycle⟩ := joined_many joined
      exact ⟨new, stored, cycleStep_of_same advanced.tenant
        advanced.identifier status cycle⟩
  | @analysed row caseChange recorded _ change =>
      refine ⟨Table.applyWhere (·.hasKey row.tenantId row.caseId) caseChange
        old, ?_, ?_⟩
      · rw [change.cases]
        exact List.mem_map_of_mem member
      · by_cases keyed : old.hasKey row.tenantId row.caseId = true
        · obtain ⟨sameTenant, sameId⟩ := caseHasKey_iff.mp keyed
          have isRow := case_eq_of_key member change.stored sameTenant sameId
          rw [Table.applyWhere_selected keyed, isRow]
          obtain ⟨tenant, identifier, -⟩ := caseWork_keeps change.work row
          rcases caseWork_investigation change.work with
            ⟨status, cycle⟩ | ⟨target, now, isMove, permitted⟩
          · exact cycleStep_of_same tenant identifier status cycle
          · rw [isMove]
            refine ⟨rfl, rfl, ?_, .inr (checkTransition_ok permitted).1⟩
            simp [movedTo, reopens]
        · rw [Bool.not_eq_true] at keyed
          rw [Table.applyWhere_unselected keyed]
          exact cycleStep_of_same rfl rfl rfl rfl

/-! ## What the triggers refuse -/

/-- The failure is not the abort of a trigger. -/
def NotTrigger (failure : StoreError) : Prop :=
  ∀ message, failure ≠ .trigger message

/-- The triggers let exactly the graph through, with a new version, and a
closure only with a disposition. -/
theorem statusTriggers_eq_none {dispositions : List DispositionRow}
    {old new : CaseRow} :
    statusTriggers dispositions old new = none ↔
      new.status ∈ old.status.transitions ∧ new.version = old.version + 1 ∧
        (new.status = .closed → currentDisposition dispositions old = true) := by
  unfold statusTriggers
  simp [CaseStatus.transitionGuard_iff]

/-- The service permits no transition that a trigger refuses. -/
theorem statusTriggers_movedTo {row : CaseRow} {target : CaseStatus}
    (permitted : checkTransition before row target = .ok ())
    (now : Timestamp) :
    statusTriggers before.dispositions.rows row (movedTo target now row) =
      none := by
  obtain ⟨allowed, -, closing⟩ := checkTransition_ok permitted
  exact statusTriggers_eq_none.mpr ⟨allowed, rfl, closing⟩

theorem requireCapability_notTrigger {principal : SessionPrincipal}
    {capability : Capability} :
    Transaction.Raises NotTrigger
      (Transaction.ofExcept (requireCapability principal capability) :
        Program Log Unit) := by
  apply Transaction.Raises.ofExcept
  intro failure raised message
  unfold Cases.requireCapability at raised
  cases checked : Identity.requireCapability principal principal.tenantId
      capability with
  | ok value =>
      rw [checked] at raised
      cases raised
  | error refused =>
      rw [checked] at raised
      cases raised
      exact StoreError.noConfusion

theorem requireCase_notTrigger {tenantId caseId : String} :
    Transaction.Raises NotTrigger
      (requireCase tenantId caseId : Program Log CaseRow) := by
  unfold requireCase
  refine Transaction.Raises.bind Transaction.Raises.get fun database => ?_
  split
  · exact Transaction.Raises.pure _
  · exact Transaction.Raises.throw fun _ => StoreError.noConfusion

theorem insertActivity_notTrigger {row : ActivityRow} :
    Transaction.Raises NotTrigger (insertActivity row : Program Log Unit) := by
  intro database failure raised message
  unfold insertActivity at raised
  split at raised
  · cases raised
  · cases raised
    exact StoreError.noConfusion

theorem audit_notTrigger {service : Service Log}
    {principal : SessionPrincipal} {action caseId : String} {payload : Dict}
    {now : Timestamp} :
    Transaction.Raises NotTrigger
      (audit service principal action caseId payload now) := by
  intro database failure raised message
  unfold audit at raised
  split at raised
  · cases raised
  · cases raised
    exact StoreError.noConfusion

theorem touchCase_notTrigger {tenantId caseId : String} {now : Timestamp} :
    Transaction.Raises NotTrigger
      (touchCase tenantId caseId now : Program Log Unit) := by
  unfold touchCase
  refine Transaction.Raises.bind ?_ fun _ => Transaction.Raises.pure _
  intro database failure raised
  have keeps (row : CaseRow) : (touched now row).tenantId = row.tenantId ∧
      (touched now row).caseId = row.caseId ∧
      (touched now row).semanticKey = row.semanticKey ∧
      (touched now row).status = row.status := ⟨rfl, rfl, rfl, rfl⟩
  exact (updateCases_not_error keeps raised).elim

theorem targetStatus_notTrigger {target : String} :
    Transaction.Raises NotTrigger
      (Transaction.ofExcept (targetStatus target) :
        Program Log CaseStatus) := by
  apply Transaction.Raises.ofExcept
  intro failure raised message
  unfold targetStatus at raised
  split at raised
  · cases raised
  · cases raised
    exact StoreError.noConfusion

theorem checkTransition_notTrigger {row : CaseRow} {target : CaseStatus} :
    Transaction.Raises NotTrigger
      (Transaction.ofExcept (checkTransition before row target) :
        Program Log Unit) := by
  apply Transaction.Raises.ofExcept
  intro failure raised message
  unfold checkTransition at raised
  split at raised
  · cases raised
    exact StoreError.noConfusion
  · split at raised
    · cases raised
      exact StoreError.noConfusion
    · split at raised
      · cases raised
        exact StoreError.noConfusion
      · cases raised

/-- The update of a permitted transition is not aborted by a trigger. -/
theorem move_notTrigger {row : CaseRow} (stored : row ∈ before.cases.rows)
    {target : CaseStatus}
    (permitted : checkTransition before row target = .ok ())
    {now : Timestamp} {failure : StoreError}
    (raised : updateCases (·.hasKey row.tenantId row.caseId)
      (movedTo target now) (statusTriggers before.dispositions.rows) before =
        .error failure) : NotTrigger failure := by
  unfold updateCases at raised
  split at raised
  · cases raised
  · next refused =>
      cases raised
      rcases Table.updateWhere_error refused with
        ⟨other, otherStored, keyed, objection⟩ | ⟨isIntegrity, -⟩
      · obtain ⟨sameTenant, sameId⟩ := caseHasKey_iff.mp keyed
        have isRow := case_eq_of_key otherStored stored sameTenant sameId
        rw [isRow, statusTriggers_movedTo permitted] at objection
        cases objection
      · intro message
        rw [isIntegrity]
        exact StoreError.noConfusion

theorem transition_notTrigger {service : Service Log}
    {principal : SessionPrincipal} {activityId caseId targetText : String}
    {now : Timestamp} :
    Transaction.Raises NotTrigger
      (Cases.transition service principal activityId caseId targetText
        now) := by
  unfold Cases.transition
  apply Transaction.Raises.bind requireCapability_notTrigger
  intro _
  apply Transaction.Raises.bind targetStatus_notTrigger
  intro target database failure raised
  -- The update is reached with the row that was checked.
  rcases Transaction.run_bind_error.mp raised with
    missing | ⟨row, atRow, required, afterCase⟩
  · exact requireCase_notTrigger _ _ missing
  · obtain ⟨isDatabase, stored, keyed⟩ := requireCase_ok required
    subst isDatabase
    rcases Transaction.run_bind_error.mp afterCase with
      reading | ⟨read, atRead, got, afterRead⟩
    · cases reading
    · cases got
      rcases Transaction.run_bind_error.mp afterRead with
        refused | ⟨_, checked, check, afterCheck⟩
      · exact checkTransition_notTrigger _ _ refused
      · obtain ⟨permitted, isChecked⟩ :=
          Transaction.run_ofExcept_eq_ok.mp check
        subst isChecked
        rcases Transaction.run_bind_error.mp afterCheck with
          moving | ⟨_, moved, -, afterMove⟩
        · obtain ⟨tenant, identifier⟩ := caseHasKey_iff.mp keyed
          rw [← tenant, ← identifier] at moving
          exact move_notTrigger stored permitted moving
        · rcases Transaction.run_bind_error.mp afterMove with
            noting | ⟨_, noted, -, auditing⟩
          · exact insertActivity_notTrigger _ _ noting
          · exact audit_notTrigger _ _ auditing

/-! ## Reasons that begin with NUL -/

/-- The stripped reason begins with NUL. -/
def nulReason (falsePositiveReason : Option String) : Bool :=
  match falsePositiveReason with
  | none => false
  | some reason => (Text.strip reason).toList.head? = some '\x00'

theorem checkDisposition_notTrigger {status rationale : String}
    {reason : Option String} :
    Transaction.Raises NotTrigger
      (Transaction.ofExcept (checkDisposition status rationale reason) :
        Program Log Unit) := by
  apply Transaction.Raises.ofExcept
  intro failure raised message
  unfold checkDisposition at raised
  repeat' split at raised
  all_goals cases raised
  all_goals exact StoreError.noConfusion

/-- The trigger objects to a disposition the service has checked exactly when
its reason begins with NUL. -/
theorem dispositionTriggers_checked {status rationale : String}
    {falsePositiveReason : Option String}
    (checked : checkDisposition status rationale
      (falsePositiveReason.map Text.strip) = .ok ())
    {row : DispositionRow} (sameStatus : row.status = status)
    (sameReason : row.falsePositiveReason =
      falsePositiveReason.map Text.strip) :
    dispositionTriggers row =
      if status = "false_positive" && nulReason falsePositiveReason then
        some "false-positive reason does not match disposition"
      else none := by
  unfold checkDisposition at checked
  split at checked
  · cases checked
  · split at checked
    · cases checked
    · split at checked
      · next isFalsePositive =>
          cases falsePositiveReason with
          | none => cases checked
          | some reason =>
              dsimp only [Option.map_some] at checked sameReason
              split at checked
              · cases checked
              · next bounded =>
                  have nonempty : (Text.strip reason).toList ≠ [] := by
                    intro empty
                    exact bounded (.inl (Text.length_eq_zero.mpr empty))
                  obtain ⟨first, rest, stripped⟩ :=
                    List.exists_cons_of_ne_nil nonempty
                  have counted := Text.sqliteLength_trim_strip stripped
                  have isNul : nulReason (some reason) = true ↔
                      first = '\x00' := by
                    simp [nulReason, stripped]
                  unfold dispositionTriggers
                  rw [sameReason, sameStatus]
                  by_cases begins : first = '\x00'
                  · simp [firstRaised, isFalsePositive, counted.mpr begins,
                      isNul.mpr begins]
                  · have notNul : nulReason (some reason) = false := by
                      rw [← Bool.not_eq_true, isNul]
                      exact begins
                    have notZero : Text.sqliteLength
                        (Text.sqliteTrim (Text.strip reason)) ≠ 0 :=
                      fun zero => begins (counted.mp zero)
                    simp [firstRaised, isFalsePositive, notNul, notZero]
      · next notFalsePositive =>
          split at checked
          · cases checked
          · next noReason =>
              cases falsePositiveReason with
              | none =>
                  unfold dispositionTriggers
                  rw [sameReason, sameStatus]
                  simp [firstRaised, notFalsePositive]
              | some reason => exact absurd rfl noReason

/-- The service accepts a disposition: the caller may record it, its texts
pass the checks, and the case exists. -/
structure DispositionAccepted (database : Database Log)
    (principal : SessionPrincipal) (caseId status rationale : String)
    (falsePositiveReason : Option String) : Prop where
  allowed : Cases.requireCapability principal .disposition = .ok ()
  checked : checkDisposition status (Text.strip rationale)
    (falsePositiveReason.map Text.strip) = .ok ()
  stored : ∃ row ∈ database.cases.rows,
    row.hasKey principal.tenantId caseId = true

variable {service : Service Log} {principal : SessionPrincipal}
  {dispositionId activityId caseId status rationale : String}
  {falsePositiveReason : Option String} {now : Timestamp}

theorem requireCase_of_mem {row : CaseRow} (stored : row ∈ before.cases.rows)
    {tenantId : String} (keyed : row.hasKey tenantId caseId = true) :
    requireCase tenantId caseId before = .ok (row, before) := by
  have found : before.cases.rows.find? (·.hasKey tenantId caseId) =
      some row := by
    apply Table.find?_eq_some_of_clash stored keyed
    intro other otherKeyed
    obtain ⟨tenant, identifier⟩ := caseHasKey_iff.mp keyed
    obtain ⟨otherTenant, otherId⟩ := caseHasKey_iff.mp otherKeyed
    simp [CaseRow.clash, CaseRow.hasKey, tenant, identifier, otherTenant,
      otherId]
  unfold requireCase
  rw [Transaction.run_bind, Transaction.run_get]
  dsimp only
  rw [found]
  rfl

/-- A disposition is aborted by a trigger exactly when the service accepts it
as a false positive whose reason begins with NUL. -/
theorem recordDisposition_trigger :
    (∃ message, recordDisposition service principal dispositionId activityId
      caseId status rationale falsePositiveReason now before =
        .error (.trigger message)) ↔
      DispositionAccepted before principal caseId status rationale
          falsePositiveReason ∧
        status = "false_positive" ∧ nulReason falsePositiveReason = true := by
  constructor
  · rintro ⟨message, raised⟩
    unfold recordDisposition at raised
    rcases Transaction.run_bind_error.mp raised with
      denied | ⟨_, first, allowed, afterAllowed⟩
    · exact absurd rfl (requireCapability_notTrigger _ _ denied message)
    rcases Transaction.run_bind_error.mp afterAllowed with
      refused | ⟨_, second, check, afterCheck⟩
    · exact absurd rfl (checkDisposition_notTrigger _ _ refused message)
    rcases Transaction.run_bind_error.mp afterCheck with
      missing | ⟨row, third, required, afterCase⟩
    · exact absurd rfl (requireCase_notTrigger _ _ missing message)
    rcases Transaction.run_bind_error.mp afterCase with
      reading | ⟨read, fourth, got, afterRead⟩
    · cases reading
    obtain ⟨isAllowed, isFirst⟩ :=
      Transaction.run_ofExcept_eq_ok.mp allowed
    obtain ⟨isChecked, isSecond⟩ := Transaction.run_ofExcept_eq_ok.mp check
    obtain ⟨isThird, stored, keyed⟩ := requireCase_ok required
    subst isFirst
    subst isSecond
    rcases Transaction.run_bind_error.mp afterRead with
      inserting | ⟨_, fifth, -, afterInsert⟩
    · refine ⟨⟨isAllowed, isChecked, row, stored, keyed⟩, ?_⟩
      unfold insertDisposition at inserting
      rw [dispositionTriggers_checked isChecked rfl rfl] at inserting
      by_cases isNul :
          (status = "false_positive" && nulReason falsePositiveReason) = true
      · rw [Bool.and_eq_true, decide_eq_true_iff] at isNul
        exact isNul
      · rw [if_neg isNul] at inserting
        dsimp only at inserting
        split at inserting <;> cases inserting
    rcases Transaction.run_bind_error.mp afterInsert with
      noting | ⟨_, sixth, -, afterNote⟩
    · exact absurd rfl (insertActivity_notTrigger _ _ noting message)
    rcases Transaction.run_bind_error.mp afterNote with
      touching | ⟨_, seventh, -, afterTouch⟩
    · exact absurd rfl (touchCase_notTrigger _ _ touching message)
    rcases Transaction.run_bind_error.mp afterTouch with
      auditing | ⟨_, eighth, -, returned⟩
    · exact absurd rfl (audit_notTrigger _ _ auditing message)
    · cases returned
  · rintro ⟨⟨allowed, checked, row, stored, keyed⟩, isFalsePositive, isNul⟩
    refine ⟨"false-positive reason does not match disposition", ?_⟩
    unfold recordDisposition
    rw [Transaction.run_bind, allowed, Transaction.run_ofExcept_ok]
    dsimp only
    rw [Transaction.run_bind, checked, Transaction.run_ofExcept_ok]
    dsimp only
    rw [Transaction.run_bind, requireCase_of_mem stored keyed]
    dsimp only
    rw [Transaction.run_bind, Transaction.run_get]
    dsimp only
    rw [Transaction.run_bind, insertDisposition,
      dispositionTriggers_checked checked rfl rfl]
    simp [isFalsePositive, isNul]

end Closure

/-! ## Any run -/

/-- A transition or a disposition was aborted by a trigger. -/
def Event.abortedByTrigger (event : Event) : Bool :=
  match event.operation, event.outcome with
  | .transition .., .error (.trigger _) => true
  | .recordDisposition .., .error (.trigger _) => true
  | _, _ => false

section Runs

variable {Log : Type} {service : Service Log}
  {start database next : Database Log} {trace : List Event} {event : Event}

/-- An accepted false positive whose stripped reason begins with NUL. -/
def NulDisposition (database : Database Log) : Operation → Prop
  | .recordDisposition principal _ _ caseId status rationale
      falsePositiveReason _ =>
      DispositionAccepted database principal caseId status rationale
          falsePositiveReason ∧
        status = "false_positive" ∧ nulReason falsePositiveReason = true
  | _ => False

theorem raised_of_step {failure : StoreError}
    (step : (system service).step database event next)
    (refused : event.outcome = .error failure) :
    program service event.operation database = .error failure := by
  have committed : (program service event.operation).commit database =
      (event.outcome, next) := step
  rw [refused] at committed
  exact Transaction.commit_raised committed

theorem bind_pure_error {Value : Type} {first : Program Log Value}
    {wrap : Value → Reply} {failure : StoreError}
    (raised : (do let value ← first; return wrap value : Program Log Reply)
      database = .error failure) : first database = .error failure := by
  rcases Transaction.run_bind_error.mp raised with
    early | ⟨value, middle, -, returned⟩
  · exact early
  · cases returned

/-- A step is aborted by a trigger exactly when its operation is such a
disposition. -/
theorem aborted_iff (step : (system service).step database event next) :
    event.abortedByTrigger = true ↔
      NulDisposition database event.operation := by
  obtain ⟨operation, outcome⟩ := event
  cases operation with
  | transition principal activityId caseId target now =>
      constructor
      · intro aborted
        unfold Event.abortedByTrigger at aborted
        split at aborted
        · next message isTransition refused =>
            have raised := bind_pure_error (raised_of_step step refused)
            exact absurd rfl (transition_notTrigger _ _ raised message)
        · next isDisposition _ => cases isDisposition
        · cases aborted
      · exact False.elim
  | recordDisposition principal dispositionId activityId caseId status
      rationale falsePositiveReason now =>
      constructor
      · intro aborted
        unfold Event.abortedByTrigger at aborted
        split at aborted
        · next isTransition _ => cases isTransition
        · next message _ refused =>
            have raised := bind_pure_error (raised_of_step step refused)
            exact recordDisposition_trigger.mp ⟨message, raised⟩
        · cases aborted
      · intro isNul
        obtain ⟨message, raised⟩ : ∃ message, recordDisposition service
            principal dispositionId activityId caseId status rationale
            falsePositiveReason now database = .error (.trigger message) :=
          recordDisposition_trigger.mpr isNul
        have raisedAll : program service (.recordDisposition principal
            dispositionId activityId caseId status rationale
            falsePositiveReason now) database = .error (.trigger message) :=
          Transaction.run_bind_error.mpr (.inl raised)
        have committed : (program service (.recordDisposition principal
            dispositionId activityId caseId status rationale
            falsePositiveReason now)).commit database = (outcome, next) := step
        rw [Transaction.commit, raisedAll] at committed
        have refused : outcome = .error (.trigger message) :=
          (Prod.mk.inj committed).1.symm
        rw [refused]
        rfl
  | ingest | ingestOne | lease | persist | complete | fail | addNote | assign =>
      constructor
      · intro aborted
        cases aborted
      · exact False.elim

/-- The reopening of a case with an active successor is refused. -/
theorem reopen_refused (step : (system service).step database event next)
    {principal : SessionPrincipal} {activityId caseId : String}
    {now : Timestamp} {row : CaseRow}
    (isReopening : event.operation =
      .transition principal activityId caseId CaseStatus.opened.text now)
    (stored : row ∈ database.cases.rows)
    (keyed : row.hasKey principal.tenantId caseId = true)
    (closed : row.status = .closed)
    (successor : hasActiveSuccessor database.cases.rows row = true) :
    event.outcome.isOk = false ∧ next = database := by
  rcases step_cases service step with
    ⟨failure, refused, same⟩ | ⟨reply, accepted, ran⟩
  · rw [refused]
    exact ⟨rfl, same⟩
  · rw [isReopening] at ran
    obtain ⟨result, moved, -⟩ := bind_pure_ok ran
    obtain ⟨other, target, otherKeyed, isTarget, permitted, analysed⟩ :=
      transition_ok moved
    have isOpened : target = .opened := by
      rw [targetStatus, CaseStatus.ofText_text] at isTarget
      exact (Except.ok.inj isTarget).symm
    obtain ⟨tenant, identifier⟩ := caseHasKey_iff.mp keyed
    obtain ⟨otherTenant, otherId⟩ := caseHasKey_iff.mp otherKeyed
    have isRow : other = row := case_eq_of_key analysed.stored stored
      (otherTenant.trans tenant.symm) (otherId.trans identifier.symm)
    rw [isRow, isOpened] at permitted
    have noSuccessor := (checkTransition_ok permitted).2.1
      (by simp [reopens, closed])
    rw [successor] at noSuccessor
    cases noSuccessor

theorem closed_run (isInitial : (system service).initial start)
    (run : (system service).Run start trace database) :
    ClosedWithDisposition database := by
  apply run.invariant
  · intro state label after holds _ step
    rcases change_of_step step with
      ⟨failure, refused, same⟩ | ⟨reply, accepted, change⟩
    · rw [same]
      exact holds
    · exact closed_change holds change
  · intro row member
    rw [isInitial.cases] at member
    cases member

/-- A run is free of aborts exactly when it is free of such dispositions. -/
theorem aborts_iff (run : (system service).Run start trace database) :
    (∀ event ∈ trace, event.abortedByTrigger = false) ↔
      (system service).RunWhere
        (fun state event => ¬ NulDisposition state event.operation) start
        trace database := by
  constructor
  · intro free
    induction run with
    | nil => exact .nil
    | snoc before _ step induction =>
        refine .snoc (induction fun event member =>
          free event (List.mem_append_left _ member)) ?_ step
        intro isNul
        have aborted := (aborted_iff step).mpr isNul
        rw [free _ (List.mem_append_right _ (List.mem_singleton_self _))]
          at aborted
        cases aborted
  · intro guarded
    clear run
    induction guarded with
    | nil => exact fun event member => (List.not_mem_nil member).elim
    | snoc before notNul step induction =>
        intro event member
        rcases List.mem_append.mp member with earlier | last
        · exact induction event earlier
        · rw [List.mem_singleton.mp last, ← Bool.not_eq_true,
            aborted_iff step]
          exact notNul

/-- Closing and reopening, for any run: closed cases have a disposition of
their cycle; cycles count reopenings; no second case is open with a key, and
such a reopening changes nothing; a statement the triggers accept follows the
graph; and the triggers abort nothing the service accepts exactly when no
accepted false-positive reason begins with NUL. -/
theorem case_closure (isInitial : (system service).initial start)
    (run : (system service).Run start trace database) :
    (∀ row ∈ database.cases.rows, row.status = .closed →
      ∃ disposition ∈ database.dispositions.rows,
        disposition.tenantId = row.tenantId ∧
          disposition.caseId = row.caseId ∧
          disposition.investigationCycle = row.investigationCycle) ∧
    (∀ event next, (system service).step database event next →
      (∀ old ∈ database.cases.rows, ∃ new ∈ next.cases.rows,
        CycleStep old new) ∧
      (∀ tenantId semanticKey, ∀ left ∈ next.cases.rows,
        ∀ right ∈ next.cases.rows,
          left.openWith tenantId semanticKey = true →
          right.openWith tenantId semanticKey = true → left = right) ∧
      ∀ principal activityId caseId now, ∀ row ∈ database.cases.rows,
        event.operation = .transition principal activityId caseId
            CaseStatus.opened.text now →
          row.hasKey principal.tenantId caseId = true →
          row.status = .closed →
          hasActiveSuccessor database.cases.rows row = true →
          event.outcome.isOk = false ∧ next = database) ∧
    (∀ selected change count after,
      updateCases selected change
          (statusTriggers database.dispositions.rows) database =
        .ok (count, after) →
      ∀ row ∈ database.cases.rows, selected row = true →
        (change row).status ∈ row.status.transitions) ∧
    ((∀ event ∈ trace, event.abortedByTrigger = false) ↔
      (system service).RunWhere
        (fun state event => ¬ NulDisposition state event.operation) start
        trace database) := by
  refine ⟨?_, ?_, ?_, aborts_iff run⟩
  · intro row member closed
    have found := closed_run isInitial run row member closed
    obtain ⟨disposition, stored, same⟩ := List.any_eq_true.mp found
    exact ⟨disposition, stored, of_decide_eq_true same⟩
  · intro event next step
    refine ⟨?_, ?_, ?_⟩
    · intro old member
      rcases change_of_step step with
        ⟨failure, refused, same⟩ | ⟨reply, accepted, change⟩
      · rw [same]
        exact ⟨old, member, cycleStep_of_same rfl rfl rfl rfl⟩
      · exact cycleStep_change change old member
    · intro tenantId semanticKey left leftStored right rightStored
      exact one_open_case leftStored rightStored
    · intro principal activityId caseId now row stored isReopening keyed
        closed successor
      exact reopen_refused step isReopening stored keyed closed successor
  · intro selected change count after updated row member isSelected
    unfold updateCases at updated
    split at updated
    · next cases changed =>
        have passed := (Table.updateWhere_eq_ok.mp changed).2.2 row member
          isSelected
        rw [Option.map_eq_none_iff, statusTriggers_eq_none] at passed
        exact passed.1
    · cases updated

end Runs

/-! ## A case that is closed, and a reason that is not accepted -/

def sampleAnalyst : SessionPrincipal := ⟨"acme", "ana", .analyst, "session-1"⟩

def sampleCaseId : String := "dbfd445890856013e54fefd23f06848e"

def closing : List Operation :=
  takeover ++
    [.recordDisposition sampleAnalyst "disposition-1" "activity-1" sampleCaseId
        "benign" "expected sign-in" none (seconds 80),
      .transition sampleAnalyst "activity-2" sampleCaseId "closed" (seconds 81),
      .transition sampleAnalyst "activity-3" sampleCaseId "open" (seconds 82),
      .transition sampleAnalyst "activity-4" sampleCaseId "closed"
        (seconds 83)]

/-- The second closure needs a disposition of the second cycle. -/
theorem case_closure_closing :
    (∀ row ∈ (runOperations sampleService sampleStart closing).2.cases.rows,
      row.status = .closed →
        ∃ disposition ∈
            (runOperations sampleService sampleStart
              closing).2.dispositions.rows,
          disposition.tenantId = row.tenantId ∧
            disposition.caseId = row.caseId ∧
            disposition.investigationCycle = row.investigationCycle) ∧
    (runOperations sampleService sampleStart closing).1.map
      (·.outcome.isOk) =
        [true, true, true, false, true, true, true, true, false] := by
  have outcomes : (runOperations sampleService sampleStart closing).1.map
      (·.outcome.isOk) =
        [true, true, true, false, true, true, true, true, false] := by
    decide +kernel
  exact ⟨(case_closure sampleStart_initial
    (run_runOperations sampleService sampleStart closing)).1, outcomes⟩

def nulReasoned : List Operation :=
  takeover ++
    [.recordDisposition sampleAnalyst "disposition-1" "activity-1" sampleCaseId
      "false_positive" "expected sign-in" (some "\x00 known host")
      (seconds 80)]

/-- Not every disposition the service accepts passes the triggers. -/
theorem nul_reason_aborted :
    ¬ ∀ (start database : Database Unit) (trace : List Event),
      (system sampleService).initial start →
      (system sampleService).Run start trace database →
      ∀ event ∈ trace, event.abortedByTrigger = false := by
  intro never
  have free := never sampleStart _ _ sampleStart_initial
    (run_runOperations sampleService sampleStart nulReasoned)
  have aborted : (runOperations sampleService sampleStart nulReasoned).1.any
      Event.abortedByTrigger = true := by
    decide +kernel
  obtain ⟨event, member, isAborted⟩ := List.any_eq_true.mp aborted
  rw [free event member] at isAborted
  cases isAborted

end Processing

end ControlForge
