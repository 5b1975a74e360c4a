import ControlForge.Processing.Leases
import Mathlib.Order.Bounds.Basic

/-!
# Aggregation of alerts into cases

Every stored alert has one link, to a case with its semantic key; a case has
the greatest priority its alerts induce.  Storing an alert preserves this,
whether the alert opens a case or joins one, and nothing else changes links or
priorities.
-/

namespace ControlForge

namespace Processing

open Store Cases

section Invariant

variable {Log : Type}

/-- The link belongs to the alert. -/
def OfAlert (alert : AlertRow) (link : CaseAlertRow) : Prop :=
  link.tenantId = alert.tenantId ∧ link.alertId = alert.alertId

/-- The event is the one the alert was raised for. -/
def SourceOf (alert : AlertRow) (event : EventRow) : Prop :=
  event.tenantId = alert.tenantId ∧ event.eventId = alert.eventId

/-- The case is the one the link names. -/
def TargetOf (link : CaseAlertRow) (row : CaseRow) : Prop :=
  row.tenantId = link.tenantId ∧ row.caseId = link.caseId

/-- The priorities of the alerts linked to a case. -/
def inducedPriorities (database : Database Log) (tenantId caseId : String) :
    Set Priority :=
  { priority | ∃ link ∈ database.caseAlerts.rows,
      link.tenantId = tenantId ∧ link.caseId = caseId ∧
        ∃ alert ∈ database.alerts.rows, OfAlert alert link ∧
          priority = casePriority alert.severity }

structure Consistent (library : Library) (database : Database Log) :
    Prop where
  tenants : ∀ event ∈ database.events.rows, event.tenantId ∈ database.tenants
  linked : ∀ alert ∈ database.alerts.rows,
    ∃ link ∈ database.caseAlerts.rows, OfAlert alert link
  linkedOnce : ∀ left ∈ database.caseAlerts.rows,
    ∀ right ∈ database.caseAlerts.rows, left.tenantId = right.tenantId →
      left.alertId = right.alertId → left = right
  targets : ∀ link ∈ database.caseAlerts.rows,
    ∃ alert ∈ database.alerts.rows, OfAlert alert link ∧
      ∃ event ∈ database.events.rows, SourceOf alert event ∧
        ∃ row ∈ database.cases.rows, TargetOf link row ∧
          row.semanticKey =
            some (alertKey library event alert.ruleId alert.actor)
  priorities : ∀ row ∈ database.cases.rows,
    IsGreatest (inducedPriorities database row.tenantId row.caseId)
      row.priority
  origins : ∀ row ∈ database.cases.rows, ∃ alert ∈ database.alerts.rows,
    alert.tenantId = row.tenantId ∧
      row.caseId = caseIdOf library alert.tenantId alert.alertId

theorem consistent_initial (library : Library) {database : Database Log}
    (isEmpty : Empty database) : Consistent library database := by
  constructor
  · simp [isEmpty.events]
  · simp [isEmpty.alerts]
  · simp [isEmpty.caseAlerts]
  · simp [isEmpty.caseAlerts]
  · simp [isEmpty.cases]
  · simp [isEmpty.cases]

theorem case_eq_of_key {database : Database Log} {left right : CaseRow}
    (leftStored : left ∈ database.cases.rows)
    (rightStored : right ∈ database.cases.rows)
    (tenant : left.tenantId = right.tenantId)
    (identifier : left.caseId = right.caseId) : left = right := by
  apply database.cases.eq_of_clash leftStored rightStored
  · simp [CaseRow.clash, CaseRow.hasKey, tenant, identifier]
  · simp [CaseRow.clash, CaseRow.hasKey, tenant, identifier]

/-! ## Storing an alert -/

section AlertStored

variable {library : Library} {decision : Decision} {event : EventRow}
  {alert : DetectionAlert} {now : Timestamp} {before after : Database Log}

/-- A link of the old database belongs to an old alert, hence not to a new
one. -/
theorem old_link_not_of_new (holds : Consistent library before)
    (stored : AlertStored library decision event alert now before after)
    {link : CaseAlertRow} (member : link ∈ before.caseAlerts.rows) :
    ¬ (link.tenantId = event.tenantId ∧ link.alertId = alert.alertId) := by
  rintro ⟨tenant, identifier⟩
  obtain ⟨old, oldStored, ⟨oldTenant, oldId⟩, -⟩ := holds.targets link member
  have keyed : old.hasKey event.tenantId alert.alertId = true := by
    simp [AlertRow.hasKey, ← oldTenant, ← oldId, tenant, identifier]
  rw [stored.fresh old oldStored] at keyed
  cases keyed

/-- The link of a new alert is new. -/
theorem link_added (holds : Consistent library before)
    (stored : AlertStored library decision event alert now before after)
    {caseId : String}
    (linked : Linked ⟨event.tenantId, caseId, alert.alertId, now⟩ before
      after) :
    after.caseAlerts.rows = before.caseAlerts.rows ++
      [⟨event.tenantId, caseId, alert.alertId, now⟩] := by
  rcases linked with added | ⟨-, link, member, clash⟩
  · exact added
  · have same := of_decide_eq_true clash
    exact absurd ⟨same.1, same.2.2⟩
      (old_link_not_of_new holds stored member)

/-- The priorities induced on a case gain at most the one of the new alert. -/
theorem inducedPriorities_stored (holds : Consistent library before)
    (stored : AlertStored library decision event alert now before after)
    {linkedCase : String}
    (links : after.caseAlerts.rows = before.caseAlerts.rows ++
      [⟨event.tenantId, linkedCase, alert.alertId, now⟩])
    (tenantId caseId : String) :
    inducedPriorities after tenantId caseId =
      if tenantId = event.tenantId ∧ caseId = linkedCase then
        insert (casePriority alert.severity)
          (inducedPriorities before tenantId caseId)
      else inducedPriorities before tenantId caseId := by
  have ofOld : ∀ link ∈ before.caseAlerts.rows, ∀ row ∈ after.alerts.rows,
      OfAlert row link → row ∈ before.alerts.rows := by
    intro link member row rowStored ofAlert
    rw [stored.alerts] at rowStored
    rcases List.mem_append.mp rowStored with old | isNew
    · exact old
    · rw [List.mem_singleton.mp isNew] at ofAlert
      exact absurd ofAlert (old_link_not_of_new holds stored member)
  have newAlert : alertRow decision event alert ∈ after.alerts.rows := by
    rw [stored.alerts]
    exact List.mem_append_right _ (List.mem_singleton_self _)
  have oldAlert : ∀ row ∈ before.alerts.rows, row ∈ after.alerts.rows := by
    intro row member
    rw [stored.alerts]
    exact List.mem_append_left _ member
  have ofNew : ∀ row ∈ after.alerts.rows,
      OfAlert row ⟨event.tenantId, linkedCase, alert.alertId, now⟩ →
        row = alertRow decision event alert := by
    intro row rowStored ofAlert
    rw [stored.alerts] at rowStored
    rcases List.mem_append.mp rowStored with old | isNew
    · have keyed : row.hasKey event.tenantId alert.alertId = true := by
        simp [AlertRow.hasKey, ← ofAlert.1, ← ofAlert.2]
      rw [stored.fresh row old] at keyed
      cases keyed
    · exact List.mem_singleton.mp isNew
  ext priority
  constructor
  · rintro ⟨link, member, tenant, identifier, row, rowStored, ofAlert, rfl⟩
    rw [links] at member
    rcases List.mem_append.mp member with old | isNew
    · have induced : casePriority row.severity ∈
          inducedPriorities before tenantId caseId :=
        ⟨link, old, tenant, identifier, row, ofOld link old row rowStored
          ofAlert, ofAlert, rfl⟩
      split
      · exact Set.mem_insert_of_mem _ induced
      · exact induced
    · rw [List.mem_singleton.mp isNew] at tenant identifier ofAlert
      rw [if_pos ⟨tenant.symm, identifier.symm⟩, ofNew row rowStored ofAlert]
      exact Set.mem_insert _ _
  · intro induced
    have fromOld : priority ∈ inducedPriorities before tenantId caseId →
        priority ∈ inducedPriorities after tenantId caseId := by
      rintro ⟨link, member, tenant, identifier, row, rowStored, ofAlert, same⟩
      refine ⟨link, ?_, tenant, identifier, row, oldAlert row rowStored,
        ofAlert, same⟩
      rw [links]
      exact List.mem_append_left _ member
    split at induced
    · next isLinked =>
        rcases Set.mem_insert_iff.mp induced with isNew | old
        · refine ⟨⟨event.tenantId, linkedCase, alert.alertId, now⟩, ?_,
            isLinked.1.symm, isLinked.2.symm, alertRow decision event alert,
            newAlert, ⟨rfl, rfl⟩, isNew⟩
          rw [links]
          exact List.mem_append_right _ (List.mem_singleton_self _)
        · exact fromOld old
    · exact fromOld induced

/-- What remains to be shown about the cases after an alert is stored. -/
theorem consistent_of_cases (holds : Consistent library before)
    (source : event ∈ before.events.rows)
    (stored : AlertStored library decision event alert now before after)
    {linkedCase : String}
    (links : after.caseAlerts.rows = before.caseAlerts.rows ++
      [⟨event.tenantId, linkedCase, alert.alertId, now⟩])
    (kept : ∀ old ∈ before.cases.rows, ∃ row ∈ after.cases.rows,
      row.tenantId = old.tenantId ∧ row.caseId = old.caseId ∧
        row.semanticKey = old.semanticKey)
    (target : ∃ row ∈ after.cases.rows, row.tenantId = event.tenantId ∧
      row.caseId = linkedCase ∧ row.semanticKey =
        some (alertKey library event alert.ruleId alert.actor))
    (priorities : ∀ row ∈ after.cases.rows,
      IsGreatest (inducedPriorities after row.tenantId row.caseId)
        row.priority)
    (origins : ∀ row ∈ after.cases.rows, ∃ source ∈ after.alerts.rows,
      source.tenantId = row.tenantId ∧
        row.caseId = caseIdOf library source.tenantId source.alertId) :
    Consistent library after := by
  obtain ⟨_, _, _, isAfter⟩ := stored.frame
  have events : after.events = before.events := by rw [isAfter]
  have tenants : after.tenants = before.tenants := by rw [isAfter]
  refine ⟨?_, ?_, ?_, ?_, priorities, origins⟩
  · rw [events, tenants]
    exact holds.tenants
  · intro row member
    rw [stored.alerts] at member
    rw [links]
    rcases List.mem_append.mp member with old | isNew
    · obtain ⟨link, linkStored, ofAlert⟩ := holds.linked row old
      exact ⟨link, List.mem_append_left _ linkStored, ofAlert⟩
    · rw [List.mem_singleton.mp isNew]
      exact ⟨_, List.mem_append_right _ (List.mem_singleton_self _), rfl,
        rfl⟩
  · intro left leftStored right rightStored tenant identifier
    rw [links] at leftStored rightStored
    rcases List.mem_append.mp leftStored with leftOld | leftNew
    · rcases List.mem_append.mp rightStored with rightOld | rightNew
      · exact holds.linkedOnce left leftOld right rightOld tenant identifier
      · rw [List.mem_singleton.mp rightNew] at tenant identifier
        exact absurd ⟨tenant, identifier⟩
          (old_link_not_of_new holds stored leftOld)
    · rcases List.mem_append.mp rightStored with rightOld | rightNew
      · rw [List.mem_singleton.mp leftNew] at tenant identifier
        exact absurd ⟨tenant.symm, identifier.symm⟩
          (old_link_not_of_new holds stored rightOld)
      · rw [List.mem_singleton.mp leftNew, List.mem_singleton.mp rightNew]
  · intro link member
    rw [links] at member
    rw [stored.alerts, events]
    rcases List.mem_append.mp member with old | isNew
    · obtain ⟨row, rowStored, ofAlert, raised, raisedStored, isSource, case,
        caseStored, ⟨tenant, identifier⟩, key⟩ := holds.targets link old
      obtain ⟨later, laterStored, sameTenant, sameId, sameKey⟩ :=
        kept case caseStored
      exact ⟨row, List.mem_append_left _ rowStored, ofAlert, raised,
        raisedStored, isSource, later, laterStored,
        ⟨sameTenant.trans tenant, sameId.trans identifier⟩,
        sameKey.trans key⟩
    · obtain ⟨row, rowStored, tenant, identifier, key⟩ := target
      rw [List.mem_singleton.mp isNew]
      exact ⟨_, List.mem_append_right _ (List.mem_singleton_self _),
        ⟨rfl, rfl⟩, event, source, ⟨rfl, rfl⟩, row, rowStored,
        ⟨tenant, identifier⟩, key⟩

/-- An old case never has the identifier of the case that was opened. -/
theorem old_case_not_new
    (cases : after.cases.rows =
      before.cases.rows ++ [newCase library event alert now])
    {row : CaseRow} (member : row ∈ before.cases.rows) :
    ¬ (row.tenantId = event.tenantId ∧
      row.caseId = caseIdOf library event.tenantId alert.alertId) := by
  rintro ⟨tenant, identifier⟩
  have unique := after.cases.unique
  rw [cases, List.pairwise_append] at unique
  have noClash := unique.2.2 row member _ (List.mem_singleton_self _)
  have keyed : row.hasKey (newCase library event alert now).tenantId
      (newCase library event alert now).caseId = true :=
    caseHasKey_iff.mpr ⟨tenant, identifier⟩
  rw [CaseRow.clash, keyed, Bool.true_or] at noClash
  cases noClash

theorem consistent_opened (holds : Consistent library before)
    (source : event ∈ before.events.rows)
    (stored : AlertStored library decision event alert now before after)
    (cases : after.cases.rows =
      before.cases.rows ++ [newCase library event alert now])
    (linked : Linked ⟨event.tenantId, caseIdOf library event.tenantId
      alert.alertId, alert.alertId, now⟩ before after) :
    Consistent library after := by
  have links := link_added holds stored linked
  have oldStored : ∀ row ∈ before.cases.rows, row ∈ after.cases.rows := by
    intro row member
    rw [cases]
    exact List.mem_append_left _ member
  have newStored : newCase library event alert now ∈ after.cases.rows := by
    rw [cases]
    exact List.mem_append_right _ (List.mem_singleton_self _)
  apply consistent_of_cases holds source stored links
  · exact fun old member => ⟨old, oldStored old member, rfl, rfl, rfl⟩
  · exact ⟨_, newStored, rfl, rfl, rfl⟩
  · intro row member
    rw [inducedPriorities_stored holds stored links]
    rw [cases] at member
    rcases List.mem_append.mp member with old | isNew
    · rw [if_neg (old_case_not_new cases old)]
      exact holds.priorities row old
    · rw [List.mem_singleton.mp isNew]
      -- Before, nothing was linked to the case that was opened.
      have nothing : inducedPriorities before event.tenantId
          (caseIdOf library event.tenantId alert.alertId) = ∅ := by
        rw [Set.eq_empty_iff_forall_notMem]
        rintro priority ⟨link, linkStored, tenant, identifier, -⟩
        obtain ⟨_, _, _, _, _, _, target, targetStored, ⟨sameTenant, sameId⟩,
          -⟩ := holds.targets link linkStored
        exact old_case_not_new cases targetStored
          ⟨sameTenant.trans tenant, sameId.trans identifier⟩
      have tenant : (newCase library event alert now).tenantId =
        event.tenantId := rfl
      have identifier : (newCase library event alert now).caseId =
        caseIdOf library event.tenantId alert.alertId := rfl
      rw [if_pos ⟨tenant, identifier⟩, tenant, identifier, nothing]
      exact ⟨Set.mem_insert _ _, by simp [upperBounds, newCase]⟩
  · intro row member
    rw [stored.alerts]
    rw [cases] at member
    rcases List.mem_append.mp member with old | isNew
    · obtain ⟨origin, originStored, same⟩ := holds.origins row old
      exact ⟨origin, List.mem_append_left _ originStored, same⟩
    · rw [List.mem_singleton.mp isNew]
      exact ⟨_, List.mem_append_right _ (List.mem_singleton_self _), rfl, rfl⟩

theorem consistent_joined (holds : Consistent library before)
    (source : event ∈ before.events.rows)
    (stored : AlertStored library decision event alert now before after)
    {active : CaseRow} (activeStored : active ∈ before.cases.rows)
    (isOpen : active.openWith event.tenantId
      (alertKey library event alert.ruleId alert.actor) = true)
    (cases : after.cases.rows = before.cases.rows.map
      (Table.applyWhere (·.hasKey active.tenantId active.caseId)
        (·.addAlert (casePriority alert.severity) now)))
    (linked : Linked ⟨event.tenantId, active.caseId, alert.alertId, now⟩
      before after) :
    Consistent library after := by
  have links := link_added holds stored linked
  obtain ⟨tenant, key, -⟩ : active.tenantId = event.tenantId ∧
      active.semanticKey =
        some (alertKey library event alert.ruleId alert.actor) ∧
      active.status ≠ .closed := of_decide_eq_true isOpen
  have sameCase : ∀ old ∈ before.cases.rows,
      old.hasKey active.tenantId active.caseId = true → old = active := by
    intro old oldStored keyed
    obtain ⟨sameTenant, sameId⟩ := caseHasKey_iff.mp keyed
    exact case_eq_of_key oldStored activeStored sameTenant sameId
  have keeps : ∀ old : CaseRow,
      let row := Table.applyWhere (·.hasKey active.tenantId active.caseId)
        (·.addAlert (casePriority alert.severity) now) old
      row.tenantId = old.tenantId ∧ row.caseId = old.caseId ∧
        row.semanticKey = old.semanticKey := by
    intro old
    unfold Table.applyWhere
    dsimp only
    split <;> exact ⟨rfl, rfl, rfl⟩
  apply consistent_of_cases holds source stored links
  · intro old member
    refine ⟨_, ?_, keeps old⟩
    rw [cases]
    exact List.mem_map_of_mem member
  · refine ⟨_, ?_, (keeps active).1.trans tenant, (keeps active).2.1,
      (keeps active).2.2.trans key⟩
    rw [cases]
    exact List.mem_map_of_mem activeStored
  · intro row member
    rw [inducedPriorities_stored holds stored links]
    rw [cases] at member
    obtain ⟨old, oldStored, rfl⟩ := List.mem_map.mp member
    rw [(keeps old).1, (keeps old).2.1]
    have greatest := holds.priorities old oldStored
    by_cases keyed : old.hasKey active.tenantId active.caseId = true
    · have isActive := sameCase old oldStored keyed
      rw [Table.applyWhere_selected keyed, isActive,
        if_pos ⟨tenant, rfl⟩]
      rw [isActive] at greatest
      have raised : (active.addAlert (casePriority alert.severity)
          now).priority = max (casePriority alert.severity) active.priority := by
        rw [max_comm]
        exact raisedPriority_eq_max _ _
      rw [raised]
      exact greatest.insert _
    · have other : ¬ (old.tenantId = event.tenantId ∧
          old.caseId = active.caseId) := by
        rw [← tenant]
        exact fun same => keyed (caseHasKey_iff.mpr same)
      rw [Bool.not_eq_true] at keyed
      rw [Table.applyWhere_unselected keyed, if_neg other]
      exact greatest
  · intro row member
    rw [cases] at member
    obtain ⟨old, oldStored, rfl⟩ := List.mem_map.mp member
    obtain ⟨origin, originStored, sameTenant, sameId⟩ :=
      holds.origins old oldStored
    rw [stored.alerts, (keeps old).1, (keeps old).2.1]
    exact ⟨origin, List.mem_append_left _ originStored, sameTenant, sameId⟩

theorem consistent_alertStored (holds : Consistent library before)
    (source : event ∈ before.events.rows)
    (stored : AlertStored library decision event alert now before after) :
    Consistent library after := by
  cases stored.aggregated with
  | opened known cases linked =>
      exact consistent_opened holds source stored cases linked
  | joined active activeStored isOpen cases linked =>
      exact consistent_joined holds source stored activeStored isOpen cases
        linked

theorem consistent_alertsStored (holds : Consistent library before)
    (source : event ∈ before.events.rows)
    {alerts : List DetectionAlert}
    (stored : AlertsStored library decision event now alerts before after) :
    Consistent library after ∧ event ∈ after.events.rows := by
  induction stored with
  | refl => exact ⟨holds, source⟩
  | tail _ step induction =>
      obtain ⟨alert, -, step⟩ := step
      obtain ⟨holds, source⟩ := induction
      obtain ⟨_, _, _, isLast⟩ := step.frame
      refine ⟨consistent_alertStored holds source step, ?_⟩
      rw [isLast]
      exact source

end AlertStored

/-! ## Any step -/

section Steps

variable {library : Library} {before after : Database Log}

/-- The work of an analyst keeps what aggregation depends on. -/
theorem caseWork_keeps {row : CaseRow} {change : CaseRow → CaseRow}
    {recorded : List DispositionRow}
    (work : CaseWork before row change recorded) (old : CaseRow) :
    (change old).tenantId = old.tenantId ∧ (change old).caseId = old.caseId ∧
      (change old).semanticKey = old.semanticKey ∧
      (change old).priority = old.priority ∧
      (change old).version = old.version + 1 := by
  cases work <;> exact ⟨rfl, rfl, rfl, rfl, rfl⟩

theorem consistent_analysed (holds : Consistent library before)
    {row : CaseRow} {change : CaseRow → CaseRow}
    {recorded : List DispositionRow}
    (analysed : Analysed row change recorded before after) :
    Consistent library after := by
  obtain ⟨_, _, _, _, isAfter⟩ := analysed.frame
  have events : after.events = before.events := by rw [isAfter]
  have tenants : after.tenants = before.tenants := by rw [isAfter]
  have alerts : after.alerts = before.alerts := by rw [isAfter]
  have links : after.caseAlerts = before.caseAlerts := by rw [isAfter]
  have keeps : ∀ old : CaseRow,
      let new := Table.applyWhere (·.hasKey row.tenantId row.caseId) change old
      new.tenantId = old.tenantId ∧ new.caseId = old.caseId ∧
        new.semanticKey = old.semanticKey ∧ new.priority = old.priority := by
    intro old
    obtain ⟨tenant, identifier, key, priority, -⟩ :=
      caseWork_keeps analysed.work old
    unfold Table.applyWhere
    dsimp only
    split
    · exact ⟨tenant, identifier, key, priority⟩
    · exact ⟨rfl, rfl, rfl, rfl⟩
  have induced : ∀ tenantId caseId, inducedPriorities after tenantId caseId =
      inducedPriorities before tenantId caseId := by
    intro tenantId caseId
    rw [inducedPriorities, alerts, links]
    rfl
  constructor
  · rw [events, tenants]
    exact holds.tenants
  · rw [alerts, links]
    exact holds.linked
  · rw [links]
    exact holds.linkedOnce
  · rw [alerts, links, events, analysed.cases]
    intro link member
    obtain ⟨alert, alertStored, ofAlert, event, eventStored, isSource, case,
      caseStored, ⟨tenant, identifier⟩, key⟩ := holds.targets link member
    exact ⟨alert, alertStored, ofAlert, event, eventStored, isSource, _,
      List.mem_map_of_mem caseStored,
      ⟨(keeps case).1.trans tenant, (keeps case).2.1.trans identifier⟩,
      (keeps case).2.2.1.trans key⟩
  · rw [analysed.cases]
    intro new member
    obtain ⟨old, oldStored, rfl⟩ := List.mem_map.mp member
    rw [induced, (keeps old).1, (keeps old).2.1, (keeps old).2.2.2]
    exact holds.priorities old oldStored
  · rw [analysed.cases, alerts]
    intro new member
    obtain ⟨old, oldStored, rfl⟩ := List.mem_map.mp member
    rw [(keeps old).1, (keeps old).2.1]
    exact holds.origins old oldStored

theorem consistent_ingested (holds : Consistent library before)
    (ingested : Ingested before after) : Consistent library after := by
  obtain ⟨events, jobs, isAfter⟩ := ingested.frame
  obtain ⟨added, rows, known⟩ := ingested.events
  subst isAfter
  dsimp only at rows
  refine ⟨?_, holds.linked, holds.linkedOnce, ?_, holds.priorities,
    holds.origins⟩
  · intro event member
    dsimp only at member
    rw [rows] at member
    rcases List.mem_append.mp member with old | isNew
    · exact holds.tenants event old
    · exact known event isNew
  · intro link member
    obtain ⟨alert, alertStored, ofAlert, event, eventStored, rest⟩ :=
      holds.targets link member
    refine ⟨alert, alertStored, ofAlert, event, ?_, rest⟩
    dsimp only
    rw [rows]
    exact List.mem_append_left _ eventStored

theorem consistent_jobs (holds : Consistent library before)
    (framed : ∃ jobs, after = { before with jobs }) :
    Consistent library after := by
  obtain ⟨jobs, rfl⟩ := framed
  exact ⟨holds.tenants, holds.linked, holds.linkedOnce, holds.targets,
    holds.priorities, holds.origins⟩

theorem consistent_change {operation : Operation} {reply : Reply}
    (holds : Consistent library before)
    (change : Change library before after operation reply) :
    Consistent library after := by
  cases change with
  | ingested _ change => exact consistent_ingested holds change
  | claimed _ _ _ change => exact consistent_jobs holds change.frame
  | unchanged _ same =>
      rw [same]
      exact holds
  | ended _ _ _ change => exact consistent_jobs holds change.frame
  | completed _ change =>
      obtain ⟨middle, jobs, work, isAfter⟩ := change.work
      have stored := consistent_alertsStored holds change.source work
      exact consistent_jobs stored.1 ⟨jobs, isAfter⟩
  | analysed _ change => exact consistent_analysed holds change

theorem consistent_run {service : Service Log} {start database : Database Log}
    {trace : List Event} (isInitial : (system service).initial start)
    (run : (system service).Run start trace database) :
    Consistent service.library database := by
  apply run.invariant
  · intro state event next holds _ step
    rcases change_of_step step with
      ⟨failure, refused, same⟩ | ⟨reply, accepted, change⟩
    · rw [same]
      exact holds
    · exact consistent_change holds change
  · exact consistent_initial service.library isInitial

/-! ## Versions -/

/-- What an alert does to a case it joins. -/
def JoinedByAlert (old new : CaseRow) : Prop :=
  ∃ priority now, new = old.addAlert priority now

/-- A case as an alert opens it. -/
def OpenedByAlert (row : CaseRow) : Prop :=
  ∃ library event alert now, row = newCase library event alert now

theorem cases_evolve {decision : Decision} {event : EventRow}
    {now : Timestamp} {alerts : List DetectionAlert}
    (stored : AlertsStored library decision event now alerts before after) :
    Evolves OpenedByAlert JoinedByAlert before.cases.rows
      after.cases.rows := by
  induction stored with
  | refl => exact Evolves.refl _
  | tail _ step induction =>
      obtain ⟨alert, -, step⟩ := step
      refine Evolves.trans induction ?_
      cases step.aggregated with
      | opened known cases linked =>
          rw [cases]
          exact Evolves.insert ⟨library, event, alert, now, rfl⟩
      | joined active activeStored isOpen cases linked =>
          rw [cases]
          apply Evolves.update
          intro row _
          unfold Table.applyWhere
          split
          · exact .inr ⟨_, _, rfl⟩
          · exact .inl rfl

/-- The same case, unchanged or with a greater version. -/
structure Advanced (old new : CaseRow) : Prop where
  tenant : new.tenantId = old.tenantId
  identifier : new.caseId = old.caseId
  version : new = old ∨ old.version < new.version

/-- Joining alerts leaves the investigation of a case alone. -/
theorem joined_many {old new : CaseRow}
    (joined : Relation.ReflTransGen JoinedByAlert old new) :
    Advanced old new ∧ new.status = old.status ∧
      new.investigationCycle = old.investigationCycle := by
  induction joined with
  | refl => exact ⟨⟨rfl, rfl, .inl rfl⟩, rfl, rfl⟩
  | @tail middle last _ step induction =>
      obtain ⟨priority, now, rfl⟩ := step
      obtain ⟨⟨tenant, identifier, version⟩, status, cycle⟩ := induction
      refine ⟨⟨tenant, identifier, .inr ?_⟩, status, cycle⟩
      have less : middle.version < (middle.addAlert priority now).version :=
        Nat.lt_succ_self _
      rcases version with same | greater
      · rw [← same]
        exact less
      · exact Nat.lt_trans greater less

theorem cases_advance {operation : Operation} {reply : Reply}
    (change : Change library before after operation reply) :
    ∀ old ∈ before.cases.rows, ∃ new ∈ after.cases.rows, Advanced old new := by
  intro old member
  have kept : after.cases = before.cases →
      ∃ new ∈ after.cases.rows, Advanced old new := by
    intro same
    rw [same]
    exact ⟨old, member, rfl, rfl, .inl rfl⟩
  cases change with
  | ingested _ change =>
      obtain ⟨_, _, rfl⟩ := change.frame
      exact kept rfl
  | claimed _ _ _ change =>
      obtain ⟨_, rfl⟩ := change.frame
      exact kept rfl
  | unchanged _ same => exact kept (by rw [same])
  | ended _ _ _ change =>
      obtain ⟨_, rfl⟩ := change.frame
      exact kept rfl
  | completed _ change =>
      obtain ⟨middle, jobs, work, rfl⟩ := change.work
      obtain ⟨new, stored, joined⟩ := (cases_evolve work).descendant member
      exact ⟨new, stored, (joined_many joined).1⟩
  | @analysed row caseChange recorded _ change =>
      refine ⟨Table.applyWhere (·.hasKey row.tenantId row.caseId) caseChange
        old, ?_, ?_⟩
      · rw [change.cases]
        exact List.mem_map_of_mem member
      · obtain ⟨tenant, identifier, -, -, version⟩ :=
          caseWork_keeps change.work old
        unfold Table.applyWhere
        split
        · exact ⟨tenant, identifier, .inr (by rw [version]; omega)⟩
        · exact ⟨rfl, rfl, .inl rfl⟩

end Steps

/-! ## Completions that are refused -/

section Refusals

variable {library : Library} {decision : Decision} {event : EventRow}
  {now : Timestamp} {before after : Database Log}

/-- Two different alerts of the tenant, one of them new, whose digests give
one case identifier. -/
def CaseIdCollision (library : Library) (database : Database Log)
    (tenantId : String) (alerts : List DetectionAlert) : Prop :=
  ∃ alert ∈ alerts, ∃ other,
    ((∃ stored ∈ database.alerts.rows,
        stored.tenantId = tenantId ∧ stored.alertId = other) ∨
      ∃ earlier ∈ alerts, earlier.alertId = other) ∧
    other ≠ alert.alertId ∧
    caseIdOf library tenantId other = caseIdOf library tenantId alert.alertId

/-- The alerts stored so far are old ones or come from the list. -/
theorem storedAlerts_origin {alerts : List DetectionAlert}
    (stored : AlertsStored library decision event now alerts before after)
    {row : AlertRow} (member : row ∈ after.alerts.rows) :
    row ∈ before.alerts.rows ∨
      ∃ alert ∈ alerts, alert.alertId = row.alertId := by
  induction stored with
  | refl => exact .inl member
  | tail _ step induction =>
      obtain ⟨alert, listed, step⟩ := step
      rw [step.alerts] at member
      rcases List.mem_append.mp member with old | isNew
      · exact induction old
      · rw [List.mem_singleton.mp isNew]
        exact .inr ⟨alert, listed, rfl⟩

theorem case_clash_congr {left left' right right' : CaseRow}
    (leftSame : left'.tenantId = left.tenantId ∧
      left'.caseId = left.caseId ∧ left'.semanticKey = left.semanticKey ∧
      left'.status = left.status)
    (rightSame : right'.tenantId = right.tenantId ∧
      right'.caseId = right.caseId ∧
      right'.semanticKey = right.semanticKey ∧
      right'.status = right.status) :
    left'.clash right' = left.clash right := by
  obtain ⟨leftTenant, leftId, leftKey, leftStatus⟩ := leftSame
  obtain ⟨rightTenant, rightId, rightKey, rightStatus⟩ := rightSame
  simp only [CaseRow.clash, CaseRow.hasKey, CaseRow.openWith, leftTenant,
    leftId, leftKey, leftStatus, rightTenant, rightId, rightKey, rightStatus]

/-- An update that keeps the keys and the status of cases, and fires no
trigger, is carried out. -/
theorem updateCases_not_error {selected : CaseRow → Bool}
    {change : CaseRow → CaseRow}
    (keeps : ∀ row, (change row).tenantId = row.tenantId ∧
      (change row).caseId = row.caseId ∧
      (change row).semanticKey = row.semanticKey ∧
      (change row).status = row.status)
    {failure : StoreError}
    (refused : updateCases selected change (fun _ _ => none) before =
      .error failure) : False := by
  have keepsWhere : ∀ row,
      (Table.applyWhere selected change row).tenantId = row.tenantId ∧
        (Table.applyWhere selected change row).caseId = row.caseId ∧
        (Table.applyWhere selected change row).semanticKey =
          row.semanticKey ∧
        (Table.applyWhere selected change row).status = row.status := by
    intro row
    unfold Table.applyWhere
    split
    · exact keeps row
    · exact ⟨rfl, rfl, rfl, rfl⟩
  unfold updateCases at refused
  split at refused
  · cases refused
  · next raised =>
      rcases Table.updateWhere_error raised with
        ⟨row, -, -, objection⟩ | ⟨-, clashes⟩
      · cases objection
      · apply clashes
        apply Table.map_unique
        intro left right
        exact case_clash_congr (keepsWhere left) (keepsWhere right)

theorem joinCase_not_error {opened : Bool} {active : CaseRow}
    {priority : Priority} {failure : StoreError}
    (raised : joinCase opened active priority now before = .error failure) :
    False := by
  cases opened with
  | true => cases raised
  | false =>
      rcases Transaction.run_bind_error.mp raised with
        updating | ⟨count, middle, -, returned⟩
      · have keeps (row : CaseRow) :
            (row.addAlert priority now).tenantId = row.tenantId ∧
              (row.addAlert priority now).caseId = row.caseId ∧
              (row.addAlert priority now).semanticKey = row.semanticKey ∧
              (row.addAlert priority now).status = row.status :=
          ⟨rfl, rfl, rfl, rfl⟩
        exact updateCases_not_error keeps updating
      · cases returned

theorem insertCaseAlertOrIgnore_not_error {row : CaseAlertRow}
    {failure : StoreError}
    (raised : insertCaseAlertOrIgnore row before = .error failure) :
    False := by
  unfold insertCaseAlertOrIgnore at raised
  split at raised <;> cases raised

theorem activeCase_error {tenantId semanticKey : String}
    {failure : StoreError}
    (raised : activeCase tenantId semanticKey before = .error failure) :
    failure = .runtime "active semantic case was not persisted" ∧
      ∀ row ∈ before.cases.rows, row.openWith tenantId semanticKey = false := by
  rcases Transaction.run_bind_error.mp raised with
    reading | ⟨read, atRead, got, found⟩
  · cases reading
  · cases got
    cases isFound : before.cases.rows.find?
        (·.openWith tenantId semanticKey) with
    | none =>
        rw [isFound] at found
        cases found
        refine ⟨rfl, fun row member => ?_⟩
        have notOpen := List.find?_eq_none.mp isFound row member
        rwa [Bool.not_eq_true] at notOpen
    | some row =>
        rw [isFound] at found
        cases found

/-- The new case was ignored although no case with its key is open: its
identifier is taken. -/
theorem taken_of_no_active {alert : DetectionAlert} {opened : Bool}
    (inserted : insertCaseOrIgnore (newCase library event alert now) before =
      .ok (opened, after))
    (noneOpen : ∀ row ∈ after.cases.rows, row.openWith event.tenantId
      (alertKey library event alert.ruleId alert.actor) = false) :
    ∃ row ∈ before.cases.rows, row.tenantId = event.tenantId ∧
      row.caseId = caseIdOf library event.tenantId alert.alertId := by
  rcases insertCaseOrIgnore_ok inserted with
    ⟨-, same, stored, member, clash⟩ | ⟨-, -, -, cases, rfl, rows⟩
  · have notOpen := noneOpen stored (by rw [same]; exact member)
    unfold CaseRow.clash at clash
    rw [Bool.or_eq_true] at clash
    rcases clash with keyed | isOpen
    · exact ⟨stored, member, caseHasKey_iff.mp keyed⟩
    · have openWith : stored.openWith event.tenantId
          (alertKey library event alert.ruleId alert.actor) = true := by
        simpa [newCase] using isOpen
      rw [notOpen] at openWith
      cases openWith
  · have newStored : newCase library event alert now ∈ cases.rows := by
      rw [rows]
      exact List.mem_append_right _ (List.mem_singleton_self _)
    have notOpen := noneOpen _ newStored
    rw [openWith_newCase] at notOpen
    cases notOpen

/-- An alert is refused because it is of another event, or because the digest
of its case is that of another alert. -/
theorem persistAlert_error (holds : Consistent library before)
    (source : event ∈ before.events.rows) {alert : DetectionAlert}
    {failure : StoreError}
    (raised : persistAlert library decision event now alert before =
      .error failure) :
    failure = .invalidValue
        "alert source event does not match the leased job" ∨
      (failure = .runtime "active semantic case was not persisted" ∧
        ∃ stored ∈ before.alerts.rows, stored.tenantId = event.tenantId ∧
          stored.alertId ≠ alert.alertId ∧
          caseIdOf library event.tenantId stored.alertId =
            caseIdOf library event.tenantId alert.alertId) := by
  unfold persistAlert at raised
  rcases Transaction.run_bind_error.mp raised with
    mismatch | ⟨_, checked, check, afterCheck⟩
  · by_cases ofEvent : alert.eventId = event.eventId
    · rw [Transaction.run_require_of ofEvent] at mismatch
      cases mismatch
    · rw [Transaction.run_require_not ofEvent] at mismatch
      cases mismatch
      exact .inl rfl
  · have isChecked := (Transaction.run_require_ok.mp check).2
    subst isChecked
    right
    rcases Transaction.run_bind_error.mp afterCheck with
      inserting | ⟨inserted, middle, insertion, aggregating⟩
    · unfold insertAlertOrIgnore at inserting
      split at inserting <;> cases inserting
    · unfold insertAlertOrIgnore at insertion
      split at insertion
      · cases insertion
        cases aggregating
      · next alerts isInserted =>
          cases insertion
          have fresh := (Table.insert_eq_some.mp isInserted).1
          rcases Transaction.run_bind_error.mp aggregating with
            opening | ⟨opened, atCase, caseInserted, afterCase⟩
          · unfold insertCaseOrIgnore at opening
            split at opening
            · cases opening
            · next cases _ =>
                rw [if_pos (show (newCase library event alert now).tenantId ∈
                  checked.tenants from holds.tenants event source)] at opening
                cases opening
          · rcases Transaction.run_bind_error.mp afterCase with
              finding | ⟨active, atActive, found, afterActive⟩
            · obtain ⟨isRuntime, noneOpen⟩ := activeCase_error finding
              obtain ⟨row, rowStored, tenant, identifier⟩ :=
                taken_of_no_active caseInserted noneOpen
              obtain ⟨origin, originStored, originTenant, originId⟩ :=
                holds.origins row rowStored
              have sameTenant := originTenant.trans tenant
              refine ⟨isRuntime, origin, originStored, sameTenant, ?_, ?_⟩
              · intro sameId
                have keyed : origin.hasKey event.tenantId alert.alertId =
                    true := by
                  simp [AlertRow.hasKey, sameTenant, sameId]
                have notKeyed : origin.hasKey event.tenantId alert.alertId =
                    false := fresh origin originStored
                rw [keyed] at notKeyed
                cases notKeyed
              · rw [← identifier, originId, sameTenant]
            · rcases Transaction.run_bind_error.mp afterActive with
                linking | ⟨_, atLink, linked, afterLink⟩
              · exact (insertCaseAlertOrIgnore_not_error linking).elim
              · rcases Transaction.run_bind_error.mp afterLink with
                  joining | ⟨_, last, joined, returned⟩
                · exact (joinCase_not_error joining).elim
                · cases returned

theorem job_clash_congr {left left' right right' : JobRow}
    (leftSame : left'.tenantId = left.tenantId ∧ left'.jobId = left.jobId ∧
      left'.eventId = left.eventId)
    (rightSame : right'.tenantId = right.tenantId ∧
      right'.jobId = right.jobId ∧ right'.eventId = right.eventId) :
    left'.clash right' = left.clash right := by
  obtain ⟨leftTenant, leftId, leftEvent⟩ := leftSame
  obtain ⟨rightTenant, rightId, rightEvent⟩ := rightSame
  simp only [JobRow.clash, JobRow.hasKey, leftTenant, leftId, leftEvent,
    rightTenant, rightId, rightEvent]

theorem updateJobs_not_error {selected : JobRow → Bool}
    {change : JobRow → JobRow}
    (keeps : ∀ row, (change row).tenantId = row.tenantId ∧
      (change row).jobId = row.jobId ∧ (change row).eventId = row.eventId)
    {failure : StoreError}
    (refused : updateJobs selected change before = .error failure) :
    False := by
  have keepsWhere : ∀ row,
      (Table.applyWhere selected change row).tenantId = row.tenantId ∧
        (Table.applyWhere selected change row).jobId = row.jobId ∧
        (Table.applyWhere selected change row).eventId = row.eventId := by
    intro row
    unfold Table.applyWhere
    split
    · exact keeps row
    · exact ⟨rfl, rfl, rfl⟩
  unfold updateJobs at refused
  split at refused
  · cases refused
  · next raised =>
      rcases Table.updateWhere_error raised with
        ⟨row, -, -, objection⟩ | ⟨-, clashes⟩
      · cases objection
      · apply clashes
        apply Table.map_unique
        intro left right
        exact job_clash_congr (keepsWhere left) (keepsWhere right)

theorem ownedJob_error {tenantId jobId workerId : String}
    {failure : StoreError}
    (raised : ownedJob tenantId jobId workerId now before = .error failure) :
    failure = .leaseOwnership "worker does not own a current job lease" := by
  rcases Transaction.run_bind_error.mp raised with
    reading | ⟨read, atRead, got, found⟩
  · cases reading
  · cases got
    cases isJob : before.jobs.rows.find? (·.hasKey tenantId jobId) with
    | none =>
        rw [isJob] at found
        cases found
        rfl
    | some job =>
        rw [isJob] at found
        dsimp only at found
        cases isEvent : before.events.rows.find?
            (·.hasKey job.tenantId job.eventId) with
        | none =>
            rw [isEvent] at found
            cases found
            rfl
        | some event =>
            rw [isEvent] at found
            dsimp only at found
            split at found
            · cases found
            · cases found
              rfl

/-- Why a completion is refused: never by an index of the tables. -/
theorem completion_error (holds : Consistent library before)
    {tenantId jobId workerId : String} {alerts : List DetectionAlert}
    {failure : StoreError}
    (raised : persistAlertsAndCompleteJob library tenantId jobId workerId
      alerts now decision before = .error failure) :
    failure = .leaseOwnership "worker does not own a current job lease" ∨
      failure = .invalidValue
        "alert source event does not match the leased job" ∨
      (failure = .runtime "active semantic case was not persisted" ∧
        CaseIdCollision library before tenantId alerts) := by
  unfold persistAlertsAndCompleteJob at raised
  rcases Transaction.run_bind_error.mp raised with
    notOwned | ⟨event, atJob, owned, afterJob⟩
  · exact .inl (ownedJob_error notOwned)
  · right
    obtain ⟨isBefore, source, job, -, keyed, -, ofJob⟩ := ownedJob_ok owned
    subst isBefore
    have tenant : event.tenantId = tenantId :=
      (of_decide_eq_true ofJob).1.trans (jobHasKey_iff.mp keyed).1
    rcases Transaction.run_bind_error.mp afterJob with
      persisting | ⟨counts, middle, persisted, afterAlerts⟩
    · obtain ⟨alert, listed, middle, reached, failed⟩ :=
        Transaction.mapM_error (fun alert listed =>
          persistAlert_follows library decision event now alerts listed)
          persisting
      obtain ⟨consistent, stillSource⟩ :=
        consistent_alertsStored holds source reached
      rcases persistAlert_error consistent stillSource failed with
        mismatch | ⟨isRuntime, stored, member, sameTenant, different, same⟩
      · exact .inl mismatch
      · refine .inr ⟨isRuntime, alert, listed, stored.alertId, ?_,
          different, ?_⟩
        · rcases storedAlerts_origin reached member with
            old | ⟨earlier, earlierListed, sameId⟩
          · exact .inl ⟨stored, old, sameTenant.trans tenant, rfl⟩
          · exact .inr ⟨earlier, earlierListed, sameId⟩
        · rw [← tenant]
          exact same
    · rcases Transaction.run_bind_error.mp afterAlerts with
        updating | ⟨count, last, -, returned⟩
      · have keeps (row : JobRow) :
            (row.succeed now).tenantId = row.tenantId ∧
              (row.succeed now).jobId = row.jobId ∧
              (row.succeed now).eventId = row.eventId := ⟨rfl, rfl, rfl⟩
        exact (updateJobs_not_error keeps updating).elim
      · cases returned

end Refusals

/-! ## Any run -/

section Runs

variable {service : Service Log} {start database : Database Log}
  {trace : List Event}

theorem one_open_case {tenantId semanticKey : String} {left right : CaseRow}
    (leftStored : left ∈ database.cases.rows)
    (rightStored : right ∈ database.cases.rows)
    (leftOpen : left.openWith tenantId semanticKey = true)
    (rightOpen : right.openWith tenantId semanticKey = true) :
    left = right := by
  obtain ⟨leftTenant, leftKey, leftStatus⟩ := of_decide_eq_true leftOpen
  obtain ⟨rightTenant, rightKey, rightStatus⟩ := of_decide_eq_true rightOpen
  apply database.cases.eq_of_clash leftStored rightStored
  · simp [CaseRow.clash, CaseRow.openWith, rightKey, rightStatus, leftTenant,
      rightTenant, leftKey, leftStatus]
  · simp [CaseRow.clash, CaseRow.openWith, rightKey, rightStatus, leftTenant,
      rightTenant, leftKey, leftStatus]

/-- Case aggregation, for any completions and analyst operations: one open
case for a semantic key; every alert linked to one case, which has its key;
every case with the greatest priority of its alerts, of which it has one; the
version of a case that changes increases; and completions are never refused by
an index. -/
theorem case_aggregation (isInitial : (system service).initial start)
    (run : (system service).Run start trace database) :
    (∀ tenantId semanticKey, ∀ left ∈ database.cases.rows,
      ∀ right ∈ database.cases.rows,
        left.openWith tenantId semanticKey = true →
        right.openWith tenantId semanticKey = true → left = right) ∧
    (∀ alert ∈ database.alerts.rows, ∃! link,
      link ∈ database.caseAlerts.rows ∧ OfAlert alert link) ∧
    (∀ link ∈ database.caseAlerts.rows,
      ∃ alert ∈ database.alerts.rows, OfAlert alert link ∧
        ∃ event ∈ database.events.rows, SourceOf alert event ∧
          ∃ row ∈ database.cases.rows, TargetOf link row ∧
            row.semanticKey = some (caseSemanticKey service.library
              alert.tenantId alert.ruleId event.deviceId alert.actor)) ∧
    (∀ row ∈ database.cases.rows,
      (∃ link ∈ database.caseAlerts.rows, TargetOf link row) ∧
        IsGreatest (inducedPriorities database row.tenantId row.caseId)
          row.priority) ∧
    ∀ event next, (system service).step database event next →
      (∀ old ∈ database.cases.rows, ∃ new ∈ next.cases.rows,
        Advanced old new) ∧
      ∀ tenantId jobId workerId alerts now decision failure,
        event.operation =
            .persist tenantId jobId workerId alerts now decision →
          event.outcome = .error failure →
          failure =
              .leaseOwnership "worker does not own a current job lease" ∨
            failure = .invalidValue
              "alert source event does not match the leased job" ∨
            (failure = .runtime "active semantic case was not persisted" ∧
              CaseIdCollision service.library database tenantId alerts) := by
  have consistent := consistent_run isInitial run
  refine ⟨?_, ?_, ?_, ?_, ?_⟩
  · intro tenantId semanticKey left leftStored right rightStored
    exact one_open_case leftStored rightStored
  · intro alert member
    obtain ⟨link, stored, ofAlert⟩ := consistent.linked alert member
    refine ⟨link, ⟨stored, ofAlert⟩, ?_⟩
    rintro other ⟨otherStored, otherOfAlert⟩
    exact consistent.linkedOnce other otherStored link stored
      (otherOfAlert.1.trans ofAlert.1.symm)
      (otherOfAlert.2.trans ofAlert.2.symm)
  · intro link member
    obtain ⟨alert, alertStored, ofAlert, event, eventStored, isSource, row,
      rowStored, isTarget, key⟩ := consistent.targets link member
    refine ⟨alert, alertStored, ofAlert, event, eventStored, isSource, row,
      rowStored, isTarget, ?_⟩
    rw [key, alertKey, isSource.1]
  · intro row member
    have greatest := consistent.priorities row member
    obtain ⟨link, linkStored, tenant, identifier, -⟩ := greatest.1
    exact ⟨⟨link, linkStored, tenant.symm, identifier.symm⟩, greatest⟩
  · intro event next step
    constructor
    · rcases change_of_step step with
        ⟨failure, refused, same⟩ | ⟨reply, accepted, change⟩
      · intro old member
        rw [same]
        exact ⟨old, member, rfl, rfl, .inl rfl⟩
      · exact cases_advance change
    · intro tenantId jobId workerId alerts now decision failure isPersist
        refused
      have committed : (program service event.operation).commit database =
          (event.outcome, next) := step
      rw [isPersist, refused] at committed
      have raised : program service
          (.persist tenantId jobId workerId alerts now decision) database =
            .error failure := Transaction.commit_raised committed
      rcases Transaction.run_bind_error.mp raised with
        failed | ⟨result, middle, -, returned⟩
      · exact completion_error consistent failed
      · cases returned

theorem case_aggregation_takeover :
    (∀ row ∈ (runOperations sampleService sampleStart takeover).2.cases.rows,
      IsGreatest (inducedPriorities
        (runOperations sampleService sampleStart takeover).2 row.tenantId
          row.caseId) row.priority) ∧
    (runOperations sampleService sampleStart takeover).2.cases.rows.map
      (·.priority) = [.high] := by
  have aggregated := case_aggregation sampleStart_initial
    (run_runOperations sampleService sampleStart takeover)
  have priorities : (runOperations sampleService sampleStart
      takeover).2.cases.rows.map (·.priority) = [.high] := by
    decide +kernel
  refine ⟨?_, priorities⟩
  intro row member
  exact (aggregated.2.2.2.1 row member).2

end Runs

end Invariant

end Processing

end ControlForge
