import ControlForge.Cloud.Closure

/-!
# Alerts and their cases in the cloud runtime

Every case that is linked to an alert, or that an execution is about to link to
it, is the case of the tenant, the rule and the entity of the alert.  They are
one case as long as no execution picks a case for an alert that a closed case
already has.
-/

namespace ControlForge

namespace Cloud

/-! ## The case of an alert -/

/-- The stored event of an alert. -/
def HasEvent (database : Database) (row : AlertRow) : Prop :=
  ∃ event ∈ database.events.rows,
    (event.tenantId = row.tenantId ∧ event.eventId = row.alert.eventId) ∧
      event.actor = row.alert.actor

/-- The case is the one of the tenant, the rule and the entity of an alert. -/
def Belongs (detectors : Detectors) (database : Database)
    (tenantId alertId caseId : String) : Prop :=
  ∃ row ∈ database.alerts.rows,
    (row.tenantId = tenantId ∧ row.alert.alertId = alertId) ∧
    ∃ event ∈ database.events.rows,
      ((event.tenantId = tenantId ∧ event.eventId = row.alert.eventId) ∧
        event.actor = row.alert.actor) ∧
      ∃ stored ∈ database.cases.rows,
        (stored.tenantId = tenantId ∧ stored.caseId = caseId) ∧
          stored.semanticKey = some ((Execution.mk tenantId
            event.eventId).semanticKey detectors event row.alert)

/-- The alert has a stored occurrence with this identifier. -/
def Occurs (database : Database) (tenantId : String) (alert : DetectionAlert)
    (alertId : String) : Prop :=
  ∃ row ∈ database.alerts.rows,
    row.hasOccurrence tenantId alert.ruleId alert.eventId = true ∧
      row.alert.alertId = alertId

/-- The alert is stored and linked. -/
def Persisted (database : Database) (tenantId : String)
    (alert : DetectionAlert) : Prop :=
  ∃ alertId, Occurs database tenantId alert alertId ∧
    ∃ link ∈ database.caseAlerts.rows,
      link.ofAlert tenantId alertId = true

/-- The event an execution holds is a copy of the stored one. -/
def OfEvent (database : Database) (task : Execution) (event : EventRow) :
    Prop :=
  (event.tenantId = task.tenantId ∧ event.eventId = task.eventId) ∧
    ∃ stored ∈ database.events.rows,
      (stored.tenantId = event.tenantId ∧ stored.eventId = event.eventId) ∧
        stored.actor = event.actor ∧ stored.deviceId = event.deviceId

/-- The detectors return these alerts for the event. -/
def Returned (detectors : Detectors) (event : EventRow)
    (alerts : List DetectionAlert) : Prop :=
  ∃ tables, detectors.detect event tables = .returns alerts

/-- All alerts that the detectors return for an event are persisted. -/
def Completed (detectors : Detectors) (database : Database) (task : Execution)
    (alerts : List DetectionAlert) : Prop :=
  ∃ event, OfEvent database task event ∧ Returned detectors event alerts ∧
    ∀ alert ∈ alerts, Persisted database task.tenantId alert

/-! ## The assertions -/

/-- The tenant, the alert and the case of a link that is about to be stored. -/
def Process.claim : Process → Option (String × String × String)
  | .execution task (.persist _ _ _ _ (.link alertId caseId _)) =>
      some (task.tenantId, alertId, caseId)
  | _ => none

structure LinksSound (detectors : Detectors)
    (labels : List (PoolLabel Input Effect)) (database : Database) : Prop where
  alerts : ∀ row ∈ database.alerts.rows, HasEvent database row
  links : ∀ link ∈ database.caseAlerts.rows,
    Belongs detectors database link.tenantId link.alertId link.caseId
  once : ∀ left ∈ database.caseAlerts.rows,
    ∀ right ∈ database.caseAlerts.rows, left.tenantId = right.tenantId →
      left.alertId = right.alertId → left.caseId = right.caseId
  processed : ∀ label ∈ labels, ∀ tenantId eventId alerts,
    effectOf label = .processed tenantId eventId alerts →
      Completed detectors database ⟨tenantId, eventId⟩ alerts

/-- Every stored link of the alert is to the case. -/
def LinkedOnly (database : Database) (tenantId alertId caseId : String) :
    Prop :=
  ∀ link ∈ database.caseAlerts.rows, link.tenantId = tenantId →
    link.alertId = alertId → link.caseId = caseId

def PersistAssertion (detectors : Detectors) (database : Database)
    (task : Execution) (alert : DetectionAlert) : PersistPoint → Prop
  | .insertAlert | .readOccurrence _ => True
  | .readLink alertId | .openCase alertId | .readCase alertId _ =>
      Occurs database task.tenantId alert alertId
  | .link alertId caseId _ =>
      Occurs database task.tenantId alert alertId ∧
        Belongs detectors database task.tenantId alertId caseId ∧
        LinkedOnly database task.tenantId alertId caseId

structure Persisting (detectors : Detectors) (database : Database)
    (task : Execution) (event : EventRow) (before : List DetectionAlert)
    (alert : DetectionAlert) (after : List DetectionAlert)
    (point : PersistPoint) : Prop where
  copy : OfEvent database task event
  persisted : ∀ other ∈ before, Persisted database task.tenantId other
  returned : Returned detectors event (before ++ alert :: after)
  asserted : PersistAssertion detectors database task alert point

def ExecutionAssertion (detectors : Detectors) (database : Database)
    (task : Execution) : ExecutionPoint → Prop
  | .detect event _ => OfEvent database task event
  | .persist event before alert after point =>
      Persisting detectors database task event before alert after point
  | .mark alerts => Completed detectors database task alerts
  | .load | .markFailed _ | .finished => True

def LinkAssertion (detectors : Detectors) (database : Database) :
    Process → Prop
  | .execution task point => ExecutionAssertion detectors database task point
  | _ => True

/-- Two executions that are about to link one alert link it to one case. -/
def ClaimsAgree (left right : Process) : Prop :=
  ∀ tenantId alertId leftCase rightCase,
    left.claim = some (tenantId, alertId, leftCase) →
    right.claim = some (tenantId, alertId, rightCase) → leftCase = rightCase

def linkAssertions (detectors : Detectors) :
    Procedure.Assertions Database Process (PoolLabel Input Effect) where
  shared := LinksSound detectors
  process := LinkAssertion detectors
  pair _ left right := ClaimsAgree left right

/-- No row goes away, and what names and places it stays. -/
structure LinksKept (before after : Database) : Prop where
  events : ∀ row ∈ before.events.rows, ∃ next ∈ after.events.rows,
    (next.tenantId = row.tenantId ∧ next.eventId = row.eventId) ∧
      next.actor = row.actor ∧ next.deviceId = row.deviceId
  alerts : ∀ row ∈ before.alerts.rows, row ∈ after.alerts.rows
  cases : ∀ row ∈ before.cases.rows, ∃ next ∈ after.cases.rows,
    (next.tenantId = row.tenantId ∧ next.caseId = row.caseId) ∧
      next.semanticKey = row.semanticKey
  links : ∀ link ∈ before.caseAlerts.rows, link ∈ after.caseAlerts.rows

/-- A new link of the alert that a process is about to link is to the case it
has picked. -/
def LinksAgree (before after : Database) (process : Process) : Prop :=
  ∀ link ∈ after.caseAlerts.rows, link ∈ before.caseAlerts.rows ∨
    ∀ caseId, process.claim = some (link.tenantId, link.alertId, caseId) →
      link.caseId = caseId

def LinkGuarantee (before after : Database) (process : Process) : Prop :=
  LinksKept before after ∧ LinksAgree before after process

/-- The alert is linked to the case, or an execution is about to link it. -/
def Claimed (pool : Pool Database Process) (tenantId alertId caseId : String) :
    Prop :=
  (∃ link ∈ pool.shared.caseAlerts.rows,
    (link.tenantId = tenantId ∧ link.alertId = alertId) ∧
      link.caseId = caseId) ∨
  ∃ index, (pool.process index).claim = some (tenantId, alertId, caseId)

/-- What the code does not check when an execution picks the case for an alert:
no closed case is already linked to the alert, or picked for it by another
execution. -/
def ChosenInTime (pool : Pool Database Process) :
    PoolLabel Input Effect → Prop
  | .resume index _ _ =>
      match pool.process index with
      | .execution task (.persist _ _ _ _ (.readCase alertId _)) =>
          ∀ row ∈ pool.shared.cases.rows, row.tenantId = task.tenantId →
            row.status = .closed →
              ¬Claimed pool task.tenantId alertId row.caseId
      | _ => True
  | _ => True

/-! ## What stays -/

section Stability

variable {detectors : Detectors} {before after : Database}
  {labels : List (PoolLabel Input Effect)}

theorem LinksKept.refl (database : Database) : LinksKept database database where
  events row stored := ⟨row, stored, ⟨rfl, rfl⟩, rfl, rfl⟩
  alerts _ stored := stored
  cases row stored := ⟨row, stored, ⟨rfl, rfl⟩, rfl⟩
  links _ stored := stored

theorem LinksAgree.of_same (same : after.caseAlerts = before.caseAlerts)
    (process : Process) : LinksAgree before after process := by
  intro link stored
  rw [same] at stored
  exact .inl stored

theorem HasEvent.kept (kept : LinksKept before after) {row : AlertRow}
    (hasEvent : HasEvent before row) : HasEvent after row := by
  obtain ⟨event, stored, ⟨tenant, identity⟩, actor⟩ := hasEvent
  obtain ⟨next, nextStored, ⟨sameTenant, sameIdentity⟩, sameActor, -⟩ :=
    kept.events event stored
  exact ⟨next, nextStored, ⟨sameTenant.trans tenant,
    sameIdentity.trans identity⟩, sameActor.trans actor⟩

theorem semanticKey_congr {task other : Execution}
    {event next : EventRow} {alert otherAlert : DetectionAlert}
    (tenant : task.tenantId = other.tenantId)
    (rule : alert.ruleId = otherAlert.ruleId)
    (actor : alert.actor = otherAlert.actor)
    (device : event.deviceId = next.deviceId) :
    task.semanticKey detectors event alert =
      other.semanticKey detectors next otherAlert := by
  unfold Execution.semanticKey Execution.entity
  rw [tenant, rule, actor, device]

theorem Belongs.kept (kept : LinksKept before after)
    {tenantId alertId caseId : String}
    (belongs : Belongs detectors before tenantId alertId caseId) :
    Belongs detectors after tenantId alertId caseId := by
  obtain ⟨row, stored, ofAlert, event, eventStored,
    ⟨⟨tenant, identity⟩, actor⟩, storedCase, caseStored, ⟨caseTenant, isCase⟩,
    key⟩ := belongs
  obtain ⟨next, nextStored, ⟨nextTenant, nextIdentity⟩, nextActor, device⟩ :=
    kept.events event eventStored
  obtain ⟨nextCase, nextCaseStored, ⟨nextCaseTenant, nextIsCase⟩, nextKey⟩ :=
    kept.cases storedCase caseStored
  refine ⟨row, kept.alerts row stored, ofAlert, next, nextStored,
    ⟨⟨nextTenant.trans tenant, nextIdentity.trans identity⟩,
      nextActor.trans actor⟩, nextCase, nextCaseStored,
    ⟨nextCaseTenant.trans caseTenant, nextIsCase.trans isCase⟩, ?_⟩
  rw [nextKey, key]
  exact congrArg some (semanticKey_congr rfl rfl rfl device.symm)

theorem Occurs.kept (kept : LinksKept before after)
    {tenantId alertId : String} {alert : DetectionAlert}
    (occurs : Occurs before tenantId alert alertId) :
    Occurs after tenantId alert alertId := by
  obtain ⟨row, stored, occurrence⟩ := occurs
  exact ⟨row, kept.alerts row stored, occurrence⟩

theorem Persisted.kept (kept : LinksKept before after) {tenantId : String}
    {alert : DetectionAlert} (persisted : Persisted before tenantId alert) :
    Persisted after tenantId alert := by
  obtain ⟨alertId, occurs, link, stored, ofAlert⟩ := persisted
  exact ⟨alertId, occurs.kept kept, link, kept.links link stored, ofAlert⟩

theorem OfEvent.kept (kept : LinksKept before after) {task : Execution}
    {event : EventRow} (ofEvent : OfEvent before task event) :
    OfEvent after task event := by
  obtain ⟨isTask, stored, member, ⟨tenant, identity⟩, actor, device⟩ := ofEvent
  obtain ⟨next, nextMember, ⟨nextTenant, nextIdentity⟩, nextActor,
    nextDevice⟩ := kept.events stored member
  exact ⟨isTask, next, nextMember,
    ⟨nextTenant.trans tenant, nextIdentity.trans identity⟩,
    nextActor.trans actor, nextDevice.trans device⟩

theorem Completed.kept (kept : LinksKept before after) {task : Execution}
    {alerts : List DetectionAlert}
    (completed : Completed detectors before task alerts) :
    Completed detectors after task alerts := by
  obtain ⟨event, copy, returned, persisted⟩ := completed
  exact ⟨event, copy.kept kept, returned,
    fun alert member => (persisted alert member).kept kept⟩

theorem PersistAssertion.kept {task : Execution} {alert : DetectionAlert}
    {point : PersistPoint} (kept : LinksKept before after)
    (agree : ∀ alertId caseId now, point = .link alertId caseId now →
      LinkedOnly before task.tenantId alertId caseId →
      LinkedOnly after task.tenantId alertId caseId)
    (asserted : PersistAssertion detectors before task alert point) :
    PersistAssertion detectors after task alert point := by
  cases point with
  | insertAlert | readOccurrence => trivial
  | readLink | openCase | readCase => exact Occurs.kept kept asserted
  | link alertId caseId now =>
      obtain ⟨occurs, belongs, only⟩ := asserted
      exact ⟨occurs.kept kept, belongs.kept kept,
        agree alertId caseId now rfl only⟩

theorem LinkedOnly.kept {process : Process} {tenantId alertId caseId : String}
    (agree : LinksAgree before after process)
    (claim : process.claim = some (tenantId, alertId, caseId))
    (only : LinkedOnly before tenantId alertId caseId) :
    LinkedOnly after tenantId alertId caseId := by
  intro link stored tenant ofAlert
  rcases agree link stored with old | new
  · exact only link old tenant ofAlert
  · apply new
    rw [tenant, ofAlert]
    exact claim

theorem LinkAssertion.kept {process : Process}
    (guaranteed : LinkGuarantee before after process)
    (asserted : LinkAssertion detectors before process) :
    LinkAssertion detectors after process := by
  obtain ⟨kept, agree⟩ := guaranteed
  cases process with
  | idle | transition | disposition => trivial
  | execution task point =>
      cases point with
      | load | markFailed | finished => trivial
      | detect event tables => exact OfEvent.kept kept asserted
      | persist event earlier alert later point =>
          obtain ⟨copy, persisted, returned, atPoint⟩ := asserted
          refine ⟨copy.kept kept,
            fun other member => (persisted other member).kept kept, returned,
            atPoint.kept kept ?_⟩
          rintro alertId caseId now rfl only
          exact only.kept agree rfl
      | mark alerts => exact Completed.kept kept asserted

/-- A step keeps the invariant when its new alerts have their event, its new
links are right, and what it has completed is persisted. -/
theorem LinksSound.step {label : PoolLabel Input Effect}
    (sound : LinksSound detectors labels before)
    (kept : LinksKept before after)
    (alerts : ∀ row ∈ after.alerts.rows, row ∈ before.alerts.rows ∨
      HasEvent after row)
    (links : ∀ link ∈ after.caseAlerts.rows, link ∈ before.caseAlerts.rows ∨
      Belongs detectors after link.tenantId link.alertId link.caseId ∧
        LinkedOnly before link.tenantId link.alertId link.caseId ∧
        ∀ other ∈ after.caseAlerts.rows, other ∈ before.caseAlerts.rows ∨
          other = link)
    (processed : ∀ tenantId eventId alerts,
      effectOf label = .processed tenantId eventId alerts →
        Completed detectors after ⟨tenantId, eventId⟩ alerts) :
    LinksSound detectors (labels ++ [label]) after where
  alerts row stored := (alerts row stored).elim
    (fun old => (sound.alerts row old).kept kept) id
  links link stored := (links link stored).elim
    (fun old => (sound.links link old).kept kept) And.left
  once left leftStored right rightStored tenant ofAlert := by
    rcases links left leftStored with leftOld | ⟨-, leftOnly, leftNew⟩
    · rcases links right rightStored with rightOld | ⟨-, rightOnly, -⟩
      · exact sound.once left leftOld right rightOld tenant ofAlert
      · exact rightOnly left leftOld tenant ofAlert
    · rcases leftNew right rightStored with rightOld | rfl
      · exact (leftOnly right rightOld tenant.symm ofAlert.symm).symm
      · rfl
  processed other member tenantId eventId done isEffect := by
    rcases List.mem_append.mp member with old | new
    · exact (sound.processed other old tenantId eventId done isEffect).kept kept
    · rw [List.mem_singleton.mp new] at isEffect
      exact processed tenantId eventId done isEffect

/-- A step that links nothing. -/
theorem LinksSound.of_same {label : PoolLabel Input Effect}
    (sound : LinksSound detectors labels before)
    (kept : LinksKept before after)
    (sameAlerts : after.alerts = before.alerts)
    (sameLinks : after.caseAlerts = before.caseAlerts)
    (processed : ∀ tenantId eventId alerts,
      effectOf label = .processed tenantId eventId alerts →
        Completed detectors after ⟨tenantId, eventId⟩ alerts) :
    LinksSound detectors (labels ++ [label]) after := by
  apply sound.step kept ?_ ?_ processed
  · intro row stored
    rw [sameAlerts] at stored
    exact .inl stored
  · intro link stored
    rw [sameLinks] at stored
    exact .inl stored

end Stability

/-! ## Steps that link nothing -/

/-- A step that stores no alert and no link, and completes no execution. -/
structure LinksNothing (before after : Database) (effect : Effect) : Prop where
  kept : LinksKept before after
  alerts : after.alerts = before.alerts
  links : after.caseAlerts = before.caseAlerts
  effect : ∀ tenantId eventId alerts,
    effect ≠ .processed tenantId eventId alerts

section Steps

variable {detectors : Detectors} {before after database next : Database}
  {labels : List (PoolLabel Input Effect)} {input : Input} {effect : Effect}

theorem LinksNothing.refl (database : Database) :
    LinksNothing database database .none where
  kept := .refl database
  alerts := rfl
  links := rfl
  effect _ _ _ := Effect.noConfusion

theorem LinksNothing.sound {label : PoolLabel Input Effect}
    (nothing : LinksNothing before after (effectOf label))
    (sound : LinksSound detectors labels before) :
    LinksSound detectors (labels ++ [label]) after := by
  apply sound.of_same nothing.kept nothing.alerts nothing.links
  intro tenantId eventId alerts isEffect
  exact absurd isEffect (nothing.effect tenantId eventId alerts)

theorem LinksNothing.guarantee (nothing : LinksNothing before after effect)
    (process : Process) : LinkGuarantee before after process :=
  ⟨nothing.kept, LinksAgree.of_same nothing.links process⟩

/-- The cases change, but not in what places them. -/
theorem LinksKept.of_cases {change : CaseRow → CaseRow}
    (sameEvents : after.events = before.events)
    (sameAlerts : after.alerts = before.alerts)
    (sameLinks : after.caseAlerts = before.caseAlerts)
    (rows : after.cases.rows = before.cases.rows.map change)
    (keeps : ∀ row, ((change row).tenantId = row.tenantId ∧
      (change row).caseId = row.caseId) ∧
      (change row).semanticKey = row.semanticKey) :
    LinksKept before after where
  events row stored := by
    rw [sameEvents]
    exact ⟨row, stored, ⟨rfl, rfl⟩, rfl, rfl⟩
  alerts row stored := by
    rw [sameAlerts]
    exact stored
  cases row stored := by
    refine ⟨change row, ?_, keeps row⟩
    rw [rows]
    exact List.mem_map_of_mem stored
  links link stored := by
    rw [sameLinks]
    exact stored

theorem applyWhere_keeps {selected : CaseRow → Bool}
    {change : CaseRow → CaseRow}
    (keeps : ∀ row, ((change row).tenantId = row.tenantId ∧
      (change row).caseId = row.caseId) ∧
      (change row).semanticKey = row.semanticKey) (row : CaseRow) :
    ((Table.applyWhere selected change row).tenantId = row.tenantId ∧
      (Table.applyWhere selected change row).caseId = row.caseId) ∧
      (Table.applyWhere selected change row).semanticKey =
        row.semanticKey := by
  unfold Table.applyWhere
  split
  · exact keeps row
  · exact ⟨⟨rfl, rfl⟩, rfl⟩

theorem transition_linksNothing {request : TransitionRequest}
    {point nextPoint : TransitionPoint}
    (resumed : request.resume input point database =
      (nextPoint, next, effect)) : LinksNothing database next effect := by
  cases point with
  | requireCase | findDisposition | findConflict =>
      simp only [TransitionRequest.resume] at resumed
      split at resumed
      · obtain ⟨-, rfl, rfl⟩ := resumed
        exact .refl database
      · obtain ⟨-, rfl, rfl⟩ := resumed
        exact .refl database
  | write selected updatedAt =>
      have isWritten := written resumed
      cases isWritten with
      | lost | conflict => exact .refl database
      | moved stored isSelected rows =>
          refine ⟨?_, rfl, rfl, fun _ _ _ => Effect.noConfusion⟩
          exact LinksKept.of_cases rfl rfl rfl rows
            (applyWhere_keeps fun _ => ⟨⟨rfl, rfl⟩, rfl⟩)
  | finished outcome =>
      obtain ⟨-, rfl, rfl⟩ := resumed
      exact .refl database

theorem disposition_linksNothing {request : DispositionRequest}
    {point nextPoint : DispositionPoint}
    (resumed : request.resume input point database =
      (nextPoint, next, effect)) : LinksNothing database next effect := by
  cases point with
  | requireCase =>
      simp only [DispositionRequest.resume] at resumed
      split at resumed
      · obtain ⟨-, rfl, rfl⟩ := resumed
        exact .refl database
      · obtain ⟨-, rfl, rfl⟩ := resumed
        exact .refl database
  | write createdAt =>
      simp only [DispositionRequest.resume] at resumed
      split at resumed
      · obtain ⟨-, rfl, rfl⟩ := resumed
        exact .refl database
      · split at resumed
        · obtain ⟨-, rfl, rfl⟩ := resumed
          exact .refl database
        · obtain ⟨-, rfl, rfl⟩ := resumed
          refine ⟨?_, rfl, rfl, fun _ _ _ => Effect.noConfusion⟩
          exact LinksKept.of_cases rfl rfl rfl (List.map_id _).symm
            fun _ => ⟨⟨rfl, rfl⟩, rfl⟩
  | finished outcome =>
      obtain ⟨-, rfl, rfl⟩ := resumed
      exact .refl database

theorem outside_linksNothing (changed : Outside database next) :
    LinksNothing database next .none := by
  cases changed with
  | @ingested row events inserted =>
      refine ⟨⟨fun event stored => ?_, fun _ stored => stored,
        fun stored member => ⟨stored, member, ⟨rfl, rfl⟩, rfl⟩,
        fun _ stored => stored⟩, rfl, rfl, fun _ _ _ => Effect.noConfusion⟩
      refine ⟨event, ?_, ⟨rfl, rfl⟩, rfl, rfl⟩
      rw [(Table.insert_eq_some.mp inserted).2]
      exact List.mem_append_left _ stored
  | assigned rows audit =>
      refine ⟨?_, rfl, rfl, fun _ _ _ => Effect.noConfusion⟩
      exact LinksKept.of_cases rfl rfl rfl rows
        (applyWhere_keeps fun _ => ⟨⟨rfl, rfl⟩, rfl⟩)

/-! ### The steps of an execution -/

theorem insertCase_linksNothing (row : CaseRow) (database : Database) :
    LinksNothing database (Execution.insertCase row database) .none := by
  unfold Execution.insertCase
  split
  · next cases inserted =>
      refine ⟨⟨fun event stored => ⟨event, stored, ⟨rfl, rfl⟩, rfl, rfl⟩,
        fun _ stored => stored, fun stored member => ?_,
        fun _ stored => stored⟩, rfl, rfl, fun _ _ _ => Effect.noConfusion⟩
      refine ⟨stored, ?_, ⟨rfl, rfl⟩, rfl⟩
      rw [(Table.insert_eq_some.mp inserted).2]
      exact List.mem_append_left _ member
  · exact .refl database

theorem markEvent_kept (task : Execution) (processedAt : Option Timestamp)
    (error : Option String) (database : Database) :
    LinksKept database (task.markEvent processedAt error database) where
  events row stored := by
    refine ⟨_, List.mem_map_of_mem stored, ?_⟩
    unfold Table.applyWhere
    split
    · exact ⟨⟨rfl, rfl⟩, rfl, rfl⟩
    · exact ⟨⟨rfl, rfl⟩, rfl, rfl⟩
  alerts _ stored := stored
  cases row stored := ⟨row, stored, ⟨rfl, rfl⟩, rfl⟩
  links _ stored := stored

/-- What an insertion of an alert leaves and adds. -/
theorem insertAlert_links (task : Execution) (alert : DetectionAlert)
    (now : Timestamp) (database : Database) :
    LinksKept database (task.insertAlert alert now database).2 ∧
      (task.insertAlert alert now database).2.caseAlerts =
        database.caseAlerts ∧
      (task.insertAlert alert now database).2.events = database.events ∧
      ∀ row ∈ (task.insertAlert alert now database).2.alerts.rows,
        row ∈ database.alerts.rows ∨ row = ⟨task.tenantId, alert⟩ := by
  unfold Execution.insertAlert
  split
  · exact ⟨.refl database, rfl, rfl, fun row stored => .inl stored⟩
  · next alerts inserted =>
      have rows := (Table.insert_eq_some.mp inserted).2
      refine ⟨⟨fun event stored => ⟨event, stored, ⟨rfl, rfl⟩, rfl, rfl⟩,
        fun row stored => ?_,
        fun stored member => ⟨stored, member, ⟨rfl, rfl⟩, rfl⟩,
        fun _ stored => stored⟩, rfl, rfl, fun row stored => ?_⟩
      · change row ∈ alerts.rows
        rw [rows]
        exact List.mem_append_left _ stored
      · change row ∈ alerts.rows at stored
        rw [rows] at stored
        exact (List.mem_append.mp stored).imp_right List.mem_singleton.mp

/-- What the last batch leaves and adds. -/
theorem linkCase_links (task : Execution) (alertId caseId : String)
    (severity : Severity) (now : Timestamp) (database : Database) :
    LinksKept database
        (task.linkCase alertId caseId severity now database) ∧
      (∃ link ∈ (task.linkCase alertId caseId severity now
          database).caseAlerts.rows,
        (link.tenantId = task.tenantId ∧ link.alertId = alertId) ∧
          link.caseId = caseId) ∧
      ∀ link ∈ (task.linkCase alertId caseId severity now
          database).caseAlerts.rows,
        link ∈ database.caseAlerts.rows ∨
          link = ⟨task.tenantId, caseId, alertId, now⟩ := by
  have kept : LinksKept database
      (task.linkCase alertId caseId severity now database) := by
    refine ⟨fun event stored => ⟨event, stored, ⟨rfl, rfl⟩, rfl, rfl⟩,
      fun _ stored => stored, fun row stored => ?_, fun link stored => ?_⟩
    · refine ⟨_, List.mem_map_of_mem stored, ?_⟩
      apply applyWhere_keeps
      exact fun _ => ⟨⟨rfl, rfl⟩, rfl⟩
    · simp only [Execution.linkCase]
      cases inserted : database.caseAlerts.insert
          ⟨task.tenantId, caseId, alertId, now⟩ with
      | none => exact stored
      | some caseAlerts =>
          change link ∈ caseAlerts.rows
          rw [(Table.insert_eq_some.mp inserted).2]
          exact List.mem_append_left _ stored
  refine ⟨kept, ?_, ?_⟩
  · simp only [Execution.linkCase]
    cases inserted : database.caseAlerts.insert
        ⟨task.tenantId, caseId, alertId, now⟩ with
    | none =>
        obtain ⟨link, stored, clashes⟩ := Table.insert_eq_none.mp inserted
        simp only [CaseAlertRow.clash, decide_eq_true_eq] at clashes
        obtain ⟨tenant, isCase, ofAlert⟩ := clashes
        exact ⟨link, stored, ⟨tenant, ofAlert⟩, isCase⟩
    | some caseAlerts =>
        refine ⟨⟨task.tenantId, caseId, alertId, now⟩, ?_, ⟨rfl, rfl⟩, rfl⟩
        change _ ∈ caseAlerts.rows
        rw [(Table.insert_eq_some.mp inserted).2]
        exact List.mem_append_right _ (List.mem_singleton_self _)
  · intro link stored
    simp only [Execution.linkCase] at stored
    cases inserted : database.caseAlerts.insert
        ⟨task.tenantId, caseId, alertId, now⟩ with
    | none =>
        rw [inserted] at stored
        exact .inl stored
    | some caseAlerts =>
        rw [inserted] at stored
        change link ∈ caseAlerts.rows at stored
        rw [(Table.insert_eq_some.mp inserted).2] at stored
        exact (List.mem_append.mp stored).imp_right List.mem_singleton.mp

end Steps

/-! ## The owner of a step -/

section Owner

variable {detectors : Detectors} {labels : List (PoolLabel Input Effect)}
  {label : PoolLabel Input Effect} {pool : Pool Database Process}
  {index : Nat} {input : Input} {next : Database} {effect : Effect}
  {task : Execution} {event : EventRow} {before after : List DetectionAlert}
  {alert : DetectionAlert}

/-- What a step to a point establishes. -/
structure Owned (detectors : Detectors) (labels : List (PoolLabel Input Effect))
    (pool : Pool Database Process) (index : Nat)
    (label : PoolLabel Input Effect) (next : Database) (point : Process) :
    Prop where
  shared : LinksSound detectors (labels ++ [label]) next
  process : LinkAssertion detectors next point
  others : ∀ other, other ≠ index →
    LinkGuarantee pool.shared next (pool.process other) ∧
      ClaimsAgree point (pool.process other)

theorem ClaimsAgree.of_none {left right : Process}
    (noClaim : left.claim = none) : ClaimsAgree left right := by
  intro tenantId alertId leftCase rightCase isClaim
  rw [noClaim] at isClaim
  cases isClaim

theorem Owned.of_nothing {point : Process}
    (holds : (linkAssertions detectors).Hold labels pool)
    (nothing : LinksNothing pool.shared next (effectOf label))
    (asserted : LinkAssertion detectors next point)
    (noClaim : point.claim = none) :
    Owned detectors labels pool index label next point where
  shared := nothing.sound holds.shared
  process := asserted
  others _ _ := ⟨nothing.guarantee _, .of_none noClaim⟩

theorem Returned.created {alerts : List DetectionAlert}
    (returned : Returned detectors event alerts) (member : alert ∈ alerts) :
    alert.eventId = event.eventId ∧ alert.actor = event.actor := by
  obtain ⟨tables, returns⟩ := returned
  exact detectors.created event tables alerts returns alert member

theorem Returned.current
    (returned : Returned detectors event (before ++ alert :: after)) :
    alert.eventId = event.eventId ∧ alert.actor = event.actor :=
  returned.created (List.mem_append_right _ List.mem_cons_self)

theorem claim_advance (task : Execution) (event : EventRow)
    (before after : List DetectionAlert) :
    (Process.execution task (Execution.advance event before after)).claim =
      none := by
  cases after with
  | nil => rfl
  | cons alert after => rfl

theorem advance_asserted {database : Database}
    (copy : OfEvent database task event)
    (persisted : ∀ other ∈ before, Persisted database task.tenantId other)
    (returned : Returned detectors event (before ++ after)) :
    ExecutionAssertion detectors database task
      (Execution.advance event before after) := by
  cases after with
  | nil =>
      rw [List.append_nil] at returned
      exact ⟨event, copy, returned, persisted⟩
  | cons alert after => exact ⟨copy, persisted, returned, trivial⟩

theorem persisted_concat {database : Database}
    (persisted : ∀ other ∈ before, Persisted database task.tenantId other)
    (current : Persisted database task.tenantId alert) :
    ∀ other ∈ before ++ [alert],
      Persisted database task.tenantId other := by
  intro other member
  rcases List.mem_append.mp member with earlier | last
  · exact persisted other earlier
  · rw [List.mem_singleton.mp last]
    exact current

/-- An alert is inserted. -/
theorem owned_insertAlert
    (holds : (linkAssertions detectors).Hold labels pool)
    (persisting : Persisting detectors pool.shared task event before alert
      after .insertAlert) (now : Timestamp) (inserted : Bool)
    (noEffect : effectOf label = .none) :
    Owned detectors labels pool index label
      (task.insertAlert alert now pool.shared).2
      (.execution task
        (.persist event before alert after (.readOccurrence inserted))) := by
  obtain ⟨kept, sameLinks, sameEvents, alerts⟩ :=
    insertAlert_links task alert now pool.shared
  obtain ⟨copy, persisted, returned, -⟩ := persisting
  have created := returned.current
  refine ⟨?_, ?_, fun _ _ => ⟨⟨kept, .of_same sameLinks _⟩,
    .of_none rfl⟩⟩
  · apply LinksSound.step holds.shared kept
    · intro row stored
      rcases alerts row stored with old | rfl
      · exact .inl old
      · right
        obtain ⟨⟨tenant, -⟩, other, isStored, ⟨otherTenant, identity⟩, actor,
          -⟩ := copy
        refine ⟨other, ?_, ⟨otherTenant.trans tenant,
          identity.trans created.1.symm⟩, actor.trans created.2.symm⟩
        rw [sameEvents]
        exact isStored
    · intro link stored
      rw [sameLinks] at stored
      exact .inl stored
    · intro tenantId eventId alerts isEffect
      rw [noEffect] at isEffect
      cases isEffect
  · exact ⟨copy.kept kept,
      fun other member => (persisted other member).kept kept, returned,
      trivial⟩

/-- The occurrence names one alert. -/
theorem occurs_eq {database : Database} {tenantId alertId : String}
    (occurs : Occurs database tenantId alert alertId) {row : AlertRow}
    (stored : row ∈ database.alerts.rows) (tenant : row.tenantId = tenantId)
    (ofAlert : row.alert.alertId = alertId) :
    row.alert.ruleId = alert.ruleId ∧ row.alert.eventId = alert.eventId := by
  obtain ⟨other, otherStored, occurrence, isAlert⟩ := occurs
  simp only [AlertRow.hasOccurrence, decide_eq_true_eq] at occurrence
  obtain ⟨otherTenant, rule, event⟩ := occurrence
  have same : row = other := by
    apply database.alerts.eq_of_clash stored otherStored
    · simp [AlertRow.clash, tenant, otherTenant, ofAlert, isAlert]
    · simp [AlertRow.clash, tenant, otherTenant, ofAlert, isAlert]
  rw [same]
  exact ⟨rule, event⟩

theorem event_eq_of_key {database : Database} {left right : EventRow}
    (leftStored : left ∈ database.events.rows)
    (rightStored : right ∈ database.events.rows)
    (tenant : left.tenantId = right.tenantId)
    (identity : left.eventId = right.eventId) : left = right := by
  apply database.events.eq_of_clash leftStored rightStored
  · simp [EventRow.clash, EventRow.hasKey, tenant, identity]
  · simp [EventRow.clash, EventRow.hasKey, tenant, identity]

/-- The case of a claim has the key that an execution computes. -/
theorem Belongs.semanticKey {database : Database} {alertId caseId : String}
    (belongs : Belongs detectors database task.tenantId alertId caseId)
    (occurs : Occurs database task.tenantId alert alertId)
    (copy : OfEvent database task event)
    (created : alert.eventId = event.eventId ∧ alert.actor = event.actor) :
    ∃ stored ∈ database.cases.rows,
      (stored.tenantId = task.tenantId ∧ stored.caseId = caseId) ∧
        stored.semanticKey =
          some (task.semanticKey detectors event alert) := by
  obtain ⟨row, rowStored, ⟨tenant, ofAlert⟩, other, otherStored,
    ⟨⟨otherTenant, identity⟩, actor⟩, stored, caseStored, isCase, key⟩ :=
    belongs
  obtain ⟨rule, sameEvent⟩ := occurs_eq occurs rowStored tenant ofAlert
  obtain ⟨⟨eventTenant, -⟩, original, originalStored,
    ⟨originalTenant, originalIdentity⟩, originalActor, device⟩ := copy
  have same : other = original := by
    apply event_eq_of_key otherStored originalStored
    · rw [otherTenant, originalTenant, eventTenant]
    · rw [identity, sameEvent, created.1, originalIdentity]
  refine ⟨stored, caseStored, isCase, ?_⟩
  rw [key]
  apply congrArg some
  apply semanticKey_congr
  · rfl
  · exact rule
  · rw [← actor, same, originalActor, created.2]
  · rw [same, device]

/-- The case that an execution picks belongs to its alert. -/
theorem belongs_active {database : Database} {alertId : String}
    {active : CaseRow} (occurs : Occurs database task.tenantId alert alertId)
    (copy : OfEvent database task event)
    (created : alert.eventId = event.eventId ∧ alert.actor = event.actor)
    (stored : active ∈ database.cases.rows)
    (isActive : active.activeWith task.tenantId
      (task.semanticKey detectors event alert) = true)
    (hasEvent : ∀ row ∈ database.alerts.rows, HasEvent database row) :
    Belongs detectors database task.tenantId alertId active.caseId := by
  obtain ⟨row, rowStored, occurrence, isAlert⟩ := occurs
  obtain ⟨other, otherStored, ⟨otherTenant, identity⟩, actor⟩ :=
    hasEvent row rowStored
  obtain ⟨⟨eventTenant, -⟩, original, originalStored,
    ⟨originalTenant, originalIdentity⟩, originalActor, device⟩ := copy
  simp only [AlertRow.hasOccurrence, decide_eq_true_eq] at occurrence
  obtain ⟨rowTenant, rule, rowEvent⟩ := occurrence
  have same : other = original := by
    apply event_eq_of_key otherStored originalStored
    · rw [otherTenant, rowTenant, originalTenant, eventTenant]
    · rw [identity, rowEvent, created.1, originalIdentity]
  simp only [CaseRow.activeWith, decide_eq_true_eq] at isActive
  obtain ⟨caseTenant, key, -⟩ := isActive
  refine ⟨row, rowStored, ⟨rowTenant, isAlert⟩, other, otherStored,
    ⟨⟨otherTenant.trans rowTenant, identity⟩, actor⟩, active, stored,
    ⟨caseTenant, rfl⟩, ?_⟩
  rw [key]
  apply congrArg some
  apply semanticKey_congr
  · rfl
  · exact rule.symm
  · rw [← actor, same, originalActor, created.2]
  · rw [same, device]

/-- A case with a key that is not closed is the only active one. -/
theorem active_eq {database : Database} {tenantId semanticKey : String}
    {left right : CaseRow} (leftStored : left ∈ database.cases.rows)
    (rightStored : right ∈ database.cases.rows)
    (leftActive : left.activeWith tenantId semanticKey = true)
    (rightActive : right.activeWith tenantId semanticKey = true) :
    left = right := by
  simp only [CaseRow.activeWith, decide_eq_true_eq] at leftActive rightActive
  obtain ⟨leftTenant, leftKey, leftOpen⟩ := leftActive
  obtain ⟨rightTenant, rightKey, rightOpen⟩ := rightActive
  apply database.cases.eq_of_clash leftStored rightStored
  · simp [CaseRow.clash, CaseRow.activeWith, leftTenant, leftKey, leftOpen,
      rightTenant, rightKey, rightOpen]
  · simp [CaseRow.clash, CaseRow.activeWith, leftTenant, leftKey, leftOpen,
      rightTenant, rightKey, rightOpen]

/-- What is claimed of an alert belongs to it. -/
theorem belongs_of_claimed (holds : (linkAssertions detectors).Hold labels pool)
    {tenantId alertId caseId : String}
    (claimed : Claimed pool tenantId alertId caseId) :
    Belongs detectors pool.shared tenantId alertId caseId := by
  rcases claimed with ⟨link, stored, ⟨rfl, rfl⟩, rfl⟩ | ⟨index, isClaim⟩
  · exact holds.shared.links link stored
  · have asserted := holds.process index
    change LinkAssertion detectors pool.shared (pool.process index) at asserted
    cases isProcess : pool.process index with
    | execution task point =>
        rw [isProcess] at isClaim asserted
        cases point with
        | persist event before alert after point =>
            cases point with
            | link =>
                cases isClaim
                exact asserted.asserted.2.1
            | insertAlert | readOccurrence | readLink | openCase | readCase =>
                cases isClaim
        | load | detect | mark | markFailed | finished => cases isClaim
    | idle | transition | disposition =>
        rw [isProcess] at isClaim
        cases isClaim

/-- A case that is claimed for an alert and not closed is the one an execution
picks. -/
theorem claimed_eq_active
    (holds : (linkAssertions detectors).Hold labels pool) {alertId : String}
    {caseId : String} {active : CaseRow}
    (occurs : Occurs pool.shared task.tenantId alert alertId)
    (copy : OfEvent pool.shared task event)
    (created : alert.eventId = event.eventId ∧ alert.actor = event.actor)
    (stored : active ∈ pool.shared.cases.rows)
    (isActive : active.activeWith task.tenantId
      (task.semanticKey detectors event alert) = true)
    (chosen : ∀ row ∈ pool.shared.cases.rows, row.tenantId = task.tenantId →
      row.status = .closed → ¬Claimed pool task.tenantId alertId row.caseId)
    (claimed : Claimed pool task.tenantId alertId caseId) :
    caseId = active.caseId := by
  obtain ⟨other, otherStored, ⟨tenant, isCase⟩, key⟩ :=
    (belongs_of_claimed holds claimed).semanticKey occurs copy created
  have notClosed : other.status ≠ .closed := by
    intro closed
    apply chosen other otherStored tenant closed
    rw [isCase]
    exact claimed
  have otherActive : other.activeWith task.tenantId
      (task.semanticKey detectors event alert) = true := by
    simp [CaseRow.activeWith, tenant, key, notClosed]
  rw [← isCase, active_eq otherStored stored otherActive isActive]

/-- The case of an alert is picked. -/
theorem owned_readCase (holds : (linkAssertions detectors).Hold labels pool)
    {alertId : String} {now : Timestamp} {active : CaseRow}
    (persisting : Persisting detectors pool.shared task event before alert
      after (.readCase alertId now))
    (chosen : ∀ row ∈ pool.shared.cases.rows, row.tenantId = task.tenantId →
      row.status = .closed → ¬Claimed pool task.tenantId alertId row.caseId)
    (found : pool.shared.cases.rows.find? (·.activeWith task.tenantId
      (task.semanticKey detectors event alert)) = some active)
    (noEffect : effectOf label = .none) :
    Owned detectors labels pool index label pool.shared
      (.execution task (.persist event before alert after
        (.link alertId active.caseId now))) := by
  obtain ⟨copy, persisted, returned, occurs⟩ := persisting
  have created := returned.current
  have stored := List.mem_of_find?_eq_some found
  have isActive := List.find?_some found
  have nothing : LinksNothing pool.shared pool.shared (effectOf label) := by
    rw [noEffect]
    exact .refl _
  have picked {caseId : String}
      (claimed : Claimed pool task.tenantId alertId caseId) :
      caseId = active.caseId :=
    claimed_eq_active holds occurs copy created stored isActive chosen claimed
  refine ⟨nothing.sound holds.shared, ?_, fun other _ =>
    ⟨nothing.guarantee _, ?_⟩⟩
  · refine ⟨copy, persisted, returned, occurs, ?_, ?_⟩
    · exact belongs_active occurs copy created stored isActive
        holds.shared.alerts
    · intro link isStored tenant ofAlert
      exact picked (.inl ⟨link, isStored, ⟨tenant, ofAlert⟩, rfl⟩)
  · intro tenantId claimedAlert leftCase rightCase left right
    cases left
    exact (picked (.inr ⟨other, right⟩)).symm

/-- An alert is linked to the case that was picked. -/
theorem owned_link (holds : (linkAssertions detectors).Hold labels pool)
    {alertId caseId : String} {now : Timestamp}
    (isProcess : pool.process index = .execution task
      (.persist event before alert after (.link alertId caseId now)))
    (noEffect : effectOf label = .none) :
    Owned detectors labels pool index label
      (task.linkCase alertId caseId alert.severity now pool.shared)
      (.execution task
        (Execution.advance event (before ++ [alert]) after)) := by
  obtain ⟨kept, ⟨own, ownStored, ⟨ownTenant, ownAlert⟩, -⟩, links⟩ :=
    linkCase_links task alertId caseId alert.severity now pool.shared
  have asserted : LinkAssertion detectors pool.shared
      (pool.process index) := holds.process index
  rw [isProcess] at asserted
  obtain ⟨copy, persisted, returned, occurs, belongs, only⟩ := asserted
  refine ⟨?_, ?_, fun other different => ⟨⟨kept, ?_⟩,
    .of_none (claim_advance _ _ _ _)⟩⟩
  · apply LinksSound.step holds.shared kept
    · exact fun row stored => .inl stored
    · intro link stored
      rcases links link stored with old | rfl
      · exact .inl old
      · refine .inr ⟨belongs.kept kept, only, fun another anotherStored => ?_⟩
        exact links another anotherStored
    · intro tenantId eventId alerts isEffect
      rw [noEffect] at isEffect
      cases isEffect
  · apply advance_asserted (copy.kept kept)
    · apply persisted_concat
      · exact fun other member => (persisted other member).kept kept
      · refine ⟨alertId, occurs.kept kept, own, ownStored, ?_⟩
        simp [CaseAlertRow.ofAlert, ownTenant, ownAlert]
    · rw [List.append_assoc]
      exact returned
  · intro link stored
    rcases links link stored with old | rfl
    · exact .inl old
    · right
      intro otherCase isClaim
      have agree : ClaimsAgree (pool.process index) (pool.process other) :=
        holds.pair index other (Ne.symm different)
      apply agree task.tenantId alertId caseId otherCase _ isClaim
      rw [isProcess]
      rfl

/-- The other points of the loop. -/
theorem owned_persist (holds : (linkAssertions detectors).Hold labels pool)
    {point : PersistPoint} {nextPoint : ExecutionPoint}
    (isProcess : pool.process index =
      .execution task (.persist event before alert after point))
    (permitted : ChosenInTime pool (.resume index input .none))
    (resumed : task.resumePersist detectors input event before alert after
      point pool.shared = (nextPoint, next)) :
    Owned detectors labels pool index (.resume index input .none) next
      (.execution task nextPoint) := by
  have persisting : LinkAssertion detectors pool.shared
      (pool.process index) := holds.process index
  simp only [ChosenInTime] at permitted
  rw [isProcess] at persisting permitted
  cases point with
  | insertAlert =>
      obtain ⟨rfl, rfl⟩ := resumed
      exact owned_insertAlert holds persisting _ _ rfl
  | readOccurrence inserted =>
      obtain ⟨copy, persisted, returned, -⟩ := persisting
      simp only [Execution.resumePersist] at resumed
      split at resumed
      · obtain ⟨rfl, rfl⟩ := resumed
        exact .of_nothing holds (.refl _) trivial rfl
      · next stored found =>
          have occurs : Occurs pool.shared task.tenantId alert
              stored.alert.alertId :=
            ⟨stored, List.mem_of_find?_eq_some found,
              by simpa using List.find?_some found, rfl⟩
          split at resumed
          · obtain ⟨rfl, rfl⟩ := resumed
            exact .of_nothing holds (.refl _)
              ⟨copy, persisted, returned, occurs⟩ rfl
          · obtain ⟨rfl, rfl⟩ := resumed
            exact .of_nothing holds (.refl _)
              ⟨copy, persisted, returned, occurs⟩ rfl
  | readLink alertId =>
      obtain ⟨copy, persisted, returned, occurs⟩ := persisting
      simp only [Execution.resumePersist] at resumed
      split at resumed
      · next linked =>
          obtain ⟨rfl, rfl⟩ := resumed
          obtain ⟨link, stored, ofAlert⟩ := List.any_eq_true.mp linked
          apply Owned.of_nothing holds (.refl _) _ (claim_advance _ _ _ _)
          apply advance_asserted copy
          · exact persisted_concat persisted
              ⟨alertId, occurs, link, stored, ofAlert⟩
          · rw [List.append_assoc]
            exact returned
      · obtain ⟨rfl, rfl⟩ := resumed
        exact .of_nothing holds (.refl _)
          ⟨copy, persisted, returned, occurs⟩ rfl
  | openCase alertId =>
      obtain ⟨copy, persisted, returned, occurs⟩ := persisting
      obtain ⟨rfl, rfl⟩ := resumed
      have nothing := insertCase_linksNothing
        (task.newCase (task.semanticKey detectors event alert) input.uuid alert
          input.now) pool.shared
      exact .of_nothing holds nothing
        ⟨copy.kept nothing.kept,
          fun other member => (persisted other member).kept nothing.kept,
          returned, Occurs.kept nothing.kept occurs⟩ rfl
  | readCase alertId now =>
      simp only [Execution.resumePersist] at resumed
      split at resumed
      · obtain ⟨rfl, rfl⟩ := resumed
        exact .of_nothing holds (.refl _) trivial rfl
      · next active found =>
          obtain ⟨rfl, rfl⟩ := resumed
          exact owned_readCase holds persisting permitted found rfl
  | link alertId caseId now =>
      obtain ⟨rfl, rfl⟩ := resumed
      exact owned_link holds isProcess rfl

theorem owned_execution (holds : (linkAssertions detectors).Hold labels pool)
    {point nextPoint : ExecutionPoint}
    (isProcess : pool.process index = .execution task point)
    (permitted : ChosenInTime pool (.resume index input effect))
    (resumed : task.resume detectors input point pool.shared =
      (nextPoint, next, effect)) :
    Owned detectors labels pool index (.resume index input effect) next
      (.execution task nextPoint) := by
  have asserted : LinkAssertion detectors pool.shared
      (pool.process index) := holds.process index
  rw [isProcess] at asserted
  cases point with
  | load =>
      simp only [Execution.resume] at resumed
      split at resumed
      · obtain ⟨rfl, rfl, rfl⟩ := resumed
        exact .of_nothing holds (.refl _) trivial rfl
      · next stored found =>
          have isTask := List.find?_some found
          simp only [EventRow.hasKey, decide_eq_true_eq] at isTask
          split at resumed
          · obtain ⟨rfl, rfl, rfl⟩ := resumed
            exact .of_nothing holds (.refl _) trivial rfl
          · obtain ⟨rfl, rfl, rfl⟩ := resumed
            exact .of_nothing holds (.refl _)
              ⟨isTask, stored, List.mem_of_find?_eq_some found, ⟨rfl, rfl⟩,
                rfl, rfl⟩ rfl
  | detect event tables =>
      simp only [Execution.resume] at resumed
      split at resumed
      · obtain ⟨rfl, rfl, rfl⟩ := resumed
        exact .of_nothing holds (.refl _) asserted rfl
      · obtain ⟨rfl, rfl, rfl⟩ := resumed
        exact .of_nothing holds (.refl _) trivial rfl
      · next alerts found =>
          obtain ⟨rfl, rfl, rfl⟩ := resumed
          apply Owned.of_nothing holds (.refl _) _ (claim_advance _ _ _ _)
          apply advance_asserted asserted
          · exact fun other member => absurd member List.not_mem_nil
          · exact ⟨tables, found⟩
  | persist event before alert after point =>
      cases isResumed : task.resumePersist detectors input event before alert
          after point pool.shared with
      | mk reached database =>
          simp only [Execution.resume, isResumed] at resumed
          obtain ⟨rfl, rfl, rfl⟩ := resumed
          exact owned_persist holds isProcess permitted isResumed
  | mark alerts =>
      obtain ⟨rfl, rfl, rfl⟩ := resumed
      have kept := markEvent_kept task (some input.now) none pool.shared
      refine ⟨?_, trivial, fun _ _ => ⟨⟨kept, .of_same rfl _⟩,
        .of_none rfl⟩⟩
      apply LinksSound.of_same holds.shared kept rfl rfl
      rintro tenantId eventId done isEffect
      cases isEffect
      exact Completed.kept kept asserted
  | markFailed summary =>
      obtain ⟨rfl, rfl, rfl⟩ := resumed
      refine .of_nothing holds ⟨markEvent_kept _ _ _ _, rfl, rfl, ?_⟩ trivial
        rfl
      exact fun _ _ _ => Effect.noConfusion
  | finished =>
      obtain ⟨rfl, rfl, rfl⟩ := resumed
      exact .of_nothing holds (.refl _) trivial rfl

theorem link_owner {point : Process}
    (holds : (linkAssertions detectors).Hold labels pool)
    (permitted : ChosenInTime pool (.resume index input effect))
    (resumed : (pool.process index).resume detectors input pool.shared =
      (point, next, effect)) :
    Owned detectors labels pool index (.resume index input effect) next
      point := by
  cases isProcess : pool.process index with
  | idle =>
      rw [isProcess] at resumed
      obtain ⟨rfl, rfl, rfl⟩ := resumed
      exact .of_nothing holds (.refl _) trivial rfl
  | transition request transitionPoint =>
      rw [isProcess] at resumed
      cases isResumed : request.resume input transitionPoint pool.shared with
      | mk nextPoint rest =>
          obtain ⟨database, nextEffect⟩ := rest
          simp only [Process.resume, isResumed] at resumed
          obtain ⟨rfl, rfl, rfl⟩ := resumed
          exact .of_nothing holds (transition_linksNothing isResumed) trivial
            rfl
  | disposition request dispositionPoint =>
      rw [isProcess] at resumed
      cases isResumed : request.resume input dispositionPoint pool.shared with
      | mk nextPoint rest =>
          obtain ⟨database, nextEffect⟩ := rest
          simp only [Process.resume, isResumed] at resumed
          obtain ⟨rfl, rfl, rfl⟩ := resumed
          exact .of_nothing holds (disposition_linksNothing isResumed) trivial
            rfl
  | execution task executionPoint =>
      rw [isProcess] at resumed
      cases isResumed : task.resume detectors input executionPoint
          pool.shared with
      | mk nextPoint rest =>
          obtain ⟨database, nextEffect⟩ := rest
          simp only [Process.resume, isResumed] at resumed
          obtain ⟨rfl, rfl, rfl⟩ := resumed
          exact owned_execution holds isProcess permitted isResumed

theorem link_sound :
    (linkAssertions detectors).Sound (procedure detectors) ChosenInTime
      LinkGuarantee where
  symm agree tenantId alertId leftCase rightCase left right :=
    (agree tenantId alertId rightCase leftCase right left).symm
  idle _ := trivial
  idlePair _ _ := .of_none rfl
  starts database process isStart := by
    cases isStart with
    | transition | disposition | execution =>
        exact ⟨trivial, fun _ => .of_none rfl⟩
  unseen := by
    intro labels database label sound notResumed
    apply LinksSound.of_same sound (.refl database) rfl rfl
    intro tenantId eventId alerts isEffect
    cases label with
    | resume index input effect => exact absurd rfl (notResumed _ _ _)
    | begin | drop | outside => cases isEffect
  owner holds permitted resumed := by
    obtain ⟨shared, process, others⟩ := link_owner holds permitted resumed
    exact ⟨shared, process, others⟩
  outside := by
    intro labels database next sound changed
    have nothing := outside_linksNothing changed
    refine ⟨⟨fun row stored => ?_, fun link stored => ?_, ?_,
      fun label member tenantId eventId alerts isEffect => ?_⟩,
      nothing.guarantee⟩
    · rw [nothing.alerts] at stored
      exact (sound.alerts row stored).kept nothing.kept
    · rw [nothing.links] at stored
      exact (sound.links link stored).kept nothing.kept
    · rw [nothing.links]
      exact sound.once
    · exact (sound.processed label member tenantId eventId alerts
        isEffect).kept nothing.kept
  refl database process := ⟨.refl database, .of_same rfl process⟩
  stable guaranteed asserted := LinkAssertion.kept guaranteed asserted
  stablePair _ _ agree := agree

end Owner

/-! ## What a run guarantees -/

section Runs

variable {detectors : Detectors} {start state : Pool Database Process}
  {labels : List (PoolLabel Input Effect)} {database : Database}

theorem link_hold (isInitial : (system detectors).initial start)
    (run : (system detectors).RunWhere ChosenInTime start labels state) :
    (linkAssertions detectors).Hold labels state := by
  apply Procedure.Assertions.Hold.run link_sound _ isInitial run
  intro database empty
  constructor
  · intro row stored
    rw [empty.alerts] at stored
    exact absurd stored List.not_mem_nil
  · intro link stored
    rw [empty.caseAlerts] at stored
    exact absurd stored List.not_mem_nil
  · intro left stored
    rw [empty.caseAlerts] at stored
    exact absurd stored List.not_mem_nil
  · exact fun label member => absurd member List.not_mem_nil

/-- One stored alert, and one link of it, to the case of its tenant, its rule
and the entity of its event. -/
def StoredAndLinked (detectors : Detectors) (database : Database)
    (tenantId : String) (alert : DetectionAlert) : Prop :=
  ∃ row link,
    database.alerts.rows.filter
        (·.hasOccurrence tenantId alert.ruleId alert.eventId) = [row] ∧
      database.caseAlerts.rows.filter
        (·.ofAlert tenantId row.alert.alertId) = [link] ∧
      Belongs detectors database tenantId row.alert.alertId link.caseId

theorem link_eq {left right : CaseAlertRow}
    (leftStored : left ∈ database.caseAlerts.rows)
    (rightStored : right ∈ database.caseAlerts.rows)
    (tenant : left.tenantId = right.tenantId)
    (ofAlert : left.alertId = right.alertId)
    (sameCase : left.caseId = right.caseId) : left = right := by
  apply database.caseAlerts.eq_of_clash leftStored rightStored
  · simp [CaseAlertRow.clash, tenant, ofAlert, sameCase]
  · simp [CaseAlertRow.clash, tenant, ofAlert, sameCase]

theorem occurrence_eq {tenantId ruleId eventId : String}
    {left right : AlertRow} (leftStored : left ∈ database.alerts.rows)
    (rightStored : right ∈ database.alerts.rows)
    (leftOccurs : left.hasOccurrence tenantId ruleId eventId = true)
    (rightOccurs : right.hasOccurrence tenantId ruleId eventId = true) :
    left = right := by
  simp only [AlertRow.hasOccurrence, decide_eq_true_eq]
    at leftOccurs rightOccurs
  apply database.alerts.eq_of_clash leftStored rightStored
  · simp [AlertRow.clash, AlertRow.hasOccurrence, leftOccurs, rightOccurs]
  · simp [AlertRow.clash, AlertRow.hasOccurrence, leftOccurs, rightOccurs]

/-- The links of an alert are one link. -/
theorem LinksSound.link_once (sound : LinksSound detectors labels database)
    {tenantId alertId : String} {left right : CaseAlertRow}
    (leftStored : left ∈ database.caseAlerts.rows)
    (rightStored : right ∈ database.caseAlerts.rows)
    (leftLink : left.ofAlert tenantId alertId = true)
    (rightLink : right.ofAlert tenantId alertId = true) : left = right := by
  simp only [CaseAlertRow.ofAlert, decide_eq_true_eq] at leftLink rightLink
  have tenant := leftLink.1.trans rightLink.1.symm
  have ofAlert := leftLink.2.trans rightLink.2.symm
  exact link_eq leftStored rightStored tenant ofAlert
    (sound.once left leftStored right rightStored tenant ofAlert)

theorem Persisted.storedAndLinked
    (sound : LinksSound detectors labels database) {tenantId : String}
    {alert : DetectionAlert} (persisted : Persisted database tenantId alert) :
    StoredAndLinked detectors database tenantId alert := by
  obtain ⟨alertId, ⟨row, rowStored, occurrence, rfl⟩, link, linkStored,
    ofAlert⟩ := persisted
  refine ⟨row, link, ?_, ?_, ?_⟩
  · apply Table.filter_eq_singleton (fun other => ?_) rowStored occurrence
    · exact fun other stored occurs =>
        occurrence_eq stored rowStored occurs occurrence
    · simp [AlertRow.clash, AlertRow.hasOccurrence]
  · apply Table.filter_eq_singleton (fun other => ?_) linkStored ofAlert
    · exact fun other stored isLink =>
        sound.link_once stored linkStored isLink ofAlert
    · simp [CaseAlertRow.clash]
  · have belongs := sound.links link linkStored
    simp only [CaseAlertRow.ofAlert, decide_eq_true_eq] at ofAlert
    rw [ofAlert.1, ofAlert.2] at belongs
    exact belongs

/-- Every stored alert is linked to at most one case; and the alerts that the
detectors returned to an execution that has completed are each stored once and
linked once, to the case of their tenant, rule and entity. -/
theorem linked_once (isInitial : (system detectors).initial start)
    (run : (system detectors).RunWhere ChosenInTime start labels state) :
    (∀ row ∈ state.shared.alerts.rows,
      ∀ left ∈ state.shared.caseAlerts.rows,
      ∀ right ∈ state.shared.caseAlerts.rows,
        left.ofAlert row.tenantId row.alert.alertId = true →
        right.ofAlert row.tenantId row.alert.alertId = true → left = right) ∧
    ∀ label ∈ labels, ∀ tenantId eventId alerts,
      effectOf label = .processed tenantId eventId alerts →
        (∃ event, OfEvent state.shared ⟨tenantId, eventId⟩ event ∧
          Returned detectors event alerts) ∧
        ∀ alert ∈ alerts,
          StoredAndLinked detectors state.shared tenantId alert := by
  have sound : LinksSound detectors labels state.shared :=
    (link_hold isInitial run).shared
  constructor
  · intro row _ left leftStored right rightStored leftLink rightLink
    exact sound.link_once leftStored rightStored leftLink rightLink
  · intro label member tenantId eventId alerts isEffect
    obtain ⟨event, copy, returned, persisted⟩ :=
      sound.processed label member tenantId eventId alerts isEffect
    exact ⟨⟨event, copy, returned⟩,
      fun alert ofAlerts => (persisted alert ofAlerts).storedAndLinked sound⟩

end Runs

/-! ### Schedules -/

/-- A second execution has looked for a link before the first has stored one.
The case is closed before the second execution goes on. -/
def redeliveredSchedule : List (Procedure.Command Process Input) :=
  [.begin 0 (.execution ⟨"acme", "event-1"⟩ .load), resumeAt 0 1000 "",
    .begin 1 (.execution ⟨"acme", "event-1"⟩ .load), resumeAt 1 1000 "",
    resumeAt 0 1000 "", resumeAt 0 1000 "", resumeAt 0 1000 "",
    resumeAt 1 1000 "", resumeAt 1 1000 "", resumeAt 1 1000 "",
    resumeAt 1 1000 "",
    resumeAt 0 1000 "case-1", resumeAt 0 1000 "", resumeAt 0 1000 "",
    .begin 2 (.disposition
      ⟨"acme", "case-1", .truePositive, "confirmed", none, "ana"⟩
      .requireCase),
    resumeAt 2 2000 "", resumeAt 2 2000 "disposition-1",
    transitionAt 3 .closed, resumeAt 3 3000 "", resumeAt 3 3000 "",
    resumeAt 3 3000 "",
    resumeAt 1 4000 "case-2", resumeAt 1 4000 "", resumeAt 1 4000 ""]

def redelivered : List (PoolLabel Input Effect) × Pool Database Process :=
  (procedure sampleDetectors).follow sampleStart redeliveredSchedule

/-- The alert is then linked to two cases. -/
theorem linked_once_redelivered :
    ∃ detectors start labels state,
      (system detectors).initial start ∧
      (system detectors).Run start labels state ∧
      ∃ row ∈ state.shared.alerts.rows,
        ∃ left ∈ state.shared.caseAlerts.rows,
        ∃ right ∈ state.shared.caseAlerts.rows,
          left.ofAlert row.tenantId row.alert.alertId = true ∧
          right.ofAlert row.tenantId row.alert.alertId = true ∧
          left.caseId ≠ right.caseId := by
  have run : (system sampleDetectors).Run sampleStart redelivered.1
      redelivered.2 := by
    apply Procedure.run_follow
    refine ⟨⟨rfl, .execution _⟩, trivial, trivial, trivial,
      ⟨rfl, .execution _⟩, trivial, ?_⟩
    iterate 11 refine ⟨trivial, trivial, ?_⟩
    refine ⟨⟨rfl, .disposition _⟩, trivial, ?_⟩
    iterate 2 refine ⟨trivial, trivial, ?_⟩
    refine ⟨⟨rfl, .transition _⟩, trivial, ?_⟩
    iterate 6 refine ⟨trivial, trivial, ?_⟩
    trivial
  refine ⟨sampleDetectors, sampleStart, _, _, sampleStart_initial, run, ?_⟩
  decide +kernel

/-- An execution that is alone picks the case it has opened. -/
theorem linked_once_opened :
    StoredAndLinked sampleDetectors opened.2.shared "acme" sampleAlert := by
  have run : (system sampleDetectors).RunWhere ChosenInTime sampleStart
      opened.1 opened.2 := by
    apply Procedure.run_follow
    refine ⟨⟨rfl, .execution _⟩, trivial, ?_⟩
    iterate 5 refine ⟨trivial, trivial, ?_⟩
    refine ⟨trivial, fun row stored _ closed => ?_, ?_⟩
    · rw [List.mem_singleton.mp stored] at closed
      cases closed
    · iterate 2 refine ⟨trivial, trivial, ?_⟩
      refine ⟨⟨rfl, .disposition _⟩, trivial, ?_⟩
      exact ⟨trivial, trivial, trivial, trivial, trivial⟩
  obtain ⟨-, completed⟩ := linked_once sampleStart_initial run
  have processed : PoolLabel.resume 0 ⟨1000, "", 1000⟩
      (.processed "acme" "event-1" [sampleAlert]) ∈ opened.1 :=
    @List.mem_of_getElem? _ _ 8 _ rfl
  exact (completed _ processed "acme" "event-1" [sampleAlert] rfl).2
    sampleAlert (List.mem_singleton_self _)

end Cloud

end ControlForge
