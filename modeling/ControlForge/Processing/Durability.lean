import Mathlib.Data.Set.Function
import ControlForge.Detection.Pipeline
import ControlForge.Processing.Attempts

/-!
# What becomes of the alerts of a completed job

A completion ignores an alert whose identifier is stored.  The alerts of a run
are all stored, each under its own rule and event, exactly when no two of them
with different rules or events have the same fingerprint.
-/

namespace ControlForge

namespace Processing

open Store Cases Detection

/-- The alerts that a transaction has persisted for a tenant. -/
def Event.persists (tenantId : String) (event : Event) :
    List DetectionAlert :=
  match event.operation, event.outcome with
  | .persist tenant _ _ alerts _ _, .ok _ =>
      if tenant = tenantId then alerts else []
  | _, _ => []

def persistedAlerts (tenantId : String) (trace : List Event) :
    List DetectionAlert :=
  trace.flatMap (·.persists tenantId)

/-- The row is that of the alert. -/
def StoredAs (tenantId : String) (alert : DetectionAlert) (row : AlertRow) :
    Prop :=
  row.hasKey tenantId alert.alertId = true ∧ row.ruleId = alert.ruleId ∧
    row.eventId = alert.eventId

instance (tenantId : String) (alert : DetectionAlert) (row : AlertRow) :
    Decidable (StoredAs tenantId alert row) :=
  inferInstanceAs (Decidable (_ ∧ _))

/-- The alert is stored with its own rule and event. -/
def Durable {Log : Type} (tenantId : String) (database : Database Log)
    (alert : DetectionAlert) : Prop :=
  ∃ row ∈ database.alerts.rows, StoredAs tenantId alert row

instance {Log : Type} (tenantId : String) (database : Database Log)
    (alert : DetectionAlert) : Decidable (Durable tenantId database alert) :=
  inferInstanceAs (Decidable (∃ row ∈ database.alerts.rows,
    StoredAs tenantId alert row))

/-- The alerts with one fingerprint are of one rule and event. -/
def Unambiguous {F : Type} (library : Detection.Library F)
    (rules : List SigmaRule) (alerts : List DetectionAlert) : Prop :=
  ∀ left ∈ alerts, ∀ right ∈ alerts, ∀ text,
    Fingerprinted library rules left text →
    Fingerprinted library rules right text →
    left.ruleId = right.ruleId ∧ left.eventId = right.eventId

/-- The shortened digest tells the fingerprints of the alerts apart. -/
def CollisionFree {F : Type} (library : Detection.Library F)
    (rules : List SigmaRule) (alerts : List DetectionAlert) : Prop :=
  Set.InjOn (alertIdOf library)
    { text | ∃ alert ∈ alerts, Fingerprinted library rules alert text }

/-! ## One completion -/

section Completion

variable {Log : Type} {before after : Database Log} {library : Library}
  {decision : Decision} {event : EventRow} {now : Timestamp}
  {alerts : List DetectionAlert}

theorem alertHasKey_iff {row : AlertRow} {tenantId alertId : String} :
    row.hasKey tenantId alertId = true ↔
      row.tenantId = tenantId ∧ row.alertId = alertId := by
  simp [AlertRow.hasKey]

/-- The rows of alerts that are stored stay, and the new ones are those of the
alerts. -/
theorem alertsStored_rows
    (stored : AlertsStored library decision event now alerts before after) :
    (∀ row ∈ before.alerts.rows, row ∈ after.alerts.rows) ∧
    ∀ row ∈ after.alerts.rows, row ∈ before.alerts.rows ∨
      ∃ alert ∈ alerts, alert.eventId = event.eventId ∧
        row = alertRow decision event alert := by
  induction stored with
  | refl => exact ⟨fun _ => id, fun _ => .inl⟩
  | tail _ step induction =>
      obtain ⟨keeps, origin⟩ := induction
      obtain ⟨alert, member, stores⟩ := step
      constructor
      · intro row isOld
        rw [stores.alerts]
        exact List.mem_append_left _ (keeps row isOld)
      · intro row isStored
        rw [stores.alerts] at isStored
        rcases List.mem_append.mp isStored with isOld | isNew
        · exact origin row isOld
        · exact .inr ⟨alert, member, stores.ofEvent,
            List.mem_singleton.mp isNew⟩

/-- The identifier of an alert that is persisted is stored, whether the alert
was new or not. -/
theorem persistAlert_keyed {alert : DetectionAlert} {count : Nat}
    (ran : persistAlert library decision event now alert before =
      .ok (count, after)) :
    ∃ row ∈ after.alerts.rows,
      row.hasKey event.tenantId alert.alertId = true := by
  unfold persistAlert at ran
  obtain ⟨_, checked, check, afterCheck⟩ := Transaction.run_bind_ok.mp ran
  obtain ⟨inserted, middle, stored, aggregated⟩ :=
    Transaction.run_bind_ok.mp afterCheck
  unfold insertAlertOrIgnore at stored
  split at stored
  · next known =>
      cases stored
      cases aggregated
      obtain ⟨row, isStored, clashes⟩ := Table.insert_eq_none.mp known
      exact ⟨row, isStored, clashes⟩
  · next alerts insertion =>
      cases stored
      have rows := (Table.insert_eq_some.mp insertion).2
      obtain ⟨⟨cases, caseAlerts, isAfter⟩, -⟩ := aggregateAlert_ok aggregated
      refine ⟨alertRow decision event alert, ?_, ?_⟩
      · rw [isAfter]
        change _ ∈ alerts.rows
        rw [rows]
        exact List.mem_append_right _ (List.mem_singleton_self _)
      · exact alertHasKey_iff.mpr ⟨rfl, rfl⟩

theorem persistEach_keyed {counts : List Nat}
    (ran : alerts.mapM (persistAlert library decision event now) before =
      .ok (counts, after)) :
    ∀ alert ∈ alerts, ∃ row ∈ after.alerts.rows,
      row.hasKey event.tenantId alert.alertId = true := by
  induction alerts generalizing before counts with
  | nil => nofun
  | cons first alerts induction =>
      rw [List.mapM_cons] at ran
      obtain ⟨count, middle, ranFirst, afterFirst⟩ :=
        Transaction.run_bind_ok.mp ran
      obtain ⟨others, last, ranOthers, returned⟩ :=
        Transaction.run_bind_ok.mp afterFirst
      cases returned
      intro alert member
      rcases List.mem_cons.mp member with rfl | inRest
      · obtain ⟨row, stored, keyed⟩ := persistAlert_keyed ranFirst
        have later := persistAlerts_follow library decision event now alerts
          _ _ _ ranOthers
        exact ⟨row, (alertsStored_rows later).1 row stored, keyed⟩
      · exact induction ranOthers alert inRest

theorem completion_keyed {tenantId jobId workerId : String}
    {result : AlertPersistenceResult}
    (ran : persistAlertsAndCompleteJob library tenantId jobId workerId alerts
      now decision before = .ok (result, after)) :
    ∀ alert ∈ alerts, ∃ row ∈ after.alerts.rows,
      row.hasKey tenantId alert.alertId = true := by
  unfold persistAlertsAndCompleteJob at ran
  obtain ⟨event, atJob, owned, afterJob⟩ := Transaction.run_bind_ok.mp ran
  obtain ⟨counts, middle, persisted, afterAlerts⟩ :=
    Transaction.run_bind_ok.mp afterJob
  obtain ⟨_, last, updated, returned⟩ :=
    Transaction.run_bind_ok.mp afterAlerts
  cases returned
  obtain ⟨-, -, job, -, keyed, -, ofJob⟩ := ownedJob_ok owned
  obtain ⟨jobs, isAfter, -⟩ := updateJobs_ok updated
  have tenant : event.tenantId = tenantId :=
    (of_decide_eq_true ofJob).1.trans (jobHasKey_iff.mp keyed).1
  intro alert member
  rw [isAfter, ← tenant]
  exact persistEach_keyed persisted alert member

end Completion

/-! ## Runs -/

/-- The stored alerts of a tenant are persisted ones, and the identifier of
every persisted one is stored. -/
structure KeepsAlerts {Log : Type} (tenantId : String) (trace : List Event)
    (database : Database Log) : Prop where
  rows : ∀ row ∈ database.alerts.rows, row.tenantId = tenantId →
    ∃ alert ∈ persistedAlerts tenantId trace, StoredAs tenantId alert row
  keys : ∀ alert ∈ persistedAlerts tenantId trace,
    ∃ row ∈ database.alerts.rows, row.hasKey tenantId alert.alertId = true

section Runs

variable {Log : Type} {before after : Database Log} {tenantId : String}
  {trace : List Event} {event : Event}

theorem persistedAlerts_concat :
    persistedAlerts tenantId (trace ++ [event]) =
      persistedAlerts tenantId trace ++ event.persists tenantId := by
  simp [persistedAlerts]

theorem persists_of_kind (notCompletion : event.operation.kind ≠ .completion) :
    event.persists tenantId = [] := by
  unfold Event.persists
  split
  · next isPersist _ =>
      rw [isPersist] at notCompletion
      exact absurd rfl notCompletion
  · rfl

/-- A transaction that persists nothing. -/
theorem KeepsAlerts.same (holds : KeepsAlerts tenantId trace before)
    (nothing : event.persists tenantId = [])
    (rows : after.alerts.rows = before.alerts.rows) :
    KeepsAlerts tenantId (trace ++ [event]) after := by
  constructor
  · rw [rows, persistedAlerts_concat, nothing, List.append_nil]
    exact holds.rows
  · rw [rows, persistedAlerts_concat, nothing, List.append_nil]
    exact holds.keys

theorem KeepsAlerts.completed {library : Library} {decision : Decision}
    {workerId : String} {now : Timestamp} {alerts : List DetectionAlert}
    {job : JobRow} {source : EventRow}
    (holds : KeepsAlerts tenantId trace before)
    (persists : event.persists tenantId =
      if job.tenantId = tenantId then alerts else [])
    (change : Completed library decision workerId now alerts job source before
      after)
    (keyed : ∀ alert ∈ alerts, ∃ row ∈ after.alerts.rows,
      row.hasKey job.tenantId alert.alertId = true) :
    KeepsAlerts tenantId (trace ++ [event]) after := by
  obtain ⟨middle, jobs, stored, isAfter⟩ := change.work
  have sameAlerts : after.alerts = middle.alerts := by rw [isAfter]
  obtain ⟨keeps, origin⟩ := alertsStored_rows stored
  have sourceTenant : source.tenantId = job.tenantId :=
    (of_decide_eq_true change.ofJob).1
  rw [← sameAlerts] at keeps origin
  constructor
  · intro row isStored tenant
    rw [persistedAlerts_concat]
    rcases origin row isStored with isOld | ⟨alert, member, ofEvent, isRow⟩
    · obtain ⟨alert, isPersisted, storedAs⟩ := holds.rows row isOld tenant
      exact ⟨alert, List.mem_append_left _ isPersisted, storedAs⟩
    · have rowTenant : job.tenantId = tenantId := by
        rw [← sourceTenant, ← tenant, isRow]
        rfl
      refine ⟨alert, List.mem_append_right _ ?_, ?_⟩
      · rw [persists, if_pos rowTenant]
        exact member
      · rw [isRow]
        refine ⟨alertHasKey_iff.mpr ⟨?_, rfl⟩, rfl, ofEvent.symm⟩
        exact sourceTenant.trans rowTenant
  · intro alert isPersisted
    rw [persistedAlerts_concat] at isPersisted
    rcases List.mem_append.mp isPersisted with isOld | isNew
    · obtain ⟨row, isStored, hasKey⟩ := holds.keys alert isOld
      exact ⟨row, keeps row isStored, hasKey⟩
    · rw [persists] at isNew
      split at isNew
      · next tenant =>
          rw [← tenant]
          exact keyed alert isNew
      · cases isNew

theorem keepsAlerts_step {service : Service Log}
    (holds : KeepsAlerts tenantId trace before)
    (step : (system service).step before event after) :
    KeepsAlerts tenantId (trace ++ [event]) after := by
  rcases step_cases service step with
    ⟨failure, refused, same⟩ | ⟨reply, accepted, ran⟩
  · apply holds.same
    · unfold Event.persists
      rw [refused]
      split <;> first | rfl | contradiction
    · rw [same]
  have change := change_of_ok ran
  cases change with
  | completed operationIs change =>
      rw [operationIs] at ran
      obtain ⟨result, persisted, -⟩ := bind_pure_ok ran
      apply holds.completed _ change (completion_keyed persisted)
      unfold Event.persists
      rw [operationIs, accepted]
  | ingested kind change =>
      obtain ⟨events, jobs, isAfter⟩ := change.frame
      exact holds.same (persists_of_kind (by rw [kind]; nofun)) (by rw [isAfter])
  | claimed kind _ _ change =>
      obtain ⟨jobs, isAfter⟩ := change.frame
      exact holds.same (persists_of_kind (by rw [kind]; nofun)) (by rw [isAfter])
  | unchanged kind same =>
      exact holds.same (persists_of_kind (by rw [kind]; nofun)) (by rw [same])
  | ended kind _ _ change =>
      obtain ⟨jobs, isAfter⟩ := change.frame
      exact holds.same (persists_of_kind (by rw [kind]; nofun)) (by rw [isAfter])
  | analysed kind change =>
      obtain ⟨cases, activity, dispositions, log, isAfter⟩ := change.frame
      exact holds.same (persists_of_kind (by rw [kind]; nofun)) (by rw [isAfter])

theorem keepsAlerts_initial {database : Database Log} (empty : Empty database) :
    KeepsAlerts tenantId [] database := by
  refine ⟨fun row stored => ?_, nofun⟩
  rw [empty.alerts] at stored
  cases stored

end Runs

/-! ## The alerts of a worker -/

section Workers

variable {F Log : Type} {service : Service Log}
  {library : Detection.Library F} {matchValue : SecurityEvent → Matcher}
  {rules : List SigmaRule} {detector : Detector F} {settings : WorkerSettings}

/-- A worker persists only what the detections raise. -/
def Client.Raises (library : Detection.Library F) (rules : List SigmaRule) :
    Client → Prop
  | .persisting _ alerts _ _ =>
      ∀ alert ∈ alerts, ∃ event, Raised library rules event alert
  | _ => True

theorem Client.raises_proceed (run : RunOnce) (leases : List JobLease) :
    (Client.proceed run leases).Raises library rules := by
  cases leases with
  | nil => trivial
  | cons lease rest => trivial

theorem raises_invariant
    (pipelineIs : detector.pipeline = pipelineOf library matchValue rules) :
    LocalInvariant detector (Client.Raises library rules) where
  idle := trivial
  starts isStart := by
    cases isStart with
    | runOnce | other => trivial
  resumes raises resumed := by
    cases resumed with
    | @evaluated run event lease rest alerts evaluates =>
        obtain ⟨history, -, isEvaluated⟩ := bind_eq_ok.mp evaluates
        rw [pipelineIs] at isEvaluated
        exact fun alert member =>
          ⟨event, raised_of_evaluate isEvaluated alert member⟩
    | leased | persisted | reported => exact Client.raises_proceed _ _
    | ended | raisedLoading | raisedCorrelating | raisedPersisting | loaded
    | stopped | refused => trivial

theorem persists_raised {client : Client} {event : Event} {tenantId : String}
    (calls : client.CallsOthers) (raises : client.Raises library rules)
    (transacts : client.transaction detector settings =
      some event.operation) :
    ∀ alert ∈ event.persists tenantId,
      ∃ source, Raised library rules source alert := by
  obtain ⟨operation, outcome⟩ := event
  intro alert member
  have noCompletion (kind : operation.kind ≠ .completion) :
      ∃ source, Raised library rules source alert := by
    rw [persists_of_kind kind] at member
    cases member
  cases client with
  | idle | loading | correlating => cases transacts
  | call operation =>
      cases transacts
      apply noCompletion
      rcases calls _ rfl with kind | kind
      · rw [kind]
        nofun
      · rw [kind]
        nofun
  | leasing | failing =>
      cases transacts
      exact noCompletion nofun
  | persisting run alerts lease rest =>
      cases transacts
      unfold Event.persists at member
      split at member
      · next isPersist _ =>
          cases isPersist
          split at member
          · exact raises alert member
          · cases member
      · cases member

/-- What the run has persisted has fingerprints, and is kept. -/
theorem keepsAlerts_run
    (pipelineIs : detector.pipeline = pipelineOf library matchValue rules)
    {start pool : Pool (Database Log) Client} {labels : List WorkerLabel}
    (isInitial :
      ((workers service detector settings).system Empty).initial start)
    (run : ((workers service detector settings).system Empty).Run start labels
      pool) (tenantId : String) :
    KeepsAlerts tenantId (transactions labels) pool.shared ∧
      ∀ alert ∈ persistedAlerts tenantId (transactions labels),
        ∃ text, Fingerprinted library rules alert text := by
  have conditioned : ((workers service detector settings).system Empty).RunWhere
      (OnTransactions fun _ _ => True) start labels pool :=
    run.weaken fun _ _ _ _ _ => trivial
  have projected := run_transactions
    (callsOthers_invariant.and (raises_invariant pipelineIs)) isInitial
    conditioned
  apply @TransitionSystem.RunWhere.historyInvariant _ _ _ _
    (fun trace database => KeepsAlerts tenantId trace database ∧
      ∀ alert ∈ persistedAlerts tenantId trace,
        ∃ text, Fingerprinted library rules alert text) _
    ⟨keepsAlerts_initial isInitial.1, nofun⟩ _ _ _ projected
  intro trace database event next ⟨holds, fingerprinted⟩ condition step
  obtain ⟨-, client, ⟨calls, raises⟩, transacts⟩ := condition
  refine ⟨keepsAlerts_step holds step, fun alert member => ?_⟩
  rw [persistedAlerts_concat] at member
  rcases List.mem_append.mp member with isOld | isNew
  · exact fingerprinted alert isOld
  · obtain ⟨source, -, hasText⟩ := persists_raised calls raises transacts alert
      isNew
    exact hasText

/-- Alerts with different fingerprints are stored in different rows. -/
theorem durable_of_unambiguous {alerts : List DetectionAlert}
    {tenantId : String} {trace : List Event} {database : Database Log}
    (isPersisted : persistedAlerts tenantId trace = alerts)
    (keeps : KeepsAlerts tenantId trace database)
    (fingerprinted : ∀ alert ∈ alerts,
      ∃ text, Fingerprinted library rules alert text)
    (collisionFree : CollisionFree library rules alerts)
    (unambiguous : Unambiguous library rules alerts) :
    ∀ alert ∈ alerts, Durable tenantId database alert := by
  subst isPersisted
  intro alert member
  obtain ⟨row, stored, keyed⟩ := keeps.keys alert member
  obtain ⟨tenant, identifier⟩ := alertHasKey_iff.mp keyed
  obtain ⟨other, isOther, otherKey, otherRule, otherEvent⟩ :=
    keeps.rows row stored tenant
  obtain ⟨text, ofAlert⟩ := fingerprinted alert member
  obtain ⟨otherText, ofOther⟩ := fingerprinted other isOther
  -- one row has the identifiers of both alerts, so their digests are equal
  have sameDigest : alertIdOf library otherText = alertIdOf library text := by
    rw [← ofOther.hashed, ← ofAlert.hashed, ← identifier]
    exact (alertHasKey_iff.mp otherKey).2.symm
  have sameText : otherText = text :=
    collisionFree ⟨other, isOther, ofOther⟩ ⟨alert, member, ofAlert⟩ sameDigest
  subst sameText
  obtain ⟨sameRule, sameEvent⟩ :=
    unambiguous other isOther alert member otherText ofOther ofAlert
  exact ⟨row, stored, keyed, otherRule.trans sameRule,
    otherEvent.trans sameEvent⟩

/-- Without delimiters in the identifiers of rules and events, every alert is
stored. -/
theorem durable_of_plain
    (pipelineIs : detector.pipeline = pipelineOf library matchValue rules)
    {start pool : Pool (Database Log) Client} {labels : List WorkerLabel}
    (isInitial :
      ((workers service detector settings).system Empty).initial start)
    (run : ((workers service detector settings).system Empty).Run start labels
      pool) (tenantId : String)
    (collisionFree : CollisionFree library rules
      (persistedAlerts tenantId (transactions labels)))
    (plainRules : ∀ rule ∈ rules, PlainId rule.id)
    (plainEvents : ∀ alert ∈ persistedAlerts tenantId (transactions labels),
      PlainId alert.eventId) :
    ∀ alert ∈ persistedAlerts tenantId (transactions labels),
      Durable tenantId pool.shared alert := by
  obtain ⟨keeps, fingerprinted⟩ :=
    keepsAlerts_run pipelineIs isInitial run tenantId
  apply durable_of_unambiguous rfl keeps fingerprinted collisionFree
  intro left isLeft right isRight text ofLeft ofRight
  exact fingerprinted_unique plainRules (plainEvents left isLeft)
    (plainEvents right isRight) ofLeft ofRight

/-- The alerts of a run are all stored exactly when no two of them with
different rules or events have the same fingerprint. -/
theorem durable_iff
    (pipelineIs : detector.pipeline = pipelineOf library matchValue rules)
    {start pool : Pool (Database Log) Client} {labels : List WorkerLabel}
    (isInitial :
      ((workers service detector settings).system Empty).initial start)
    (run : ((workers service detector settings).system Empty).Run start labels
      pool) (tenantId : String)
    (collisionFree : CollisionFree library rules
      (persistedAlerts tenantId (transactions labels))) :
    (∀ alert ∈ persistedAlerts tenantId (transactions labels),
      Durable tenantId pool.shared alert) ↔
    Unambiguous library rules
      (persistedAlerts tenantId (transactions labels)) := by
  obtain ⟨keeps, fingerprinted⟩ :=
    keepsAlerts_run pipelineIs isInitial run tenantId
  constructor
  · intro durable left isLeft right isRight text ofLeft ofRight
    obtain ⟨leftRow, leftStored, leftKey, leftRule, leftEvent⟩ :=
      durable left isLeft
    obtain ⟨rightRow, rightStored, rightKey, rightRule, rightEvent⟩ :=
      durable right isRight
    have sameId : left.alertId = right.alertId := by
      rw [ofLeft.hashed, ofRight.hashed]
    have sameRow : leftRow = rightRow := by
      obtain ⟨leftTenant, leftId⟩ := alertHasKey_iff.mp leftKey
      obtain ⟨rightTenant, rightId⟩ := alertHasKey_iff.mp rightKey
      have sameTenant : leftRow.tenantId = rightRow.tenantId :=
        leftTenant.trans rightTenant.symm
      have sameKey : leftRow.alertId = rightRow.alertId :=
        leftId.trans (sameId.trans rightId.symm)
      apply pool.shared.alerts.eq_of_clash leftStored rightStored
      · exact alertHasKey_iff.mpr ⟨sameTenant, sameKey⟩
      · exact alertHasKey_iff.mpr ⟨sameTenant.symm, sameKey.symm⟩
    rw [← leftRule, ← leftEvent, ← rightRule, ← rightEvent, sameRow]
    exact ⟨rfl, rfl⟩
  · exact durable_of_unambiguous rfl keeps fingerprinted collisionFree

end Workers

/-! ## Two rules with a common fingerprint -/

theorem firstVersion_positive : (1 : Int) ≤ 1 := by
  decide

def loginRule (id : String) (idNotEmpty : id ≠ "") : SigmaRule where
  id
  ruleVersion := 1
  title := "Sign-in"
  description := ""
  status := "experimental"
  logsource := { members := [] }
  detection := { members :=
    [("login", .obj [("event_type", .str "login")]),
      ("condition", .str "login")] }
  level := .low
  tags := []
  idNotEmpty
  versionPositive := firstVersion_positive
  titleNotEmpty := by decide
  logsourceTexts := nofun

def loginEvent (eventId : String) : SecurityEvent where
  eventId
  eventType := "login"
  timestamp := ⟨seconds 1, "1970-01-01T00:00:01Z"⟩
  actor := "ana"
  sourceIp := none
  target := none
  deviceId := none
  attributes := { members := [] }

/-- A worker with rules that match every event. -/
def loginDetector (rules : List SigmaRule) : Detector Int where
  pipeline := pipelineOf sampleLibrary (fun _ _ _ => .ok true) rules
  modelValidateJson _ := loginEvent "event"
  julianOffset := 500
  decision := sampleDecision

abbrev loginWorkers (rules : List SigmaRule) :
    Procedure (Database Unit) Client (Option String) (Option Event) :=
  workers sampleService (loginDetector rules) oneAttempt

/-- The events are ingested, and one worker completes their jobs. -/
def completeAll (eventIds : List String) :
    List (Procedure.Command Client (Option String)) :=
  [.begin 0 (.call (.ingest "acme" (eventIds.map loginEvent) (seconds 2))),
    .resume 0 none,
    .begin 1 (.leasing ⟨"acme", "worker-1", seconds 3⟩ 25), .resume 1 none] ++
  eventIds.flatMap fun _ => [.resume 1 none, .resume 1 none, .resume 1 none]

def completed (rules : List SigmaRule) (eventIds : List String) :
    List WorkerLabel × Pool (Database Unit) Client :=
  (loginWorkers rules).follow samplePool (completeAll eventIds)

/-- The alerts are of rules, and their fingerprints are short. -/
def areShort (alerts : List DetectionAlert) : Bool :=
  alerts.all fun alert =>
    ¬(alert.ruleId ∈ correlationScopes.map Prod.snd) &&
      ((fingerprint alert.ruleId alert.eventId).toList.length ≤ 20 : Bool)

/-- Short fingerprints are their own digests here. -/
theorem collisionFree_of_short {rules : List SigmaRule}
    {alerts : List DetectionAlert} (short : areShort alerts = true) :
    CollisionFree sampleLibrary rules alerts := by
  have digest : ∀ text, (∃ alert ∈ alerts,
      Fingerprinted sampleLibrary rules alert text) →
      alertIdOf sampleLibrary text = text := by
    rintro text ⟨alert, member, ofAlert⟩
    have isShort := List.all_eq_true.mp short alert member
    rw [Bool.and_eq_true, decide_eq_true_iff, decide_eq_true_iff] at isShort
    rw [ofAlert.text_eq isShort.1]
    unfold alertIdOf
    change String.ofList (List.take 20
      (fingerprint alert.ruleId alert.eventId).toList) = _
    rw [List.take_of_length_le isShort.2, String.ofList_toList]
  intro left ofLeft right ofRight same
  rw [← digest left ofLeft, ← digest right ofRight, same]

def oneRule : List SigmaRule :=
  [loginRule "r1" (by decide)]

theorem durable_iff_oneRule :
    (∀ alert ∈ persistedAlerts "acme"
        (transactions (completed oneRule ["e1"]).1),
      Durable "acme" (completed oneRule ["e1"]).2.shared alert) ∧
    (persistedAlerts "acme"
      (transactions (completed oneRule ["e1"]).1)).length = 1 := by
  have run : ((loginWorkers oneRule).system Empty).Run samplePool
      (completed oneRule ["e1"]).1 (completed oneRule ["e1"]).2 := by
    apply Procedure.run_follow
    refine ⟨⟨rfl, .other (.inl rfl)⟩, trivial, trivial, trivial, ?_⟩
    refine ⟨⟨rfl, .runOnce _ _⟩, trivial, trivial, trivial, ?_⟩
    iterate 3 refine ⟨trivial, trivial, ?_⟩
    trivial
  have evaluated : areShort (persistedAlerts "acme"
        (transactions (completed oneRule ["e1"]).1)) = true ∧
      (persistedAlerts "acme"
        (transactions (completed oneRule ["e1"]).1)).length = 1 := by
    decide +kernel
  have isInitial : ((loginWorkers oneRule).system Empty).initial samplePool :=
    ⟨sampleStart_initial, fun _ => rfl⟩
  refine ⟨?_, evaluated.2⟩
  apply (durable_iff rfl isInitial run "acme"
    (collisionFree_of_short evaluated.1)).mpr
  intro left isLeft right isRight _ _ _
  obtain ⟨alert, isAlert⟩ := List.length_eq_one_iff.mp evaluated.2
  rw [isAlert, List.mem_singleton] at isLeft isRight
  rw [isLeft, isRight]
  exact ⟨rfl, rfl⟩

/-- Both rules match both events. -/
def nestedRules : List SigmaRule :=
  [loginRule "a" (by decide), loginRule "a:b" (by decide)]

def nestedEvents : List String := ["b:c", "c"]

/-- The alert of the second rule for the second event has the identifier of
that of the first rule for the first event, and is ignored. -/
theorem shared_fingerprint_ignored :
    ∃ labels pool,
      ((loginWorkers nestedRules).system Empty).Run samplePool labels pool ∧
      CollisionFree sampleLibrary nestedRules
        (persistedAlerts "acme" (transactions labels)) ∧
      ∃ alert ∈ persistedAlerts "acme" (transactions labels),
        ¬ Durable "acme" pool.shared alert := by
  have run : ((loginWorkers nestedRules).system Empty).Run samplePool
      (completed nestedRules nestedEvents).1
      (completed nestedRules nestedEvents).2 := by
    apply Procedure.run_follow
    refine ⟨⟨rfl, .other (.inl rfl)⟩, trivial, trivial, trivial, ?_⟩
    refine ⟨⟨rfl, .runOnce _ _⟩, trivial, trivial, trivial, ?_⟩
    iterate 6 refine ⟨trivial, trivial, ?_⟩
    trivial
  have evaluated : areShort (persistedAlerts "acme"
        (transactions (completed nestedRules nestedEvents).1)) = true ∧
      ∃ alert ∈ persistedAlerts "acme"
          (transactions (completed nestedRules nestedEvents).1),
        ¬ Durable "acme" (completed nestedRules nestedEvents).2.shared alert := by
    decide +kernel
  exact ⟨_, _, run, collisionFree_of_short evaluated.1, evaluated.2⟩

end Processing

end ControlForge
