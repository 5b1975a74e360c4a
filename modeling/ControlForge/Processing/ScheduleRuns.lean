import ControlForge.Processing.Schedules

/-!
# What a schedule stores

A worker that holds a lease knows an event of the tenant, and what it evaluates
the event to stays true while it waits: its lease counts an attempt, so that
the events of the tenant stay.  Each completion therefore stores what the
events raise, and two schedules that complete every job of a tenant store the
same alerts.
-/

namespace ControlForge

namespace Processing

open Store Cases Detection

section Runs

variable {F Log : Type} {service : Service Log} {detector : Detector F}
  {settings : WorkerSettings} {tenantId : String} {before after : Database Log}

/-! ## Leases -/

/-- The lease is one of a stored job of the tenant. -/
def Held (tenantId : String) (database : Database Log) (lease : JobLease) :
    Prop :=
  ∃ job ∈ database.jobs.rows, job.tenantId = tenantId ∧
    job.jobId = lease.jobId ∧ job.eventId = lease.eventId ∧ 0 < job.attempts

theorem Held.started {lease : JobLease} (held : Held tenantId before lease) :
    Started tenantId before := by
  obtain ⟨job, stored, tenant, -, -, leased⟩ := held
  exact ⟨job, stored, tenant, leased⟩

theorem Held.extend {lease : JobLease} (held : Held tenantId before lease)
    (extended : Extends tenantId before after) : Held tenantId after lease := by
  obtain ⟨job, stored, tenant, identifier, event, leased⟩ := held
  obtain ⟨next, nextStored, sameTenant, sameId, sameEvent, attempts⟩ :=
    extended.jobs job stored
  exact ⟨next, nextStored, sameTenant.trans tenant, sameId.trans identifier,
    sameEvent.trans event, Nat.lt_of_lt_of_le leased attempts⟩

/-- The leases a claim returns are held. -/
theorem Claimed.held {workerId : String} {expires now : Timestamp}
    {jobIds : List String}
    (claimed : Claimed tenantId workerId expires now jobIds before after) :
    ∀ lease ∈ readLeases tenantId jobIds after, Held tenantId after lease := by
  intro lease member
  obtain ⟨jobId, listed, found⟩ := List.mem_filterMap.mp member
  obtain ⟨job, isFound, isLease⟩ := Option.bind_eq_some_iff.mp found
  obtain ⟨tenant, identifier⟩ := jobHasKey_iff.mp (List.find?_some isFound)
  have stored := List.mem_of_find?_eq_some isFound
  unfold JobRow.lease? at isLease
  obtain ⟨owner, -, afterOwner⟩ := Option.bind_eq_some_iff.mp isLease
  obtain ⟨_, -, made⟩ := Option.bind_eq_some_iff.mp afterOwner
  cases made
  refine ⟨job, stored, tenant, rfl, rfl, ?_⟩
  rw [claimed.jobs] at stored
  obtain ⟨old, -, rfl⟩ := List.mem_map.mp stored
  cases isClaimed : Processing.claimed tenantId jobIds old with
  | true =>
      rw [Table.applyWhere_selected isClaimed]
      exact Nat.succ_pos _
  | false =>
      rw [Table.applyWhere_unselected isClaimed] at tenant identifier
      have wasClaimed : Processing.claimed tenantId jobIds old = true := by
        apply decide_eq_true
        rw [identifier]
        exact ⟨tenant, listed⟩
      rw [isClaimed] at wasClaimed
      cases wasClaimed

/-! ## What a worker knows -/

/-- The row of the event of the lease is what the worker read. -/
def Knows (detector : Detector F) (tenantId : String) (database : Database Log)
    (event : SecurityEvent) (lease : JobLease) : Prop :=
  ∃ row ∈ database.events.rows, row.tenantId = tenantId ∧
    row.eventId = lease.eventId ∧ readEvent detector row = event

/-- The event of the lease raises the alerts. -/
def Foresees (detector : Detector F) (tenantId : String)
    (database : Database Log) (alerts : List DetectionAlert)
    (lease : JobLease) : Prop :=
  ∃ row, Evaluates detector tenantId database row alerts ∧
    row.eventId = lease.eventId

/-- What a worker of the tenant relies on at a point of its run. -/
def Client.Informed (detector : Detector F) (tenantId : String)
    (database : Database Log) : Client → Prop
  | .idle | .call _ | .leasing _ _ => True
  | .loading run lease rest | .failing run _ lease rest =>
      run.tenantId = tenantId →
        ∀ held ∈ lease :: rest, Held tenantId database held
  | .correlating run event lease rest =>
      run.tenantId = tenantId →
        (∀ held ∈ lease :: rest, Held tenantId database held) ∧
          Knows detector tenantId database event lease
  | .persisting run alerts lease rest =>
      run.tenantId = tenantId →
        (∀ held ∈ lease :: rest, Held tenantId database held) ∧
          Foresees detector tenantId database alerts lease

theorem informed_proceed {run : RunOnce} {leases : List JobLease}
    (held : run.tenantId = tenantId →
      ∀ lease ∈ leases, Held tenantId before lease) :
    (Client.proceed run leases).Informed detector tenantId before := by
  cases leases with
  | nil => trivial
  | cons lease rest => exact held

theorem Knows.extend {event : SecurityEvent} {lease : JobLease}
    (knows : Knows detector tenantId before event lease)
    (started : Started tenantId before)
    (extended : Extends tenantId before after) :
    Knows detector tenantId after event lease := by
  obtain ⟨row, stored, tenant, isEvent, isRead⟩ := knows
  obtain ⟨other, otherStored, otherTenant, same⟩ :=
    (extended.events started).row stored tenant
  exact ⟨other, otherStored, otherTenant, (eventId_congr same).trans isEvent,
    (readEvent_congr same).trans isRead⟩

theorem Foresees.extend {alerts : List DetectionAlert} {lease : JobLease}
    (foresees : Foresees detector tenantId before alerts lease)
    (started : Started tenantId before)
    (extended : Extends tenantId before after) :
    Foresees detector tenantId after alerts lease := by
  obtain ⟨row, evaluates, isEvent⟩ := foresees
  obtain ⟨other, same, otherEvaluates⟩ :=
    evaluates.transfer (extended.events started)
  exact ⟨other, otherEvaluates, (eventId_congr same).trans isEvent⟩

/-- What a worker relies on stays when jobs keep their attempts. -/
theorem Client.Informed.extend {client : Client}
    (informed : client.Informed detector tenantId before)
    (extended : Extends tenantId before after) :
    client.Informed detector tenantId after := by
  have kept {leases : List JobLease}
      (held : ∀ lease ∈ leases, Held tenantId before lease) :
      ∀ lease ∈ leases, Held tenantId after lease :=
    fun lease member => (held lease member).extend extended
  cases client with
  | idle | call | leasing => trivial
  | loading | failing =>
      intro ofTenant
      exact kept (informed ofTenant)
  | correlating run event lease rest =>
      intro ofTenant
      obtain ⟨held, knows⟩ := informed ofTenant
      have started := (held lease List.mem_cons_self).started
      exact ⟨kept held, knows.extend started extended⟩
  | persisting run alerts lease rest =>
      intro ofTenant
      obtain ⟨held, foresees⟩ := informed ofTenant
      have started := (held lease List.mem_cons_self).started
      exact ⟨kept held, foresees.extend started extended⟩

/-- A call leaves a worker informed that was, by what the call did to the
leases it returned. -/
theorem informed_resumed {client point : Client} {effect : Option Event}
    (resumed : Resumed detector before client point effect)
    (informed : client.Informed detector tenantId before)
    (extended : Extends tenantId before after)
    (claims : ∀ run limit leases, client = .leasing run limit →
      run.tenantId = tenantId →
      effect.map Event.outcome = some (.ok (.leased leases)) →
      ∀ lease ∈ leases, Held tenantId after lease) :
    point.Informed detector tenantId after := by
  have later := informed.extend extended
  cases resumed with
  | ended | stopped => trivial
  | raisedLoading => exact later
  | raisedCorrelating | raisedPersisting | refused =>
      intro ofTenant
      exact (later ofTenant).1
  | @loaded run lease rest event found =>
      intro ofTenant
      obtain ⟨row, isFound, isRead⟩ := Option.map_eq_some_iff.mp found
      obtain ⟨tenant, identifier⟩ := hasKey_iff.mp (List.find?_some isFound)
      have knows : Knows detector tenantId before event lease :=
        ⟨row, List.mem_of_find?_eq_some isFound, tenant.trans ofTenant,
          identifier, isRead⟩
      have started := (informed ofTenant lease List.mem_cons_self).started
      exact ⟨later ofTenant, knows.extend started extended⟩
  | @evaluated run event lease rest alerts evaluates =>
      intro ofTenant
      obtain ⟨held, row, stored, tenant, isEvent, isRead⟩ := informed ofTenant
      have foresees : Foresees detector tenantId before alerts lease := by
        refine ⟨row, ⟨stored, tenant, ?_⟩, isEvent⟩
        rw [isRead, ← ofTenant]
        exact evaluates
      have started := (held lease List.mem_cons_self).started
      exact ⟨(later ofTenant).1, foresees.extend started extended⟩
  | @leased run limit leases event replyIs =>
      apply informed_proceed
      intro ofTenant
      exact claims run limit leases rfl ofTenant (congrArg some replyIs)
  | persisted =>
      apply informed_proceed
      intro ofTenant lease member
      exact (later ofTenant).1 lease (List.mem_cons_of_mem _ member)
  | reported =>
      apply informed_proceed
      intro ofTenant lease member
      exact later ofTenant lease (List.mem_cons_of_mem _ member)

/-! ## A completion -/

/-- A worker that completes a job stores what the event of the job raises. -/
theorem Evaluated.completed (holds : Evaluated detector tenantId before)
    {library : Library} {workerId : String} {now : Timestamp}
    {alerts : List DetectionAlert} {job : JobRow} {source : EventRow}
    {lease : JobLease} {result : AlertPersistenceResult}
    (ofTenant : job.tenantId = tenantId) (sameJob : job.jobId = lease.jobId)
    (held : Held tenantId before lease)
    (foresees : Foresees detector tenantId before alerts lease)
    (change : Completed library detector.decision workerId now alerts job
      source before after)
    (ran : persistAlertsAndCompleteJob library tenantId job.jobId workerId
      alerts now detector.decision before = .ok (result, after)) :
    Evaluated detector tenantId after := by
  obtain ⟨middle, jobs, alertsStored, isAfter⟩ := change.work
  obtain ⟨newAlerts, cases, caseAlerts, isMiddle⟩ := alertsStored.frame
  have sameEvents : SameEvents tenantId before after := by
    unfold SameEvents eventsOf
    rw [isAfter, isMiddle]
  have keeps : ∀ row ∈ before.alerts.rows, row ∈ after.alerts.rows := by
    rw [isAfter]
    exact (alertsStored_rows alertsStored).1
  -- the job is that of the lease, and its event that of the evaluation
  obtain ⟨leased, leasedStored, leasedTenant, leasedId, leasedEvent, attempts⟩ :=
    held
  have sameRow : job = leased := by
    apply job_eq_of_key change.stored leasedStored
    exact jobHasKey_iff.mpr
      ⟨ofTenant.trans leasedTenant.symm, sameJob.trans leasedId.symm⟩
  obtain ⟨row, evaluates, rowEvent⟩ := foresees
  obtain ⟨sourceTenant, sourceEvent⟩ := hasKey_iff.mp change.ofJob
  have isSource : row = source := by
    apply eventRow_eq_of_key evaluates.stored change.source
    · rw [evaluates.tenant, sourceTenant, ofTenant]
    · rw [rowEvent, sourceEvent, sameRow, leasedEvent]
  subst isSource
  obtain ⟨other, otherStored, another, anotherStored, otherKey, anotherKey,
    ofEvent, origin⟩ := completion_first ran
  have isAnother : another = row := by
    have isOther : other = job := by
      apply job_eq_of_key otherStored change.stored
      rw [ofTenant]
      exact otherKey
    rw [isOther] at anotherKey
    obtain ⟨anotherTenant, anotherEvent⟩ := hasKey_iff.mp anotherKey
    apply eventRow_eq_of_key anotherStored change.source
    · rw [anotherTenant, sourceTenant]
    · rw [anotherEvent, sourceEvent]
  subst isAnother
  have started : Started tenantId after := by
    refine ⟨Table.applyWhere (·.hasKey job.tenantId job.jobId) (·.succeed now)
      job, ?_, ?_⟩
    · rw [change.jobs]
      exact List.mem_map_of_mem change.stored
    · rw [Table.applyWhere_selected (jobHasKey_iff.mpr ⟨rfl, rfl⟩)]
      rw [sameRow]
      exact ⟨leasedTenant, attempts⟩
  constructor
  · intro stored isStored tenant
    refine ⟨started, ?_⟩
    rcases origin stored isStored with old | ⟨alert, isFirst, isRow⟩
    · exact (holds.rows stored old tenant).2.transfer sameEvents
    · have expected : Expected detector tenantId before stored :=
        ⟨another, alerts, alert, evaluates, isFirst, isRow⟩
      exact expected.transfer sameEvents
  · intro finished isStored tenant succeeded
    refine ⟨started, ?_⟩
    rw [change.jobs] at isStored
    obtain ⟨old, oldStored, rfl⟩ := List.mem_map.mp isStored
    cases selected : old.hasKey job.tenantId job.jobId with
    | false =>
        rw [Table.applyWhere_unselected selected] at tenant succeeded ⊢
        exact (holds.jobs old oldStored tenant succeeded).2.transfer sameEvents
          fun kept isKept _ => keeps kept isKept
    | true =>
        rw [Table.applyWhere_selected selected]
        have isJob : old = job := job_eq_of_key oldStored change.stored selected
        have settledEvent : another.eventId = (old.succeed now).eventId := by
          rw [isJob, sourceEvent]
          rfl
        obtain ⟨next, sameUntimed, nextEvaluates⟩ :=
          evaluates.transfer sameEvents
        refine ⟨next, alerts, nextEvaluates,
          (eventId_congr sameUntimed).trans settledEvent, ?_⟩
        intro alert member
        exact ⟨(ofEvent alert member).trans settledEvent,
          completion_keyed ran alert member⟩

theorem Completed.extends {library : Library} {decision : Decision}
    {workerId : String} {now : Timestamp} {alerts : List DetectionAlert}
    {job : JobRow} {source : EventRow}
    (change : Completed library decision workerId now alerts job source before
      after) : Extends tenantId before after := by
  obtain ⟨middle, jobs, stored, isAfter⟩ := change.work
  obtain ⟨newAlerts, cases, caseAlerts, isMiddle⟩ := stored.frame
  have keeps : KeepsJob fun job : JobRow => job.succeed now :=
    ⟨fun _ => rfl, fun _ => rfl, fun _ => rfl, fun job => Nat.le_refl _⟩
  apply Extends.of_jobs (by rw [isAfter, isMiddle])
    (keeps.applyWhere (·.hasKey job.tenantId job.jobId))
  exact change.jobs

/-! ## One call of a worker -/

/-- The leases a claim of the tenant returns are held. -/
theorem leases_held {run : RunOnce} {limit leaseSeconds : Int}
    {leases : List JobLease} (ofTenant : run.tenantId = tenantId)
    (ran : program service (.lease run.tenantId run.workerId limit run.now
      leaseSeconds) before = .ok (.leased leases, after)) :
    ∀ lease ∈ leases, Held tenantId after lease := by
  obtain ⟨returned, claims, replyIs⟩ := bind_pure_ok ran
  obtain ⟨jobIds, claimed, isReturned⟩ := leaseJobs_ok claims
  cases replyIs
  rw [isReturned, ← ofTenant]
  exact claimed.held

/-- Every call of an informed worker keeps the evaluation, and returns leases
that are held. -/
theorem evaluated_call {client : Client} {effect : Option Event}
    (holds : Evaluated detector tenantId before)
    (calls : client.CallsOthers)
    (informed : client.Informed detector tenantId before)
    (first : ∀ event, effect = some event →
      ingestedFirst tenantId before event = true)
    (steps : Steps service detector settings client before after effect) :
    Evaluated detector tenantId after ∧ Extends tenantId before after ∧
      ∀ run limit leases, client = .leasing run limit →
        run.tenantId = tenantId →
        effect.map Event.outcome = some (.ok (.leased leases)) →
        ∀ lease ∈ leases, Held tenantId after lease := by
  cases effect with
  | none =>
      cases steps
      refine ⟨holds, Extends.refl _, fun _ _ _ _ _ replyIs => ?_⟩
      cases replyIs
  | some event =>
      obtain ⟨transacts, step⟩ := steps
      rcases step_cases service step with
        ⟨failure, refused, rfl⟩ | ⟨reply, accepted, ran⟩
      · refine ⟨holds, Extends.refl _, fun _ _ _ _ _ replyIs => ?_⟩
        rw [Option.map_some, refused] at replyIs
        cases replyIs
      · have claims : ∀ run limit leases, client = .leasing run limit →
            run.tenantId = tenantId →
            (some event).map Event.outcome = some (.ok (.leased leases)) →
            ∀ lease ∈ leases, Held tenantId after lease := by
          rintro run limit leases rfl ofTenant replyIs
          rw [Option.map_some, accepted] at replyIs
          cases replyIs
          rw [← Option.some.inj transacts] at ran
          exact leases_held ofTenant ran
        have permitted := permitted_of_transaction calls transacts
        rcases quiet_or_completed permitted (first event rfl) ran with
          quiet | ⟨job, source, workerId, alerts, now, decision, operationIs,
            ofTenant, completed⟩
        · exact ⟨holds.quiet quiet, quiet.toExtends, claims⟩
        · refine ⟨?_, completed.extends, claims⟩
          rw [operationIs] at transacts ran
          cases client with
          | idle | leasing | loading | correlating | failing => cases transacts
          | call operation =>
              cases transacts
              rcases calls _ rfl with kind | kind
              · cases kind
              · cases kind
          | persisting run raised lease rest =>
              obtain ⟨sameTenant, sameJob, rfl, rfl, rfl, rfl⟩ :=
                Operation.persist.inj (Option.some.inj transacts)
              obtain ⟨held, foresees⟩ := informed sameTenant
              obtain ⟨result, persisted, -⟩ := bind_pure_ok ran
              exact holds.completed ofTenant sameJob.symm
                (held lease List.mem_cons_self) foresees completed persisted

/-! ## Runs -/

/-- The events of the tenant are ingested before its first lease. -/
abbrev IngestedFirst (Log : Type) (tenantId : String) :
    Pool (Database Log) Client → WorkerLabel → Prop :=
  OnTransactions fun database event => ingestedFirst tenantId database event

/-- The stored alerts are those of the events, and every worker is
informed. -/
def evaluations (service : Service Log) (detector : Detector F)
    (tenantId : String) :
    Procedure.Assertions (Database Log) Client WorkerLabel where
  shared _ database :=
    Recorded service.library database ∧ Evaluated detector tenantId database
  process database client :=
    client.CallsOthers ∧ client.Informed detector tenantId database
  pair _ _ _ := True

theorem evaluations_sound :
    (evaluations service detector tenantId).Sound
      (workers service detector settings) (IngestedFirst Log tenantId)
      fun before after _ => Extends tenantId before after where
  symm := fun _ => trivial
  idle _ := ⟨(@callsOthers_invariant F detector).idle, trivial⟩
  idlePair _ _ := trivial
  starts _ := by
    intro client isStart
    have calls := (@callsOthers_invariant F detector).starts isStart
    refine ⟨⟨calls, ?_⟩, fun _ => trivial⟩
    cases isStart with
    | runOnce | other => trivial
  unseen holds _ := holds
  owner {labels pool index input point shared effect} holds first moved := by
    obtain ⟨isResumed, steps⟩ := resumed moved
    obtain ⟨calls, informed⟩ := holds.process index
    obtain ⟨recorded, evaluated⟩ := holds.shared
    obtain ⟨stillEvaluated, extended, claims⟩ := evaluated_call evaluated calls
      informed (fun event isEvent => first event isEvent) steps
    have stillRecorded : Recorded service.library shared := by
      cases effect with
      | none =>
          cases steps
          exact recorded
      | some event => exact (records_of_step steps.2).recorded recorded
    refine ⟨⟨stillRecorded, stillEvaluated⟩,
      ⟨callsOthers_invariant.resumes calls isResumed, ?_⟩,
      fun other _ => ⟨extended, trivial⟩⟩
    exact informed_resumed isResumed informed extended claims
  outside _ changed := absurd changed id
  refl _ _ := Extends.refl _
  stable extended holds := ⟨holds.1, holds.2.extend extended⟩
  stablePair _ _ _ := trivial

/-- In every run, the stored alerts of the tenant are alerts of its events, and
those of the events of succeeded jobs are stored. -/
theorem evaluated_run {start pool : Pool (Database Log) Client}
    {labels : List WorkerLabel}
    (isInitial :
      ((workers service detector settings).system Empty).initial start)
    (run : ((workers service detector settings).system Empty).RunWhere
      (IngestedFirst Log tenantId) start labels pool) :
    Recorded service.library pool.shared ∧
      Evaluated detector tenantId pool.shared := by
  have initially : ∀ database : Database Log, Empty database →
      (evaluations service detector tenantId).shared [] database := by
    intro database empty
    refine ⟨⟨?_, ?_⟩, ⟨?_, ?_⟩⟩
    · intro row stored
      rw [empty.events] at stored
      cases stored
    · intro row stored
      rw [empty.events] at stored
      cases stored
    · intro row stored
      rw [empty.alerts] at stored
      cases stored
    · intro job stored
      rw [empty.jobs] at stored
      cases stored
  exact (Procedure.Assertions.Hold.run evaluations_sound initially isInitial
    run).shared

/-! ## Complete schedules -/

/-- Every job of the tenant has succeeded. -/
def AllSucceeded (tenantId : String) (database : Database Log) : Prop :=
  ∀ job ∈ database.jobs.rows, job.tenantId = tenantId → job.status = .succeeded

/-- The event of an expected alert is settled, and the alert is one of it. -/
theorem Evaluated.settled (holds : Evaluated detector tenantId before)
    {library : Library} (recorded : Recorded library before)
    (complete : AllSucceeded tenantId before) {event : EventRow}
    {alerts : List DetectionAlert}
    (evaluates : Evaluates detector tenantId before event alerts) :
    ∀ alert ∈ alerts, alert.eventId = event.eventId ∧
      ∃ row ∈ before.alerts.rows,
        row.hasKey tenantId alert.alertId = true := by
  obtain ⟨job, stored, tenant, isEvent⟩ := recorded.job event evaluates.stored
  have ofTenant := tenant.trans evaluates.tenant
  obtain ⟨-, other, others, otherEvaluates, isOther, keyed⟩ :=
    holds.jobs job stored ofTenant (complete job stored ofTenant)
  have sameId := isOther.trans isEvent
  have same : other = event := by
    apply eventRow_eq_of_key otherEvaluates.stored evaluates.stored _ sameId
    rw [otherEvaluates.tenant, evaluates.tenant]
  subst same
  rw [evaluates.unique otherEvaluates]
  intro alert member
  obtain ⟨ofEvent, stored⟩ := keyed alert member
  exact ⟨ofEvent.trans isEvent, stored⟩

/-- With every job succeeded, exactly the expected alerts are stored. -/
theorem Evaluated.alerts_iff (holds : Evaluated detector tenantId before)
    {library : Library} (recorded : Recorded library before)
    (complete : AllSucceeded tenantId before)
    (distinct : DistinctAlertIds detector tenantId before) (row : AlertRow) :
    row ∈ alertsOf tenantId before ↔ Expected detector tenantId before row := by
  constructor
  · intro listed
    obtain ⟨stored, tenant⟩ := mem_alertsOf.mp listed
    exact (holds.rows row stored tenant).2
  · rintro ⟨event, alerts, alert, evaluates, isFirst, rfl⟩
    have settled := holds.settled recorded complete evaluates
    have member := List.mem_of_find?_eq_some isFirst
    obtain ⟨ofEvent, other, stored, keyed⟩ := settled alert member
    obtain ⟨tenant, identifier⟩ := alertHasKey_iff.mp keyed
    obtain ⟨-, otherEvent, others, otherAlert, otherEvaluates, otherFirst,
      isOther⟩ := holds.rows other stored tenant
    have otherMember := List.mem_of_find?_eq_some otherFirst
    have sameId : otherAlert.alertId = alert.alertId := by
      rw [isOther] at identifier
      exact identifier
    -- alerts with one identifier are of one event, which raises one list
    have sameEvent : otherEvent = event := by
      have otherOf := holds.settled recorded complete otherEvaluates otherAlert
        otherMember
      apply eventRow_eq_of_key otherEvaluates.stored evaluates.stored
      · rw [otherEvaluates.tenant, evaluates.tenant]
      · rw [← otherOf.1, ← ofEvent]
        exact (distinct _ _ _ _ otherEvaluates evaluates otherAlert otherMember
          alert member sameId).2
    subst sameEvent
    have sameAlerts := evaluates.unique otherEvaluates
    subst sameAlerts
    have sameAlert : otherAlert = alert := by
      unfold IsFirst at isFirst otherFirst
      rw [sameId, isFirst] at otherFirst
      exact (Option.some.inj otherFirst).symm
    subst sameAlert
    rw [← isOther]
    exact mem_alertsOf.mpr ⟨stored, tenant⟩

theorem alertsOf_nodup (database : Database Log) :
    (alertsOf tenantId database).Nodup := by
  apply List.Nodup.filter
  exact Table.nodup fun row => by simp [AlertRow.clash, AlertRow.hasKey]

end Runs

/-- Two schedules over the same events of a tenant that complete all of its
jobs store the same alerts, each once. -/
theorem alerts_independent_of_schedule {F Log : Type} {detector : Detector F}
    {tenantId : String} {leftService rightService : Service Log}
    {leftSettings rightSettings : WorkerSettings}
    {leftStart leftPool rightStart rightPool : Pool (Database Log) Client}
    {leftLabels rightLabels : List WorkerLabel}
    (leftInitial :
      ((workers leftService detector leftSettings).system Empty).initial
        leftStart)
    (rightInitial :
      ((workers rightService detector rightSettings).system Empty).initial
        rightStart)
    (leftRun : ((workers leftService detector leftSettings).system
      Empty).RunWhere (IngestedFirst Log tenantId) leftStart leftLabels
        leftPool)
    (rightRun : ((workers rightService detector rightSettings).system
      Empty).RunWhere (IngestedFirst Log tenantId) rightStart rightLabels
        rightPool)
    (sameEvents : SameEvents tenantId leftPool.shared rightPool.shared)
    (leftComplete : AllSucceeded tenantId leftPool.shared)
    (rightComplete : AllSucceeded tenantId rightPool.shared)
    (distinct : DistinctAlertIds detector tenantId leftPool.shared) :
    (alertsOf tenantId leftPool.shared).Perm
        (alertsOf tenantId rightPool.shared) ∧
      (alertsOf tenantId leftPool.shared).Nodup := by
  obtain ⟨leftRecorded, leftEvaluated⟩ := evaluated_run leftInitial leftRun
  obtain ⟨rightRecorded, rightEvaluated⟩ := evaluated_run rightInitial rightRun
  have leftIff := leftEvaluated.alerts_iff leftRecorded leftComplete distinct
  have rightIff := rightEvaluated.alerts_iff rightRecorded rightComplete
    (distinct.transfer sameEvents)
  refine ⟨?_, alertsOf_nodup _⟩
  rw [List.perm_ext_iff_of_nodup (alertsOf_nodup _) (alertsOf_nodup _)]
  intro row
  rw [leftIff, rightIff]
  exact ⟨fun expected => expected.transfer sameEvents,
    fun expected => expected.transfer sameEvents.symm⟩

/-! ## A lease that another worker takes over -/

section Checks

variable {F Log : Type} {service : Service Log} {detector : Detector F}
  {settings : WorkerSettings} {tenantId : String}

instance (database : Database Log) :
    Decidable (AllSucceeded tenantId database) :=
  inferInstanceAs (Decidable (∀ job ∈ database.jobs.rows,
    job.tenantId = tenantId → job.status = .succeeded))

instance (left right : Database Log) :
    Decidable (SameEvents tenantId left right) :=
  inferInstanceAs (Decidable (List.Perm _ _))

/-- The check of `IngestedFirst` on a schedule. -/
def checksIngestion (service : Service Log) (detector : Detector F)
    (settings : WorkerSettings) (tenantId : String)
    (pool : Pool (Database Log) Client) :
    List (Procedure.Command Client (Option String)) → Bool
  | [] => true
  | command :: commands =>
      let performed := (workers service detector settings).perform pool command
      (transactionOf performed.1).all (ingestedFirst tenantId pool.shared) &&
        checksIngestion service detector settings tenantId performed.2 commands

theorem legal_of_checked {pool : Pool (Database Log) Client}
    {commands : List (Procedure.Command Client (Option String))}
    (legal : (workers service detector settings).Legal (fun _ _ => True) pool
      commands)
    (checked :
      checksIngestion service detector settings tenantId pool commands = true) :
    (workers service detector settings).Legal (IngestedFirst Log tenantId) pool
      commands := by
  induction commands generalizing pool with
  | nil => trivial
  | cons command commands induction =>
      obtain ⟨permitted, -, rest⟩ := legal
      obtain ⟨first, later⟩ := Bool.and_eq_true_iff.mp checked
      exact ⟨permitted, onTransactions_of_check first, induction rest later⟩

def raisesOne (evaluated : Except DetectionError (List DetectionAlert)) :
    Bool :=
  match evaluated with
  | .ok alerts => alerts.length = 1
  | .error _ => false

/-- One event that raises one alert has no two alerts to confuse. -/
theorem distinctAlertIds_of_one {database : Database Log}
    (single : (eventsOf tenantId database).length = 1)
    (one : (eventsOf tenantId database).all fun event =>
      raisesOne (evaluateStored detector tenantId (readEvent detector event)
        database)) : DistinctAlertIds detector tenantId database := by
  obtain ⟨row, isRow⟩ := List.length_eq_one_iff.mp single
  have isOnly : ∀ {event : EventRow} {alerts : List DetectionAlert},
      Evaluates detector tenantId database event alerts → event = row := by
    intro event alerts evaluates
    have listed := mem_eventsOf.mpr ⟨evaluates.stored, evaluates.tenant⟩
    rw [isRow] at listed
    exact List.mem_singleton.mp listed
  intro event alerts other others evaluates otherEvaluates alert member
    otherAlert otherMember _
  have sameEvent := (isOnly otherEvaluates).trans (isOnly evaluates).symm
  subst sameEvent
  have sameAlerts := evaluates.unique otherEvaluates
  subst sameAlerts
  have raises := List.all_eq_true.mp one other
    (mem_eventsOf.mpr ⟨evaluates.stored, evaluates.tenant⟩)
  rw [evaluates.raised] at raises
  obtain ⟨only, isAlert⟩ := List.length_eq_one_iff.mp (of_decide_eq_true raises)
  rw [isAlert] at member otherMember
  rw [List.mem_singleton.mp member, List.mem_singleton.mp otherMember]
  exact ⟨rfl, rfl⟩

end Checks

/-- The first worker stalls after its claim; the second one takes the job over
when the lease has run out, and completes it. -/
def takeOver : List (Procedure.Command Client (Option String)) :=
  [.begin 0 (.call (.ingest "acme" [loginEvent "e1"] (seconds 1))),
    .resume 0 none,
    .begin 1 (.leasing ⟨"acme", "worker-1", seconds 3⟩ 25), .resume 1 none,
    .begin 2 (.leasing ⟨"acme", "worker-2", seconds 63⟩ 25), .resume 2 none,
    .resume 2 none, .resume 2 none, .resume 2 none]

theorem alerts_independent_of_schedule_takeOver :
    (alertsOf "acme" (completed oneRule ["e1"]).2.shared).Perm
        (alertsOf "acme" ((loginWorkers oneRule).follow samplePool
          takeOver).2.shared) ∧
      (alertsOf "acme" (completed oneRule ["e1"]).2.shared).Nodup := by
  have evaluated :
      (checksIngestion sampleService (loginDetector oneRule) oneAttempt "acme"
          samplePool (completeAll ["e1"]) = true ∧
        checksIngestion sampleService (loginDetector oneRule) oneAttempt "acme"
          samplePool takeOver = true) ∧
      SameEvents "acme" (completed oneRule ["e1"]).2.shared
        ((loginWorkers oneRule).follow samplePool takeOver).2.shared ∧
      (AllSucceeded "acme" (completed oneRule ["e1"]).2.shared ∧
        AllSucceeded "acme"
          ((loginWorkers oneRule).follow samplePool takeOver).2.shared) ∧
      (eventsOf "acme" (completed oneRule ["e1"]).2.shared).length = 1 ∧
      ((eventsOf "acme" (completed oneRule ["e1"]).2.shared).all fun event =>
        raisesOne (evaluateStored (loginDetector oneRule) "acme"
          (readEvent (loginDetector oneRule) event)
          (completed oneRule ["e1"]).2.shared)) = true := by
    decide +kernel
  obtain ⟨⟨inTime, takenInTime⟩, sameEvents, ⟨complete, takenComplete⟩, single,
    one⟩ := evaluated
  have isInitial : ((loginWorkers oneRule).system Empty).initial samplePool :=
    ⟨sampleStart_initial, fun _ => rfl⟩
  apply @alerts_independent_of_schedule Int Unit (loginDetector oneRule) "acme"
    sampleService sampleService oneAttempt oneAttempt samplePool _ samplePool _
    _ _ isInitial isInitial
  · apply Procedure.run_follow
    apply legal_of_checked _ inTime
    refine ⟨⟨rfl, .other (.inl rfl)⟩, trivial, trivial, trivial, ?_⟩
    refine ⟨⟨rfl, .runOnce _ _⟩, trivial, trivial, trivial, ?_⟩
    iterate 3 refine ⟨trivial, trivial, ?_⟩
    trivial
  · apply Procedure.run_follow
    apply legal_of_checked _ takenInTime
    refine ⟨⟨rfl, .other (.inl rfl)⟩, trivial, trivial, trivial, ?_⟩
    refine ⟨⟨rfl, .runOnce _ _⟩, trivial, trivial, trivial, ?_⟩
    refine ⟨⟨rfl, .runOnce _ _⟩, trivial, trivial, trivial, ?_⟩
    iterate 3 refine ⟨trivial, trivial, ?_⟩
    trivial
  · exact sameEvents
  · exact complete
  · exact takenComplete
  · exact distinctAlertIds_of_one single one

end Processing

end ControlForge
