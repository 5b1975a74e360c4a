import ControlForge.Processing.System

/-!
# What a transaction changes

Each kind of transaction is inverted once: an ingestion queues jobs, an alert
is stored with its case, an analyst changes one case.
-/

namespace ControlForge

namespace Processing

open Store Cases

section Programs

variable {Log : Type} {before after : Database Log}

/-! ## Ingestion -/

/-- New events were stored, and new jobs queued. -/
structure Ingested (before after : Database Log) : Prop where
  frame : ∃ events jobs, after = { before with events, jobs }
  events : ∃ added : List EventRow,
    after.events.rows = before.events.rows ++ added ∧
      ∀ event ∈ added, event.tenantId ∈ before.tenants
  jobs : ∃ added : List JobRow, after.jobs.rows = before.jobs.rows ++ added ∧
    ∀ job ∈ added, ∃ library tenantId eventId receivedAt,
      job = pendingJob library tenantId eventId receivedAt

instance : Std.Refl (@Ingested Log) where
  refl database := ⟨⟨_, _, rfl⟩, ⟨[], by simp, by simp⟩, ⟨[], by simp, by simp⟩⟩

instance : IsTrans (Database Log) Ingested where
  trans first second third left right := by
    obtain ⟨⟨events, jobs, isSecond⟩, ⟨firstEvents, eventRows, known⟩,
      ⟨firstJobs, jobRows, queued⟩⟩ := left
    obtain ⟨⟨laterEvents, laterJobs, isThird⟩,
      ⟨secondEvents, laterRows, laterKnown⟩,
      ⟨secondJobs, laterJobRows, laterQueued⟩⟩ := right
    have sameTenants : second.tenants = first.tenants := by rw [isSecond]
    refine ⟨⟨laterEvents, laterJobs, by rw [isThird, isSecond]⟩,
      ⟨firstEvents ++ secondEvents, ?_, ?_⟩,
      ⟨firstJobs ++ secondJobs, ?_, ?_⟩⟩
    · rw [laterRows, eventRows, List.append_assoc]
    · intro event member
      rcases List.mem_append.mp member with inFirst | inSecond
      · exact known event inFirst
      · rw [← sameTenants]
        exact laterKnown event inSecond
    · rw [laterJobRows, jobRows, List.append_assoc]
    · intro job member
      rcases List.mem_append.mp member with inFirst | inSecond
      · exact queued job inFirst
      · exact laterQueued job inSecond

theorem queueOrCompare_ok {job : JobRow} {row : EventRow} {accepted : Bool}
    {result : Unit}
    (ran : queueOrCompare job row accepted before = .ok (result, after)) :
    (accepted = false ∧ after = before) ∨
      (accepted = true ∧ ∃ jobs, after = { before with jobs } ∧
        jobs.rows = before.jobs.rows ++ [job]) := by
  cases accepted with
  | true => exact .inr ⟨rfl, insertJob_ok ran⟩
  | false =>
      obtain ⟨read, atRead, got, compared⟩ := Transaction.run_bind_ok.mp ran
      cases got
      cases found : before.events.rows.find?
          (·.hasKey row.tenantId row.eventId) with
      | none =>
          rw [found] at compared
          cases compared
      | some existing =>
          rw [found] at compared
          exact .inl ⟨rfl, (Transaction.run_require_ok.mp compared).2⟩

theorem ingestOnConnection_follows (library : Library) (tenantId : String)
    (receivedAt : Timestamp) (event : SecurityEvent) :
    Transaction.Follows Ingested
      (ingestOnConnection library tenantId receivedAt event :
        Program Log IngestResult) := by
  intro before result after ran
  unfold ingestOnConnection at ran
  obtain ⟨accepted, middle, inserted, afterEvent⟩ :=
    Transaction.run_bind_ok.mp ran
  obtain ⟨_, last, queued, returned⟩ := Transaction.run_bind_ok.mp afterEvent
  cases returned
  rcases insertEventOrIgnore_ok inserted with
    ⟨refused, isMiddle⟩ | ⟨taken, known, events, isMiddle, eventRows⟩
  · rcases queueOrCompare_ok queued with ⟨_, isLast⟩ | ⟨contrary, _⟩
    · rw [isLast, isMiddle]
      exact Std.Refl.refl before
    · rw [refused] at contrary
      cases contrary
  · rcases queueOrCompare_ok queued with
      ⟨contrary, _⟩ | ⟨_, jobs, isLast, jobRows⟩
    · rw [taken] at contrary
      cases contrary
    · subst isMiddle
      subst isLast
      refine ⟨⟨events, jobs, rfl⟩, ⟨_, eventRows, ?_⟩, ⟨_, jobRows, ?_⟩⟩
      · intro row member
        rw [List.mem_singleton.mp member]
        exact known
      · intro job member
        exact ⟨library, tenantId, event.eventId, receivedAt,
          List.mem_singleton.mp member⟩

theorem ingestEvents_follows (library : Library) (tenantId : String)
    (events : List SecurityEvent) (receivedAt : Timestamp) :
    Transaction.Follows Ingested
      (ingestEvents library tenantId events receivedAt :
        Program Log (List IngestResult)) := by
  apply Transaction.Follows.bind (Transaction.Follows.require _ _)
  intro _
  apply Transaction.Follows.bind (Transaction.Follows.require _ _)
  intro _
  apply Transaction.Follows.mapM
  intro event _
  exact ingestOnConnection_follows library tenantId receivedAt event

/-! ## One alert -/

/-- The link of an alert to a case was added, or was there. -/
def Linked (row : CaseAlertRow) (before after : Database Log) : Prop :=
  after.caseAlerts.rows = before.caseAlerts.rows ++ [row] ∨
    after.caseAlerts = before.caseAlerts ∧
      ∃ link ∈ before.caseAlerts.rows, link.clash row = true

/-- The alert opened a case, or joined the open case with its key. -/
inductive Aggregated (library : Library) (event : EventRow)
    (alert : DetectionAlert) (now : Timestamp)
    (before after : Database Log) : Prop
  | opened
      (known : event.tenantId ∈ before.tenants)
      (cases : after.cases.rows =
        before.cases.rows ++ [newCase library event alert now])
      (linked : Linked ⟨event.tenantId, caseIdOf library event.tenantId
        alert.alertId, alert.alertId, now⟩ before after)
  | joined (active : CaseRow) (stored : active ∈ before.cases.rows)
      (isOpen : active.openWith event.tenantId
        (alertKey library event alert.ruleId alert.actor) = true)
      (cases : after.cases.rows = before.cases.rows.map
        (Table.applyWhere (·.hasKey active.tenantId active.caseId)
          (·.addAlert (casePriority alert.severity) now)))
      (linked : Linked ⟨event.tenantId, active.caseId, alert.alertId, now⟩
        before after)

/-- A new alert of an event was stored and aggregated. -/
structure AlertStored (library : Library) (decision : Decision)
    (event : EventRow) (alert : DetectionAlert) (now : Timestamp)
    (before after : Database Log) : Prop where
  frame : ∃ alerts cases caseAlerts,
    after = { before with alerts, cases, caseAlerts }
  ofEvent : alert.eventId = event.eventId
  alerts : after.alerts.rows =
    before.alerts.rows ++ [alertRow decision event alert]
  fresh : ∀ stored ∈ before.alerts.rows,
    stored.hasKey event.tenantId alert.alertId = false
  aggregated : Aggregated library event alert now before after

theorem activeCase_ok {tenantId semanticKey : String} {row : CaseRow}
    (ran : activeCase tenantId semanticKey before = .ok (row, after)) :
    after = before ∧
      before.cases.rows.find? (·.openWith tenantId semanticKey) = some row := by
  obtain ⟨read, atRead, got, found⟩ := Transaction.run_bind_ok.mp ran
  cases got
  cases isFound : before.cases.rows.find?
      (·.openWith tenantId semanticKey) with
  | none =>
      rw [isFound] at found
      cases found
  | some stored =>
      rw [isFound] at found
      cases found
      exact ⟨rfl, rfl⟩

theorem insertCaseOrIgnore_ok {row : CaseRow} {opened : Bool}
    (ran : insertCaseOrIgnore row before = .ok (opened, after)) :
    (opened = false ∧ after = before ∧
      ∃ stored ∈ before.cases.rows, stored.clash row = true) ∨
      (opened = true ∧ row.tenantId ∈ before.tenants ∧
        (∀ stored ∈ before.cases.rows, stored.clash row = false) ∧
        ∃ cases, after = { before with cases } ∧
          cases.rows = before.cases.rows ++ [row]) := by
  unfold insertCaseOrIgnore at ran
  split at ran
  · next ignored =>
      cases ran
      exact .inl ⟨rfl, rfl, Table.insert_eq_none.mp ignored⟩
  · next cases inserted =>
      split at ran
      · next known =>
          cases ran
          obtain ⟨noClash, rows⟩ := Table.insert_eq_some.mp inserted
          exact .inr ⟨rfl, known, noClash, cases, rfl, rows⟩
      · cases ran

theorem insertCaseAlertOrIgnore_ok {row : CaseAlertRow} {result : Unit}
    (ran : insertCaseAlertOrIgnore row before = .ok (result, after)) :
    (∃ caseAlerts, after = { before with caseAlerts }) ∧
      Linked row before after := by
  unfold insertCaseAlertOrIgnore at ran
  split at ran
  · next ignored =>
      cases ran
      exact ⟨⟨_, rfl⟩, .inr ⟨rfl, Table.insert_eq_none.mp ignored⟩⟩
  · next caseAlerts inserted =>
      cases ran
      exact ⟨⟨caseAlerts, rfl⟩, .inl (Table.insert_eq_some.mp inserted).2⟩

theorem openWith_newCase (library : Library) (event : EventRow)
    (alert : DetectionAlert) (now : Timestamp) :
    (newCase library event alert now).openWith event.tenantId
      (alertKey library event alert.ruleId alert.actor) = true := by
  simp [CaseRow.openWith, newCase]

/-- A case that does not clash with a new case does not have its key open. -/
theorem not_openWith_of_not_clash {library : Library} {event : EventRow}
    {alert : DetectionAlert} {now : Timestamp} {stored : CaseRow}
    (noClash : stored.clash (newCase library event alert now) = false) :
    stored.openWith event.tenantId
      (alertKey library event alert.ruleId alert.actor) = false := by
  unfold CaseRow.clash at noClash
  rw [Bool.or_eq_false_iff] at noClash
  simpa [newCase] using noClash.2

theorem joinCase_ok {opened : Bool} {active : CaseRow} {priority : Priority}
    {now : Timestamp} {result : Unit}
    (ran : joinCase opened active priority now before = .ok (result, after)) :
    (opened = true ∧ after = before) ∨
      (opened = false ∧ ∃ cases, after = { before with cases } ∧
        cases.rows = before.cases.rows.map
          (Table.applyWhere (·.hasKey active.tenantId active.caseId)
            (·.addAlert priority now))) := by
  cases opened with
  | true =>
      cases ran
      exact .inl ⟨rfl, rfl⟩
  | false =>
      obtain ⟨count, last, updated, returned⟩ :=
        Transaction.run_bind_ok.mp ran
      cases returned
      exact .inr ⟨rfl, updateCases_ok updated⟩

theorem aggregateAlert_ok {library : Library} {event : EventRow}
    {alert : DetectionAlert} {now : Timestamp} {count : Nat}
    (ran : aggregateAlert library event alert now true before =
      .ok (count, after)) :
    (∃ cases caseAlerts, after = { before with cases, caseAlerts }) ∧
      Aggregated library event alert now before after := by
  obtain ⟨opened, atCase, inserted, afterCase⟩ :=
    Transaction.run_bind_ok.mp ran
  obtain ⟨active, atActive, found, afterActive⟩ :=
    Transaction.run_bind_ok.mp afterCase
  obtain ⟨_, atLink, link, afterLink⟩ :=
    Transaction.run_bind_ok.mp afterActive
  obtain ⟨_, last, joined, returned⟩ := Transaction.run_bind_ok.mp afterLink
  cases returned
  obtain ⟨isActive, isFound⟩ := activeCase_ok found
  obtain ⟨⟨caseAlerts, isLink⟩, linked⟩ := insertCaseAlertOrIgnore_ok link
  rcases insertCaseOrIgnore_ok inserted with
    ⟨notOpened, isCase, -⟩ | ⟨isOpened, known, noClash, cases, isCase, rows⟩
  · subst isCase
    subst isActive
    subst isLink
    rcases joinCase_ok joined with ⟨contrary, -⟩ | ⟨-, cases, isLast, rows⟩
    · rw [notOpened] at contrary
      cases contrary
    · subst isLast
      have stored := List.mem_of_find?_eq_some isFound
      have isOpen := List.find?_some isFound
      have tenant : active.tenantId = event.tenantId :=
        (of_decide_eq_true isOpen).1
      exact ⟨⟨cases, caseAlerts, rfl⟩,
        .joined active stored isOpen rows linked⟩
  · subst isCase
    subst isActive
    subst isLink
    -- The new case is the only open one with its key.
    have noneBefore : before.cases.rows.find?
        (·.openWith event.tenantId
          (alertKey library event alert.ruleId alert.actor)) = none := by
      rw [List.find?_eq_none]
      intro stored member
      rw [not_openWith_of_not_clash (noClash stored member)]
      exact Bool.false_ne_true
    have isNew : active = newCase library event alert now := by
      dsimp only at isFound
      rw [rows, List.find?_append, noneBefore, Option.none_or,
        List.find?_cons_of_pos
          (openWith_newCase library event alert now)] at isFound
      exact (Option.some.inj isFound).symm
    rcases joinCase_ok joined with ⟨-, isLast⟩ | ⟨contrary, -⟩
    · rw [isLast]
      refine ⟨⟨cases, caseAlerts, rfl⟩, .opened known rows ?_⟩
      rw [isNew] at linked
      exact linked
    · rw [isOpened] at contrary
      cases contrary

theorem persistAlert_ok {library : Library} {decision : Decision}
    {event : EventRow} {alert : DetectionAlert} {now : Timestamp}
    {count : Nat}
    (ran : persistAlert library decision event now alert before =
      .ok (count, after)) :
    after = before ∨
      AlertStored library decision event alert now before after := by
  unfold persistAlert at ran
  obtain ⟨_, checked, check, afterCheck⟩ := Transaction.run_bind_ok.mp ran
  obtain ⟨inserted, middle, stored, aggregated⟩ :=
    Transaction.run_bind_ok.mp afterCheck
  obtain ⟨ofEvent, isChecked⟩ := Transaction.run_require_ok.mp check
  subst isChecked
  unfold insertAlertOrIgnore at stored
  split at stored
  · cases stored
    cases aggregated
    exact .inl rfl
  · next alerts insertion =>
      cases stored
      obtain ⟨fresh, rows⟩ := Table.insert_eq_some.mp insertion
      obtain ⟨⟨cases, caseAlerts, isAfter⟩, isAggregated⟩ :=
        aggregateAlert_ok aggregated
      refine .inr ⟨⟨alerts, cases, caseAlerts, isAfter⟩, ofEvent, ?_,
        fresh, ?_⟩
      · rw [isAfter]
        exact rows
      · cases isAggregated with
        | opened known cases linked => exact .opened known cases linked
        | joined active stored isOpen cases linked =>
            exact .joined active stored isOpen cases linked

/-- Some of the alerts of one event were stored, in any order. -/
def AlertsStored (library : Library) (decision : Decision)
    (event : EventRow) (now : Timestamp) (alerts : List DetectionAlert) :
    Database Log → Database Log → Prop :=
  Relation.ReflTransGen fun before after =>
    ∃ alert ∈ alerts, AlertStored library decision event alert now before after

section

variable (library : Library) (decision : Decision) (event : EventRow)
  (now : Timestamp) (alerts : List DetectionAlert)

instance : Std.Refl (@AlertsStored Log library decision event now alerts) where
  refl _ := .refl

instance : IsTrans (Database Log)
    (AlertsStored library decision event now alerts) where
  trans _ _ _ first second := Relation.ReflTransGen.trans first second

theorem persistAlert_follows {alert : DetectionAlert}
    (member : alert ∈ alerts) :
    Transaction.Follows (AlertsStored library decision event now alerts)
      (persistAlert library decision event now alert : Program Log Nat) := by
  intro before count after ran
  rcases persistAlert_ok ran with same | stored
  · rw [same]
    exact .refl
  · exact .single ⟨alert, member, stored⟩

theorem persistAlerts_follow :
    Transaction.Follows (AlertsStored library decision event now alerts)
      (alerts.mapM (persistAlert library decision event now) :
        Program Log (List Nat)) := by
  apply Transaction.Follows.mapM
  intro alert member
  exact persistAlert_follows library decision event now alerts member

end

/-- Only the tables of alerts, cases and links changed. -/
theorem AlertsStored.frame {library : Library} {decision : Decision}
    {event : EventRow} {now : Timestamp} {alerts : List DetectionAlert}
    (stored : AlertsStored library decision event now alerts before after) :
    ∃ alerts cases caseAlerts,
      after = { before with alerts, cases, caseAlerts } := by
  induction stored with
  | refl => exact ⟨_, _, _, rfl⟩
  | tail _ step induction =>
      obtain ⟨alerts, cases, caseAlerts, isMiddle⟩ := induction
      obtain ⟨alert, -, ⟨last, lastCases, lastLinks, isLast⟩, -⟩ := step
      exact ⟨last, lastCases, lastLinks, by rw [isLast, isMiddle]⟩

/-! ## Completion -/

theorem jobHasKey_iff {job : JobRow} {tenantId jobId : String} :
    job.hasKey tenantId jobId = true ↔
      job.tenantId = tenantId ∧ job.jobId = jobId := by
  simp [JobRow.hasKey]

theorem ownedJob_ok {tenantId jobId workerId : String} {now : Timestamp}
    {event : EventRow}
    (ran : ownedJob tenantId jobId workerId now before = .ok (event, after)) :
    after = before ∧ event ∈ before.events.rows ∧
      ∃ job ∈ before.jobs.rows, job.hasKey tenantId jobId = true ∧
        job.ownedUntil workerId now = true ∧
        event.hasKey job.tenantId job.eventId = true := by
  unfold ownedJob at ran
  obtain ⟨read, atRead, got, found⟩ := Transaction.run_bind_ok.mp ran
  cases got
  cases isJob : before.jobs.rows.find? (·.hasKey tenantId jobId) with
  | none =>
      rw [isJob] at found
      cases found
  | some job =>
      rw [isJob] at found
      dsimp only at found
      cases isEvent : before.events.rows.find?
          (·.hasKey job.tenantId job.eventId) with
      | none =>
          rw [isEvent] at found
          cases found
      | some stored =>
          rw [isEvent] at found
          dsimp only at found
          split at found
          · next owned =>
              cases found
              exact ⟨rfl, List.mem_of_find?_eq_some isEvent, job,
                List.mem_of_find?_eq_some isJob, List.find?_some isJob, owned,
                List.find?_some isEvent⟩
          · cases found

/-- A worker completed a job of which it owned a current lease. -/
structure Completed (library : Library) (decision : Decision)
    (workerId : String) (now : Timestamp) (alerts : List DetectionAlert)
    (job : JobRow) (event : EventRow) (before after : Database Log) :
    Prop where
  stored : job ∈ before.jobs.rows
  owned : job.ownedUntil workerId now = true
  source : event ∈ before.events.rows
  ofJob : event.hasKey job.tenantId job.eventId = true
  work : ∃ middle jobs,
    AlertsStored library decision event now alerts before middle ∧
      after = { middle with jobs }
  jobs : after.jobs.rows = before.jobs.rows.map
    (Table.applyWhere (·.hasKey job.tenantId job.jobId) (·.succeed now))

theorem persistAlertsAndCompleteJob_ok {library : Library}
    {tenantId jobId workerId : String} {alerts : List DetectionAlert}
    {now : Timestamp} {decision : Decision} {result : AlertPersistenceResult}
    (ran : persistAlertsAndCompleteJob library tenantId jobId workerId alerts
      now decision before = .ok (result, after)) :
    ∃ job event, job.hasKey tenantId jobId = true ∧
      Completed library decision workerId now alerts job event before
        after := by
  unfold persistAlertsAndCompleteJob at ran
  obtain ⟨event, atJob, owned, afterJob⟩ := Transaction.run_bind_ok.mp ran
  obtain ⟨counts, middle, persisted, afterAlerts⟩ :=
    Transaction.run_bind_ok.mp afterJob
  obtain ⟨_, last, updated, returned⟩ :=
    Transaction.run_bind_ok.mp afterAlerts
  cases returned
  obtain ⟨isBefore, source, job, stored, keyed, current, ofJob⟩ :=
    ownedJob_ok owned
  subst isBefore
  have work := persistAlerts_follow library decision event now alerts _ _ _
    persisted
  obtain ⟨jobs, isAfter, rows⟩ := updateJobs_ok updated
  obtain ⟨tenant, identifier⟩ := jobHasKey_iff.mp keyed
  refine ⟨job, event, keyed, stored, current, source, ofJob,
    ⟨middle, jobs, work, isAfter⟩, ?_⟩
  obtain ⟨_, _, _, isMiddle⟩ := work.frame
  have sameJobs : middle.jobs = atJob.jobs := by rw [isMiddle]
  rw [isAfter, tenant, identifier, ← sameJobs]
  exact rows

/-! ## Analysts -/

/-- What an analyst may do to a case, and the dispositions that records. -/
inductive CaseWork (database : Database Log) (row : CaseRow) :
    (CaseRow → CaseRow) → List DispositionRow → Prop
  | touch (now : Timestamp) : CaseWork database row (touched now) []
  | assign (assignee : Option String) (now : Timestamp) :
      CaseWork database row (fun stored => { stored with
        assigneeUserId := assignee
        updatedAt := now
        version := stored.version + 1 }) []
  | move (target : CaseStatus) (now : Timestamp)
      (permitted : checkTransition database row target = .ok ()) :
      CaseWork database row (movedTo target now) []
  | dispose (disposition : DispositionRow) (now : Timestamp)
      (tenant : disposition.tenantId = row.tenantId)
      (case : disposition.caseId = row.caseId)
      (cycle : disposition.investigationCycle = row.investigationCycle) :
      CaseWork database row (touched now) [disposition]

/-- An analyst worked on one stored case. -/
structure Analysed (row : CaseRow) (change : CaseRow → CaseRow)
    (recorded : List DispositionRow) (before after : Database Log) :
    Prop where
  stored : row ∈ before.cases.rows
  work : CaseWork before row change recorded
  frame : ∃ cases activity dispositions log,
    after = { before with cases, activity, dispositions, audit := log }
  cases : after.cases.rows = before.cases.rows.map
    (Table.applyWhere (·.hasKey row.tenantId row.caseId) change)
  dispositions : after.dispositions.rows =
    before.dispositions.rows ++ recorded

theorem caseHasKey_iff {row : CaseRow} {tenantId caseId : String} :
    row.hasKey tenantId caseId = true ↔
      row.tenantId = tenantId ∧ row.caseId = caseId := by
  simp [CaseRow.hasKey]

variable {service : Service Log} {principal : SessionPrincipal}

theorem addNote_ok {activityId caseId note : String} {now : Timestamp}
    {result : Unit}
    (ran : addNote service principal activityId caseId note now before =
      .ok (result, after)) :
    ∃ row change recorded, Analysed row change recorded before after := by
  unfold addNote at ran
  obtain ⟨_, first, allowed, afterAllowed⟩ := Transaction.run_bind_ok.mp ran
  obtain ⟨_, second, bounded, afterBounded⟩ :=
    Transaction.run_bind_ok.mp afterAllowed
  obtain ⟨row, third, required, afterCase⟩ :=
    Transaction.run_bind_ok.mp afterBounded
  obtain ⟨_, fourth, noted, afterNote⟩ := Transaction.run_bind_ok.mp afterCase
  obtain ⟨_, fifth, touch, audited⟩ := Transaction.run_bind_ok.mp afterNote
  obtain ⟨_, touchedAt, updated, returned⟩ := Transaction.run_bind_ok.mp touch
  cases returned
  have isFirst := (Transaction.run_ofExcept_eq_ok.mp allowed).2
  have isSecond := (Transaction.run_require_ok.mp bounded).2
  obtain ⟨isThird, stored, keyed⟩ := requireCase_ok required
  obtain ⟨activity, isFourth⟩ := insertActivity_ok noted
  obtain ⟨cases, isFifth, rows⟩ := updateCases_ok updated
  obtain ⟨log, isAfter⟩ := audit_ok audited
  subst isFirst
  subst isSecond
  subst isThird
  subst isFourth
  subst isFifth
  subst isAfter
  obtain ⟨tenant, identifier⟩ := caseHasKey_iff.mp keyed
  refine ⟨row, _, [], stored, .touch now, ⟨cases, activity, _, log, rfl⟩, ?_,
    (List.append_nil _).symm⟩
  rw [tenant, identifier]
  exact rows

theorem assign_ok {activityId caseId : String}
    {assigneeUserId : Option String} {now : Timestamp} {result : Unit}
    (ran : assign service principal activityId caseId assigneeUserId now
      before = .ok (result, after)) :
    ∃ row change recorded, Analysed row change recorded before after := by
  unfold assign at ran
  obtain ⟨_, first, allowed, afterAllowed⟩ := Transaction.run_bind_ok.mp ran
  obtain ⟨_, second, bounded, afterBounded⟩ :=
    Transaction.run_bind_ok.mp afterAllowed
  obtain ⟨row, third, required, afterCase⟩ :=
    Transaction.run_bind_ok.mp afterBounded
  obtain ⟨_, fourth, different, afterDifferent⟩ :=
    Transaction.run_bind_ok.mp afterCase
  obtain ⟨read, fifth, got, afterRead⟩ :=
    Transaction.run_bind_ok.mp afterDifferent
  obtain ⟨_, sixth, available, afterAvailable⟩ :=
    Transaction.run_bind_ok.mp afterRead
  obtain ⟨_, seventh, updated, afterUpdate⟩ :=
    Transaction.run_bind_ok.mp afterAvailable
  obtain ⟨_, eighth, noted, audited⟩ := Transaction.run_bind_ok.mp afterUpdate
  have isFirst := (Transaction.run_ofExcept_eq_ok.mp allowed).2
  have isSecond := (Transaction.run_require_ok.mp bounded).2
  obtain ⟨isThird, stored, keyed⟩ := requireCase_ok required
  have isFourth := (Transaction.run_require_ok.mp different).2
  cases got
  have isSixth := (Transaction.run_require_ok.mp available).2
  obtain ⟨cases, isSeventh, rows⟩ := updateCases_ok updated
  obtain ⟨activity, isEighth⟩ := insertActivity_ok noted
  obtain ⟨log, isAfter⟩ := audit_ok audited
  subst isFirst
  subst isSecond
  subst isThird
  subst isFourth
  subst isSixth
  subst isSeventh
  subst isEighth
  subst isAfter
  obtain ⟨tenant, identifier⟩ := caseHasKey_iff.mp keyed
  refine ⟨row, _, [], stored, .assign (normalizedAssignee assigneeUserId) now,
    ⟨cases, activity, _, log, rfl⟩, ?_, (List.append_nil _).symm⟩
  rw [tenant, identifier]
  exact rows

/-- What a successful transition did. -/
theorem transition_ok {activityId caseId targetText : String}
    {now : Timestamp} {result : Unit}
    (ran : Cases.transition service principal activityId caseId targetText now
      before = .ok (result, after)) :
    ∃ row target, row.hasKey principal.tenantId caseId = true ∧
      targetStatus targetText = .ok target ∧
      checkTransition before row target = .ok () ∧
      Analysed row (movedTo target now) [] before after := by
  unfold Cases.transition at ran
  obtain ⟨_, first, allowed, afterAllowed⟩ := Transaction.run_bind_ok.mp ran
  obtain ⟨target, second, named, afterName⟩ :=
    Transaction.run_bind_ok.mp afterAllowed
  obtain ⟨row, third, required, afterCase⟩ :=
    Transaction.run_bind_ok.mp afterName
  obtain ⟨read, fourth, got, afterRead⟩ :=
    Transaction.run_bind_ok.mp afterCase
  obtain ⟨_, fifth, checked, afterCheck⟩ :=
    Transaction.run_bind_ok.mp afterRead
  obtain ⟨_, sixth, updated, afterUpdate⟩ :=
    Transaction.run_bind_ok.mp afterCheck
  obtain ⟨_, seventh, noted, audited⟩ := Transaction.run_bind_ok.mp afterUpdate
  have isFirst := (Transaction.run_ofExcept_eq_ok.mp allowed).2
  obtain ⟨isTarget, isSecond⟩ := Transaction.run_ofExcept_eq_ok.mp named
  obtain ⟨isThird, stored, keyed⟩ := requireCase_ok required
  cases got
  obtain ⟨permitted, isFifth⟩ := Transaction.run_ofExcept_eq_ok.mp checked
  obtain ⟨cases, isSixth, rows⟩ := updateCases_ok updated
  obtain ⟨activity, isSeventh⟩ := insertActivity_ok noted
  obtain ⟨log, isAfter⟩ := audit_ok audited
  subst isFirst
  subst isSecond
  subst isThird
  subst isFifth
  subst isSixth
  subst isSeventh
  subst isAfter
  obtain ⟨tenant, identifier⟩ := caseHasKey_iff.mp keyed
  refine ⟨row, target, keyed, isTarget, permitted, stored,
    .move target now permitted, ⟨cases, activity, _, log, rfl⟩, ?_,
    (List.append_nil _).symm⟩
  rw [tenant, identifier]
  exact rows

theorem recordDisposition_ok
    {dispositionId activityId caseId status rationale : String}
    {falsePositiveReason : Option String} {now : Timestamp}
    {disposition : DispositionRow}
    (ran : recordDisposition service principal dispositionId activityId caseId
      status rationale falsePositiveReason now before =
        .ok (disposition, after)) :
    ∃ row change recorded, Analysed row change recorded before after := by
  unfold recordDisposition at ran
  obtain ⟨_, first, allowed, afterAllowed⟩ := Transaction.run_bind_ok.mp ran
  obtain ⟨_, second, bounded, afterBounded⟩ :=
    Transaction.run_bind_ok.mp afterAllowed
  obtain ⟨row, third, required, afterCase⟩ :=
    Transaction.run_bind_ok.mp afterBounded
  obtain ⟨read, fourth, got, afterRead⟩ :=
    Transaction.run_bind_ok.mp afterCase
  obtain ⟨_, fifth, inserted, afterInsert⟩ :=
    Transaction.run_bind_ok.mp afterRead
  obtain ⟨_, sixth, noted, afterNote⟩ :=
    Transaction.run_bind_ok.mp afterInsert
  obtain ⟨_, seventh, touch, afterTouch⟩ :=
    Transaction.run_bind_ok.mp afterNote
  obtain ⟨_, eighth, audited, returned⟩ :=
    Transaction.run_bind_ok.mp afterTouch
  obtain ⟨_, touchedAt, updated, touchReturned⟩ :=
    Transaction.run_bind_ok.mp touch
  cases touchReturned
  cases returned
  have isFirst := (Transaction.run_ofExcept_eq_ok.mp allowed).2
  have isSecond := (Transaction.run_ofExcept_eq_ok.mp bounded).2
  obtain ⟨isThird, stored, keyed⟩ := requireCase_ok required
  cases got
  obtain ⟨dispositions, isFifth, dispositionRows⟩ :=
    insertDisposition_ok inserted
  obtain ⟨activity, isSixth⟩ := insertActivity_ok noted
  obtain ⟨cases, isSeventh, rows⟩ := updateCases_ok updated
  obtain ⟨log, isAfter⟩ := audit_ok audited
  subst isFirst
  subst isSecond
  subst isThird
  subst isFifth
  subst isSixth
  subst isSeventh
  subst isAfter
  obtain ⟨tenant, identifier⟩ := caseHasKey_iff.mp keyed
  refine ⟨row, _, _, stored, .dispose _ now tenant.symm rfl rfl,
    ⟨cases, activity, dispositions, log, rfl⟩, ?_, dispositionRows⟩
  rw [tenant, identifier]
  exact rows

end Programs

end Processing

end ControlForge
