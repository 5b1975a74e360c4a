import ControlForge.Processing.Leases

/-!
# What ingestion records

An event that a transaction has taken stays in the store with its content and
with one job.  A batch with an event whose identity is stored with another
content is refused as a whole, and a batch that is stored is taken again
without a change.
-/

namespace ControlForge

namespace Processing

open Store

variable {Log : Type} {library : Library}

/-- The event is stored with its content. -/
def EventStored (library : Library) (tenantId : String) (event : SecurityEvent)
    (database : Database Log) : Prop :=
  ∃ row ∈ database.events.rows,
    row.hasKey tenantId event.eventId = true ∧
      row.payloadSha256 = library.sha256 (canonicalEvent event)

/-- The digest of every event is that of its content, and every event has a
job. -/
structure Recorded (library : Library) (database : Database Log) : Prop where
  digest : ∀ row ∈ database.events.rows,
    row.payloadSha256 = library.sha256 row.payloadJson
  job : ∀ row ∈ database.events.rows, ∃ job ∈ database.jobs.rows,
    job.tenantId = row.tenantId ∧ job.eventId = row.eventId

/-- Events are added with their digests and jobs, and no job changes the
event it is for. -/
structure Records (library : Library) (before after : Database Log) :
    Prop where
  events : ∃ added, after.events.rows = before.events.rows ++ added ∧
    ∀ row ∈ added, row.payloadSha256 = library.sha256 row.payloadJson ∧
      ∃ job ∈ after.jobs.rows,
        job.tenantId = row.tenantId ∧ job.eventId = row.eventId
  jobs : ∀ job ∈ before.jobs.rows, ∃ next ∈ after.jobs.rows,
    next.tenantId = job.tenantId ∧ next.eventId = job.eventId

namespace Records

variable {before after : Database Log}

theorem refl (database : Database Log) : Records library database database :=
  ⟨⟨[], by simp, by simp⟩, fun job member => ⟨job, member, rfl, rfl⟩⟩

theorem trans {first second third : Database Log}
    (left : Records library first second)
    (right : Records library second third) : Records library first third := by
  obtain ⟨⟨earlier, secondRows, earlierRecorded⟩, firstJobs⟩ := left
  obtain ⟨⟨later, thirdRows, laterRecorded⟩, secondJobs⟩ := right
  refine ⟨⟨earlier ++ later, ?_, ?_⟩, ?_⟩
  · rw [thirdRows, secondRows, List.append_assoc]
  · intro row member
    rcases List.mem_append.mp member with isEarlier | isLater
    · obtain ⟨digest, job, stored, tenant, event⟩ :=
        earlierRecorded row isEarlier
      obtain ⟨next, nextStored, nextTenant, nextEvent⟩ :=
        secondJobs job stored
      exact ⟨digest, next, nextStored, nextTenant.trans tenant,
        nextEvent.trans event⟩
    · exact laterRecorded row isLater
  · intro job stored
    obtain ⟨middle, middleStored, tenant, event⟩ := firstJobs job stored
    obtain ⟨next, nextStored, nextTenant, nextEvent⟩ :=
      secondJobs middle middleStored
    exact ⟨next, nextStored, nextTenant.trans tenant, nextEvent.trans event⟩

instance : Std.Refl (@Records Log library) where
  refl := refl

instance : IsTrans (Database Log) (Records library) where
  trans _ _ _ := trans

theorem keeps_row (records : Records library before after) {row : EventRow}
    (stored : row ∈ before.events.rows) : row ∈ after.events.rows := by
  obtain ⟨⟨added, rows, -⟩, -⟩ := records
  rw [rows]
  exact List.mem_append_left _ stored

theorem keeps_event (records : Records library before after)
    {tenantId : String} {event : SecurityEvent}
    (stored : EventStored library tenantId event before) :
    EventStored library tenantId event after := by
  obtain ⟨row, member, isEvent⟩ := stored
  exact ⟨row, records.keeps_row member, isEvent⟩

theorem recorded (records : Records library before after)
    (holds : Recorded library before) : Recorded library after := by
  obtain ⟨⟨added, rows, addedRecorded⟩, jobs⟩ := records
  constructor
  · intro row member
    rw [rows] at member
    rcases List.mem_append.mp member with old | new
    · exact holds.digest row old
    · exact (addedRecorded row new).1
  · intro row member
    rw [rows] at member
    rcases List.mem_append.mp member with old | new
    · obtain ⟨job, stored, tenant, event⟩ := holds.job row old
      obtain ⟨next, nextStored, nextTenant, nextEvent⟩ := jobs job stored
      exact ⟨next, nextStored, nextTenant.trans tenant, nextEvent.trans event⟩
    · exact (addedRecorded row new).2

/-- A transaction that leaves the events alone and rewrites jobs. -/
theorem of_jobs (sameEvents : after.events.rows = before.events.rows)
    {change : JobRow → JobRow}
    (rows : after.jobs.rows = before.jobs.rows.map change)
    (keeps : ∀ job, (change job).tenantId = job.tenantId ∧
      (change job).eventId = job.eventId) : Records library before after := by
  refine ⟨⟨[], by simp [sameEvents], by simp⟩, fun job stored => ?_⟩
  refine ⟨change job, ?_, keeps job⟩
  rw [rows]
  exact List.mem_map_of_mem stored

theorem of_same (sameEvents : after.events.rows = before.events.rows)
    (sameJobs : after.jobs.rows = before.jobs.rows) :
    Records library before after :=
  @of_jobs _ _ _ _ sameEvents id (by simp [sameJobs]) fun _ => ⟨rfl, rfl⟩

end Records

/-! ## One event -/

section Ingestion

variable {tenantId : String} {receivedAt : Timestamp} {event : SecurityEvent}
  {before after : Database Log}

theorem hasKey_iff {row : EventRow} {eventId : String} :
    row.hasKey tenantId eventId = true ↔
      row.tenantId = tenantId ∧ row.eventId = eventId := by
  simp [EventRow.hasKey]

/-- The comparison of an event that was not inserted with the stored one. -/
theorem compare_ok {job : JobRow} {row : EventRow} {result : Unit}
    (ran : queueOrCompare job row false before = .ok (result, after)) :
    after = before ∧ ∃ existing ∈ before.events.rows,
      existing.hasKey row.tenantId row.eventId = true ∧
        existing.payloadSha256 = row.payloadSha256 := by
  obtain ⟨read, atRead, got, compared⟩ := Transaction.run_bind_ok.mp ran
  cases got
  cases found : before.events.rows.find?
      (·.hasKey row.tenantId row.eventId) with
  | none =>
      rw [found] at compared
      cases compared
  | some existing =>
      rw [found] at compared
      obtain ⟨same, isAfter⟩ := Transaction.run_require_ok.mp compared
      exact ⟨isAfter, existing, List.mem_of_find?_eq_some found,
        List.find?_some found, same⟩

/-- An event that is taken is added with its job, or it is the stored one. -/
theorem ingestOnConnection_ok {result : IngestResult}
    (ran : ingestOnConnection library tenantId receivedAt event before =
      .ok (result, after)) :
    Records library before after ∧ EventStored library tenantId event after := by
  unfold ingestOnConnection at ran
  obtain ⟨accepted, middle, inserted, afterEvent⟩ :=
    Transaction.run_bind_ok.mp ran
  obtain ⟨_, last, queued, returned⟩ := Transaction.run_bind_ok.mp afterEvent
  cases returned
  rcases insertEventOrIgnore_ok inserted with
    ⟨rfl, rfl⟩ | ⟨rfl, -, events, rfl, eventRows⟩
  · obtain ⟨rfl, existing, stored, keyed, same⟩ := compare_ok queued
    exact ⟨Records.refl _, existing, stored, keyed, same⟩
  · obtain ⟨jobs, rfl, jobRows⟩ := insertJob_ok queued
    constructor
    · refine ⟨⟨_, eventRows, ?_⟩, ?_⟩
      · intro row member
        rw [List.mem_singleton.mp member]
        refine ⟨rfl, pendingJob library tenantId event.eventId receivedAt, ?_,
          rfl, rfl⟩
        rw [jobRows]
        exact List.mem_append_right _ (List.mem_singleton_self _)
      · intro job stored
        refine ⟨job, ?_, rfl, rfl⟩
        rw [jobRows]
        exact List.mem_append_left _ stored
    · refine ⟨eventRow library tenantId event receivedAt, ?_, ?_, rfl⟩
      · rw [eventRows]
        exact List.mem_append_right _ (List.mem_singleton_self _)
      · exact hasKey_iff.mpr ⟨rfl, rfl⟩

/-- A stored event is taken again without a change. -/
theorem ingestOnConnection_stored
    (stored : EventStored library tenantId event before) :
    ingestOnConnection library tenantId receivedAt event before =
      .ok (⟨false, event.eventId, jobId library tenantId event.eventId⟩,
        before) := by
  obtain ⟨row, member, keyed, same⟩ := stored
  obtain ⟨tenant, identity⟩ := hasKey_iff.mp keyed
  have blocked : before.events.insert
      (eventRow library tenantId event receivedAt) = none := by
    apply Table.insert_eq_none.mpr
    exact ⟨row, member, keyed⟩
  have ignored : insertEventOrIgnore (eventRow library tenantId event receivedAt)
      before = .ok (false, before) := by
    unfold insertEventOrIgnore
    rw [blocked]
  have found : before.events.rows.find? (·.hasKey tenantId event.eventId) =
      some row := by
    apply before.events.find?_eq_some_of_clash member keyed
    intro other otherKeyed
    obtain ⟨otherTenant, otherIdentity⟩ := hasKey_iff.mp otherKeyed
    simp [EventRow.clash, EventRow.hasKey, tenant, identity, otherTenant,
      otherIdentity]
  unfold ingestOnConnection
  rw [Transaction.run_bind, ignored]
  simp only
  rw [Transaction.run_bind]
  have compared : queueOrCompare
      (pendingJob library tenantId event.eventId receivedAt)
      (eventRow library tenantId event receivedAt) false before =
        .ok ((), before) := by
    unfold queueOrCompare
    simp only [Bool.false_eq_true, if_false]
    rw [Transaction.run_bind, Transaction.run_get]
    simp only [eventRow, found]
    exact Transaction.run_require_of same
  rw [compared]
  rfl

end Ingestion

/-! ## A batch -/

section Batch

variable {tenantId : String} {receivedAt : Timestamp}
  {events : List SecurityEvent} {before after : Database Log}

theorem ingestEach_ok {results : List IngestResult}
    (ran : events.mapM (ingestOnConnection library tenantId receivedAt)
      before = .ok (results, after)) :
    Records library before after ∧
      ∀ event ∈ events, EventStored library tenantId event after := by
  induction events generalizing before results with
  | nil =>
      rw [List.mapM_nil] at ran
      cases ran
      exact ⟨Records.refl _, by simp⟩
  | cons event events induction =>
      rw [List.mapM_cons] at ran
      obtain ⟨first, middle, ranFirst, afterFirst⟩ :=
        Transaction.run_bind_ok.mp ran
      obtain ⟨rest, last, ranRest, returned⟩ :=
        Transaction.run_bind_ok.mp afterFirst
      cases returned
      obtain ⟨recordsFirst, storedFirst⟩ := ingestOnConnection_ok ranFirst
      obtain ⟨recordsRest, storedRest⟩ := induction ranRest
      refine ⟨recordsFirst.trans recordsRest, fun other member => ?_⟩
      rcases List.mem_cons.mp member with rfl | inRest
      · exact recordsRest.keeps_event storedFirst
      · exact storedRest other inRest

theorem ingestEvents_ok {results : List IngestResult}
    (ran : ingestEvents library tenantId events receivedAt before =
      .ok (results, after)) :
    (events ≠ [] ∧ events.length ≤ 1000) ∧ Records library before after ∧
      ∀ event ∈ events, EventStored library tenantId event after := by
  obtain ⟨_, first, nonempty, afterFirst⟩ := Transaction.run_bind_ok.mp ran
  obtain ⟨_, second, bounded, each⟩ := Transaction.run_bind_ok.mp afterFirst
  obtain ⟨hasEvents, rfl⟩ := Transaction.run_require_ok.mp nonempty
  obtain ⟨fits, rfl⟩ := Transaction.run_require_ok.mp bounded
  exact ⟨⟨hasEvents, fits⟩, ingestEach_ok each⟩

/-- The results for events that are all stored. -/
def duplicateResults (library : Library) (tenantId : String)
    (events : List SecurityEvent) : List IngestResult :=
  events.map fun event =>
    ⟨false, event.eventId, jobId library tenantId event.eventId⟩

theorem ingestEach_stored
    (stored : ∀ event ∈ events, EventStored library tenantId event before) :
    events.mapM (ingestOnConnection library tenantId receivedAt) before =
      .ok (duplicateResults library tenantId events, before) := by
  induction events with
  | nil => rfl
  | cons event events induction =>
      have first : ingestOnConnection library tenantId receivedAt event before =
          .ok (⟨false, event.eventId, jobId library tenantId event.eventId⟩,
            before) :=
        ingestOnConnection_stored (stored event List.mem_cons_self)
      have rest := induction fun other member =>
        stored other (List.mem_cons_of_mem _ member)
      rw [List.mapM_cons, Transaction.run_bind, first]
      simp only
      rw [Transaction.run_bind, rest]
      rfl

/-- A stored batch is taken again without a change. -/
theorem ingestEvents_stored (nonempty : events ≠ [])
    (bounded : events.length ≤ 1000)
    (stored : ∀ event ∈ events, EventStored library tenantId event before) :
    ingestEvents library tenantId events receivedAt before =
      .ok (duplicateResults library tenantId events, before) := by
  unfold ingestEvents
  rw [Transaction.run_bind, Transaction.run_require_of nonempty]
  simp only
  rw [Transaction.run_bind, Transaction.run_require_of bounded]
  exact ingestEach_stored stored

/-- The stored content of the identity of an event is another one. -/
def Conflicts (tenantId : String) (event : SecurityEvent)
    (database : Database Log) : Prop :=
  ∃ row ∈ database.events.rows,
    row.hasKey tenantId event.eventId = true ∧
      row.payloadJson ≠ canonicalEvent event

theorem stored_row_of_key (stored : EventStored library tenantId event before)
    {row : EventRow} (member : row ∈ before.events.rows)
    (keyed : row.hasKey tenantId event.eventId = true) :
    row.payloadSha256 = library.sha256 (canonicalEvent event) := by
  obtain ⟨other, otherMember, otherKeyed, digest⟩ := stored
  obtain ⟨tenant, identity⟩ := hasKey_iff.mp keyed
  obtain ⟨otherTenant, otherIdentity⟩ := hasKey_iff.mp otherKeyed
  have same : row = other := by
    apply before.events.eq_of_clash member otherMember
    · simp [EventRow.clash, EventRow.hasKey, tenant, identity, otherTenant,
        otherIdentity]
    · simp [EventRow.clash, EventRow.hasKey, tenant, identity, otherTenant,
        otherIdentity]
  rw [same]
  exact digest

/-- A batch with a conflicting event is refused. -/
theorem ingestEvents_conflict (injective : Function.Injective library.sha256)
    (recorded : Recorded library before) {event : SecurityEvent}
    (inBatch : event ∈ events) (conflicts : Conflicts tenantId event before) :
    ∃ failure, (ingestEvents library tenantId events receivedAt).commit
      before = (.error failure, before) := by
  cases outcome : (ingestEvents library tenantId events receivedAt).commit
      before with
  | mk result after =>
      cases result with
      | error failure =>
          rw [Transaction.commit_error outcome]
          exact ⟨failure, rfl⟩
      | ok results =>
          obtain ⟨-, records, stored⟩ :=
            ingestEvents_ok (Transaction.commit_ok outcome)
          obtain ⟨row, member, keyed, differs⟩ := conflicts
          have digest := recorded.digest row member
          have kept := stored_row_of_key (stored event inBatch)
            (records.keeps_row member) keyed
          rw [digest] at kept
          exact absurd (injective kept) differs

end Batch

/-! ## Every transaction -/

section Transactions

variable {before after : Database Log}

theorem applyWhere_keeps_event {selected : JobRow → Bool}
    {change : JobRow → JobRow}
    (keeps : ∀ job, (change job).tenantId = job.tenantId ∧
      (change job).eventId = job.eventId) (job : JobRow) :
    (Table.applyWhere selected change job).tenantId = job.tenantId ∧
      (Table.applyWhere selected change job).eventId = job.eventId := by
  unfold Table.applyWhere
  split
  · exact keeps job
  · exact ⟨rfl, rfl⟩

theorem records_of_change {operation : Operation} {reply : Reply}
    (notIngestion : operation.kind ≠ .ingestion)
    (change : Change library before after operation reply) :
    Records library before after := by
  cases change with
  | ingested kind _ => exact absurd kind notIngestion
  | claimed _ _ _ change =>
      obtain ⟨jobs, isAfter⟩ := change.frame
      apply Records.of_jobs (by rw [isAfter]) change.jobs
      exact applyWhere_keeps_event fun _ => ⟨rfl, rfl⟩
  | unchanged _ same =>
      rw [same]
      exact Records.refl _
  | ended _ _ _ change =>
      obtain ⟨jobs, isAfter⟩ := change.frame
      apply Records.of_jobs (by rw [isAfter]) change.jobs
      exact applyWhere_keeps_event fun _ => ⟨rfl, rfl⟩
  | completed _ change =>
      obtain ⟨middle, jobs, stored, isAfter⟩ := change.work
      obtain ⟨alerts, cases, caseAlerts, isMiddle⟩ := stored.frame
      apply Records.of_jobs (by rw [isAfter, isMiddle]) change.jobs
      exact applyWhere_keeps_event fun _ => ⟨rfl, rfl⟩
  | analysed _ change =>
      obtain ⟨cases, activity, dispositions, log, isAfter⟩ := change.frame
      apply Records.of_same
      · rw [isAfter]
      · rw [isAfter]

theorem records_of_ok {service : Cases.Service Log} {operation : Operation}
    {reply : Reply}
    (ran : program service operation before = .ok (reply, after)) :
    Records service.library before after := by
  have change := change_of_ok ran
  cases operation with
  | ingest tenantId events receivedAt =>
      obtain ⟨results, ingested, -⟩ := bind_pure_ok ran
      exact (ingestEvents_ok ingested).2.1
  | ingestOne tenantId event receivedAt =>
      obtain ⟨result, ingested, -⟩ := bind_pure_ok ran
      exact (ingestOnConnection_ok ingested).1
  | lease | persist | complete | fail | addNote | assign | transition
  | recordDisposition => exact records_of_change OperationKind.noConfusion change

theorem records_of_step {service : Cases.Service Log} {event : Event}
    (step : (system service).step before event after) :
    Records service.library before after := by
  rcases step_cases service step with ⟨-, -, rfl⟩ | ⟨reply, -, ran⟩
  · exact Records.refl _
  · exact records_of_ok ran

end Transactions

end Processing

end ControlForge
