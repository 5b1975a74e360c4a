import ControlForge.Processing.Durability
import ControlForge.Processing.Recording

/-!
# Alerts and the schedule of the workers

From the first lease of a job of a tenant on, its events stay as they are.
Whoever evaluates an event then, and however often, evaluates it with the same
history; of the alerts with one identifier the first one is stored.  What a
tenant has in the end is therefore a matter of its events alone.
-/

namespace ControlForge

namespace Processing

open Store Cases Detection

/-! ## The events of a tenant -/

section Rows

variable {Log : Type}

def eventsOf (tenantId : String) (database : Database Log) : List EventRow :=
  database.events.rows.filter (·.tenantId = tenantId)

def alertsOf (tenantId : String) (database : Database Log) : List AlertRow :=
  database.alerts.rows.filter (·.tenantId = tenantId)

/-- A row without the time at which the event was received. -/
def untimed (row : EventRow) : EventRow :=
  { row with receivedAt := 0 }

/-- The tenant has the same events in both databases. -/
def SameEvents (tenantId : String) (left right : Database Log) : Prop :=
  ((eventsOf tenantId left).map untimed).Perm
    ((eventsOf tenantId right).map untimed)

variable {tenantId : String} {left right : Database Log}

theorem mem_eventsOf {row : EventRow} :
    row ∈ eventsOf tenantId left ↔
      row ∈ left.events.rows ∧ row.tenantId = tenantId := by
  simp [eventsOf]

theorem mem_alertsOf {row : AlertRow} :
    row ∈ alertsOf tenantId left ↔
      row ∈ left.alerts.rows ∧ row.tenantId = tenantId := by
  simp [alertsOf]

theorem SameEvents.row (same : SameEvents tenantId left right)
    {row : EventRow} (stored : row ∈ left.events.rows)
    (tenant : row.tenantId = tenantId) :
    ∃ other ∈ right.events.rows, other.tenantId = tenantId ∧
      untimed other = untimed row := by
  have listed : untimed row ∈ (eventsOf tenantId left).map untimed :=
    List.mem_map_of_mem (mem_eventsOf.mpr ⟨stored, tenant⟩)
  obtain ⟨other, isOther, sameRow⟩ := List.mem_map.mp (same.subset listed)
  obtain ⟨otherStored, otherTenant⟩ := mem_eventsOf.mp isOther
  exact ⟨other, otherStored, otherTenant, sameRow⟩

theorem eventRow_eq_of_key {row other : EventRow}
    (stored : row ∈ left.events.rows) (otherStored : other ∈ left.events.rows)
    (tenant : row.tenantId = other.tenantId)
    (identifier : row.eventId = other.eventId) : row = other := by
  apply left.events.eq_of_clash stored otherStored
  · exact hasKey_iff.mpr ⟨tenant, identifier⟩
  · exact hasKey_iff.mpr ⟨tenant.symm, identifier.symm⟩

end Rows

/-! ## Evaluations -/

section Evaluations

variable {F Log : Type} {detector : Detector F} {tenantId : String}
  {left right : Database Log}

/-- A stored event of the tenant raises the alerts. -/
structure Evaluates (detector : Detector F) (tenantId : String)
    (database : Database Log) (event : EventRow)
    (alerts : List DetectionAlert) : Prop where
  stored : event ∈ database.events.rows
  tenant : event.tenantId = tenantId
  raised : evaluateStored detector tenantId (readEvent detector event)
    database = .ok alerts

/-- The alert is the first one with its identifier. -/
def IsFirst (alerts : List DetectionAlert) (alert : DetectionAlert) : Prop :=
  alerts.find? (·.alertId = alert.alertId) = some alert

/-- The row is that of the first alert with its identifier that an event
raises. -/
def Expected (detector : Detector F) (tenantId : String)
    (database : Database Log) (row : AlertRow) : Prop :=
  ∃ event alerts alert, Evaluates detector tenantId database event alerts ∧
    IsFirst alerts alert ∧ row = alertRow detector.decision event alert

/-- Alerts with one identifier are of one rule and one event. -/
def DistinctAlertIds (detector : Detector F) (tenantId : String)
    (database : Database Log) : Prop :=
  ∀ event alerts other others,
    Evaluates detector tenantId database event alerts →
    Evaluates detector tenantId database other others →
    ∀ alert ∈ alerts, ∀ otherAlert ∈ others,
      alert.alertId = otherAlert.alertId →
        alert.ruleId = otherAlert.ruleId ∧ alert.eventId = otherAlert.eventId

theorem readEvent_untimed (row : EventRow) :
    readEvent detector (untimed row) = readEvent detector row :=
  rfl

theorem alertRow_untimed (decision : Decision) (row : EventRow)
    (alert : DetectionAlert) :
    alertRow decision (untimed row) alert = alertRow decision row alert :=
  rfl

theorem readEvent_congr {row other : EventRow}
    (same : untimed row = untimed other) :
    readEvent detector row = readEvent detector other := by
  rw [← readEvent_untimed row, same, readEvent_untimed]

theorem eventId_congr {row other : EventRow}
    (same : untimed row = untimed other) : row.eventId = other.eventId := by
  have sameId := congrArg EventRow.eventId same
  exact sameId

theorem otherEvents_stored (event : SecurityEvent) :
    otherEvents (storedEvents detector left) tenantId event =
      ((eventsOf tenantId left).map (readEvent detector)).filter
        (·.eventId ≠ event.eventId) := by
  unfold otherEvents storedEvents eventsOf
  rw [List.filter_map, List.map_map, List.filter_map, List.filter_filter]
  congr 1
  apply List.filter_congr
  intro row _
  simp [Bool.and_comm]

/-- An evaluation depends on the events of the tenant only. -/
theorem evaluateStored_congr (same : SameEvents tenantId left right)
    (event : SecurityEvent) :
    evaluateStored detector tenantId event left =
      evaluateStored detector tenantId event right := by
  have read (database : Database Log) :
      (eventsOf tenantId database).map (readEvent detector) =
        ((eventsOf tenantId database).map untimed).map
          (readEvent detector) := by
    rw [List.map_map]
    rfl
  have history : (otherEvents (storedEvents detector left) tenantId event).Perm
      (otherEvents (storedEvents detector right) tenantId event) := by
    rw [otherEvents_stored, otherEvents_stored, read left, read right]
    exact (same.map _).filter _
  unfold evaluateStored
  rw [loadDetectionHistory_congr history]

theorem Evaluates.transfer (same : SameEvents tenantId left right)
    {event : EventRow} {alerts : List DetectionAlert}
    (evaluates : Evaluates detector tenantId left event alerts) :
    ∃ other, untimed other = untimed event ∧
      Evaluates detector tenantId right other alerts := by
  obtain ⟨other, stored, tenant, sameRow⟩ :=
    same.row evaluates.stored evaluates.tenant
  refine ⟨other, sameRow, stored, tenant, ?_⟩
  rw [readEvent_congr sameRow, ← evaluateStored_congr same]
  exact evaluates.raised

theorem Evaluates.unique {event : EventRow}
    {alerts others : List DetectionAlert}
    (evaluates : Evaluates detector tenantId left event alerts)
    (other : Evaluates detector tenantId left event others) :
    alerts = others :=
  Except.ok.inj (evaluates.raised.symm.trans other.raised)

theorem Expected.transfer (same : SameEvents tenantId left right)
    {row : AlertRow} (expected : Expected detector tenantId left row) :
    Expected detector tenantId right row := by
  obtain ⟨event, alerts, alert, evaluates, isFirst, isRow⟩ := expected
  obtain ⟨other, sameRow, otherEvaluates⟩ := evaluates.transfer same
  refine ⟨other, alerts, alert, otherEvaluates, isFirst, ?_⟩
  rw [isRow, ← alertRow_untimed, ← sameRow, alertRow_untimed]

theorem DistinctAlertIds.transfer (same : SameEvents tenantId left right)
    (distinct : DistinctAlertIds detector tenantId left) :
    DistinctAlertIds detector tenantId right := by
  intro event alerts other others evaluates otherEvaluates
  obtain ⟨_, -, before⟩ := evaluates.transfer same.symm
  obtain ⟨_, -, otherBefore⟩ := otherEvaluates.transfer same.symm
  exact distinct _ _ _ _ before otherBefore

end Evaluations

/-! ## Ingestion before the first lease -/

section Ingestion

variable {Log : Type} {library : Library} {before after : Database Log}
  {tenantId tenant : String}

/-- A job of the tenant has been leased. -/
def Started (tenantId : String) (database : Database Log) : Prop :=
  ∃ job ∈ database.jobs.rows, job.tenantId = tenantId ∧ 0 < job.attempts

/-- The events are of another tenant, or no job of the tenant has been leased,
or they are stored. -/
def inTime (tenantId : String) (database : Database Log) (tenant : String)
    (events : List SecurityEvent) : Bool :=
  tenant ≠ tenantId ||
    (database.jobs.rows.all fun job =>
      ¬(job.tenantId = tenantId ∧ 0 < job.attempts)) ||
    events.all fun event =>
      database.events.rows.any (·.hasKey tenantId event.eventId)

/-- The events of the tenant are ingested before the first of its jobs is
leased. -/
def ingestedFirst (tenantId : String) (database : Database Log)
    (event : Event) : Bool :=
  match event.operation with
  | .ingest tenant events _ => inTime tenantId database tenant events
  | .ingestOne tenant event _ => inTime tenantId database tenant [event]
  | _ => true

/-- Only events of the tenant were added. -/
def AddsEventsOf (tenant : String) (before after : Database Log) : Prop :=
  ∃ added, after.events.rows = before.events.rows ++ added ∧
    ∀ row ∈ added, row.tenantId = tenant

instance : Std.Refl (@AddsEventsOf Log tenant) where
  refl _ := ⟨[], by simp, by simp⟩

instance : IsTrans (Database Log) (AddsEventsOf tenant) where
  trans first second third := by
    rintro ⟨earlier, secondRows, earlierTenant⟩ ⟨later, thirdRows, laterTenant⟩
    refine ⟨earlier ++ later, ?_, fun row member => ?_⟩
    · rw [thirdRows, secondRows, List.append_assoc]
    · rcases List.mem_append.mp member with isEarlier | isLater
      · exact earlierTenant row isEarlier
      · exact laterTenant row isLater

theorem AddsEventsOf.others (adds : AddsEventsOf tenant before after)
    (other : tenant ≠ tenantId) :
    eventsOf tenantId after = eventsOf tenantId before := by
  obtain ⟨added, rows, ofTenant⟩ := adds
  have none : added.filter (·.tenantId = tenantId) = [] := by
    apply List.filter_eq_nil_iff.mpr
    intro row member
    rw [ofTenant row member]
    simpa using other
  unfold eventsOf
  rw [rows, List.filter_append, none, List.append_nil]

/-- Events that are stored are not added. -/
def KeepsStored (tenant : String) (events : List SecurityEvent)
    (before after : Database Log) : Prop :=
  (∀ event ∈ events, ∃ row ∈ before.events.rows,
    row.hasKey tenant event.eventId = true) → after = before

instance (events : List SecurityEvent) :
    Std.Refl (@KeepsStored Log tenant events) where
  refl _ _ := rfl

instance (events : List SecurityEvent) :
    IsTrans (Database Log) (KeepsStored tenant events) where
  trans first second third := by
    intro earlier later stored
    have isSecond := earlier stored
    subst isSecond
    exact later stored

theorem ingestOnConnection_adds (receivedAt : Timestamp)
    (event : SecurityEvent) :
    Transaction.Follows (AddsEventsOf tenant)
      (ingestOnConnection library tenant receivedAt event :
        Program Log IngestResult) := by
  intro before result after ran
  unfold ingestOnConnection at ran
  obtain ⟨accepted, middle, inserted, afterEvent⟩ :=
    Transaction.run_bind_ok.mp ran
  obtain ⟨_, last, queued, returned⟩ := Transaction.run_bind_ok.mp afterEvent
  cases returned
  have sameEvents : after.events = middle.events := by
    rcases queueOrCompare_ok queued with ⟨-, same⟩ | ⟨-, jobs, isAfter, -⟩
    · rw [same]
    · rw [isAfter]
  rcases insertEventOrIgnore_ok inserted with
    ⟨-, isMiddle⟩ | ⟨-, -, events, isMiddle, rows⟩
  · rw [isMiddle] at sameEvents
    exact ⟨[], by rw [sameEvents, List.append_nil], nofun⟩
  · refine ⟨[eventRow library tenant event receivedAt], ?_, fun row member => ?_⟩
    · rw [sameEvents, isMiddle]
      exact rows
    · rw [List.mem_singleton.mp member]
      rfl

theorem ingestOnConnection_keeps {events : List SecurityEvent}
    (receivedAt : Timestamp) {event : SecurityEvent}
    (member : event ∈ events) :
    Transaction.Follows (KeepsStored tenant events)
      (ingestOnConnection library tenant receivedAt event :
        Program Log IngestResult) := by
  intro before result after ran stored
  obtain ⟨row, isStored, keyed⟩ := stored event member
  unfold ingestOnConnection at ran
  obtain ⟨accepted, middle, inserted, afterEvent⟩ :=
    Transaction.run_bind_ok.mp ran
  obtain ⟨_, last, queued, returned⟩ := Transaction.run_bind_ok.mp afterEvent
  cases returned
  have blocked : before.events.insert
      (eventRow library tenant event receivedAt) = none :=
    Table.insert_eq_none.mpr ⟨row, isStored, keyed⟩
  unfold insertEventOrIgnore at inserted
  rw [blocked] at inserted
  cases inserted
  exact (compare_ok queued).1

/-- Once a job of the tenant has been leased, its events stay. -/
theorem events_stay {service : Service Log} {event : Event} {reply : Reply}
    (kind : event.operation.kind = .ingestion)
    (first : ingestedFirst tenantId before event = true)
    (started : Started tenantId before)
    (ran : program service event.operation before = .ok (reply, after)) :
    eventsOf tenantId after = eventsOf tenantId before := by
  have stays (tenant : String) (events : List SecurityEvent)
      (timely : inTime tenantId before tenant events = true)
      (adds : AddsEventsOf tenant before after)
      (keeps : KeepsStored tenant events before after) :
      eventsOf tenantId after = eventsOf tenantId before := by
    unfold inTime at timely
    rw [Bool.or_eq_true, Bool.or_eq_true] at timely
    rcases timely with (other | unleased) | stored
    · exact adds.others (of_decide_eq_true other)
    · obtain ⟨job, isStored, leased⟩ := started
      have isUnleased := List.all_eq_true.mp unleased job isStored
      exact absurd leased (of_decide_eq_true isUnleased)
    · by_cases same : tenant = tenantId
      · subst same
        rw [keeps]
        intro event member
        exact List.any_eq_true.mp (List.all_eq_true.mp stored event member)
      · exact adds.others same
  unfold ingestedFirst at first
  cases operationIs : event.operation with
  | ingest tenant events receivedAt =>
      rw [operationIs] at ran first
      obtain ⟨results, ingested, -⟩ := bind_pure_ok ran
      obtain ⟨_, middle, nonempty, afterFirst⟩ :=
        Transaction.run_bind_ok.mp ingested
      obtain ⟨_, last, bounded, each⟩ := Transaction.run_bind_ok.mp afterFirst
      obtain ⟨-, rfl⟩ := Transaction.run_require_ok.mp nonempty
      obtain ⟨-, rfl⟩ := Transaction.run_require_ok.mp bounded
      apply stays tenant events first
      · exact Transaction.Follows.mapM
          (fun item _ => ingestOnConnection_adds receivedAt item) _ _ _ each
      · exact Transaction.Follows.mapM
          (fun item member => ingestOnConnection_keeps receivedAt member)
          _ _ _ each
  | ingestOne tenant single receivedAt =>
      rw [operationIs] at ran first
      obtain ⟨result, ingested, -⟩ := bind_pure_ok ran
      apply stays tenant [single] first
      · exact ingestOnConnection_adds receivedAt single _ _ _ ingested
      · exact ingestOnConnection_keeps receivedAt
          (List.mem_singleton_self single) _ _ _ ingested
  | lease | persist | complete | fail | addNote | assign | transition
  | recordDisposition =>
      rw [operationIs] at kind
      cases kind

end Ingestion

/-! ## Steps without a completion -/

section Quiet

variable {F Log : Type} {detector : Detector F} {tenantId : String}
  {before after : Database Log}

/-- The jobs keep their events and their attempts, and with a lease the events
of the tenant stay. -/
structure Extends (tenantId : String) (before after : Database Log) :
    Prop where
  jobs : ∀ job ∈ before.jobs.rows, ∃ next ∈ after.jobs.rows,
    next.tenantId = job.tenantId ∧ next.jobId = job.jobId ∧
      next.eventId = job.eventId ∧ job.attempts ≤ next.attempts
  events : Started tenantId before → SameEvents tenantId before after

theorem Extends.refl (database : Database Log) :
    Extends tenantId database database :=
  ⟨fun job stored => ⟨job, stored, rfl, rfl, rfl, Nat.le_refl _⟩,
    fun _ => .refl _⟩

theorem Extends.started (extended : Extends tenantId before after)
    (started : Started tenantId before) : Started tenantId after := by
  obtain ⟨job, stored, tenant, leased⟩ := started
  obtain ⟨next, nextStored, sameTenant, -, -, attempts⟩ :=
    extended.jobs job stored
  exact ⟨next, nextStored, sameTenant.trans tenant,
    Nat.lt_of_lt_of_le leased attempts⟩

/-- A job keeps its event and its attempts. -/
structure KeepsJob (change : JobRow → JobRow) : Prop where
  tenant : ∀ job, (change job).tenantId = job.tenantId
  identifier : ∀ job, (change job).jobId = job.jobId
  event : ∀ job, (change job).eventId = job.eventId
  attempts : ∀ job, job.attempts ≤ (change job).attempts

theorem KeepsJob.applyWhere {change : JobRow → JobRow}
    (keeps : KeepsJob change) (selected : JobRow → Bool) :
    KeepsJob (Table.applyWhere selected change) := by
  have cases (job : JobRow) :
      Table.applyWhere selected change job = change job ∨
        Table.applyWhere selected change job = job := by
    unfold Table.applyWhere
    split
    · exact .inl rfl
    · exact .inr rfl
  constructor
  · intro job
    rcases cases job with same | same
    · rw [same, keeps.tenant]
    · rw [same]
  · intro job
    rcases cases job with same | same
    · rw [same, keeps.identifier]
    · rw [same]
  · intro job
    rcases cases job with same | same
    · rw [same, keeps.event]
    · rw [same]
  · intro job
    rcases cases job with same | same
    · rw [same]
      exact keeps.attempts job
    · rw [same]

theorem Extends.of_jobs (sameEvents : after.events = before.events)
    {change : JobRow → JobRow} (keeps : KeepsJob change)
    (rows : after.jobs.rows = before.jobs.rows.map change) :
    Extends tenantId before after := by
  constructor
  · intro job stored
    refine ⟨change job, ?_, keeps.tenant job, keeps.identifier job,
      keeps.event job, keeps.attempts job⟩
    rw [rows]
    exact List.mem_map_of_mem stored
  · intro _
    unfold SameEvents eventsOf
    rw [sameEvents]

/-- No job of the tenant is completed, and no alert of it is stored. -/
structure Quiet (tenantId : String) (before after : Database Log) : Prop
    extends Extends tenantId before after where
  alerts : ∀ row, row.tenantId = tenantId →
    (row ∈ after.alerts.rows ↔ row ∈ before.alerts.rows)
  succeeded : ∀ job ∈ after.jobs.rows, job.tenantId = tenantId →
    job.status = .succeeded → ∃ old ∈ before.jobs.rows,
      old.tenantId = tenantId ∧ old.status = .succeeded ∧
        old.eventId = job.eventId

theorem Quiet.of_jobs (sameEvents : after.events = before.events)
    (alerts : ∀ row, row.tenantId = tenantId →
      (row ∈ after.alerts.rows ↔ row ∈ before.alerts.rows))
    {selected : JobRow → Bool} {change : JobRow → JobRow}
    (keeps : KeepsJob change)
    (rows : after.jobs.rows =
      before.jobs.rows.map (Table.applyWhere selected change))
    (unfinished : ∀ job, selected job = true → job.tenantId = tenantId →
      (change job).status ≠ .succeeded) : Quiet tenantId before after where
  toExtends := Extends.of_jobs sameEvents (keeps.applyWhere selected) rows
  alerts := alerts
  succeeded := by
    intro job stored tenant finished
    rw [rows] at stored
    obtain ⟨old, oldStored, rfl⟩ := List.mem_map.mp stored
    cases isSelected : selected old with
    | false =>
        rw [Table.applyWhere_unselected isSelected] at tenant finished ⊢
        exact ⟨old, oldStored, tenant, finished, rfl⟩
    | true =>
        rw [Table.applyWhere_selected isSelected] at tenant finished
        have oldTenant := (keeps.tenant old).symm.trans tenant
        exact absurd finished (unfinished old isSelected oldTenant)

theorem Quiet.of_same (sameEvents : after.events = before.events)
    (sameAlerts : after.alerts = before.alerts)
    (sameJobs : after.jobs = before.jobs) : Quiet tenantId before after where
  jobs job stored := by
    rw [sameJobs]
    exact ⟨job, stored, rfl, rfl, rfl, Nat.le_refl _⟩
  events _ := by
    unfold SameEvents eventsOf
    rw [sameEvents]
  alerts row _ := by rw [sameAlerts]
  succeeded job stored tenant finished := by
    rw [sameJobs] at stored
    exact ⟨job, stored, tenant, finished, rfl⟩

/-- The event of a succeeded job was evaluated, and the identifiers of its
alerts are stored. -/
def Settled (detector : Detector F) (tenantId : String)
    (database : Database Log) (eventId : String) : Prop :=
  ∃ event alerts, Evaluates detector tenantId database event alerts ∧
    event.eventId = eventId ∧ ∀ alert ∈ alerts, alert.eventId = eventId ∧
      ∃ row ∈ database.alerts.rows, row.hasKey tenantId alert.alertId = true

/-- Every stored alert is expected, and the event of every succeeded job is
settled. -/
structure Evaluated (detector : Detector F) (tenantId : String)
    (database : Database Log) : Prop where
  rows : ∀ row ∈ database.alerts.rows, row.tenantId = tenantId →
    Started tenantId database ∧ Expected detector tenantId database row
  jobs : ∀ job ∈ database.jobs.rows, job.tenantId = tenantId →
    job.status = .succeeded → Started tenantId database ∧
      Settled detector tenantId database job.eventId

/-- An event stays settled when the events of the tenant and its stored alerts
stay. -/
theorem Settled.transfer (same : SameEvents tenantId before after)
    (keeps : ∀ row ∈ before.alerts.rows, row.tenantId = tenantId →
      row ∈ after.alerts.rows) {eventId : String}
    (settled : Settled detector tenantId before eventId) :
    Settled detector tenantId after eventId := by
  obtain ⟨event, alerts, evaluates, isEvent, stored⟩ := settled
  obtain ⟨other, sameRow, otherEvaluates⟩ := evaluates.transfer same
  refine ⟨other, alerts, otherEvaluates,
    (eventId_congr sameRow).trans isEvent, ?_⟩
  intro alert member
  obtain ⟨ofEvent, row, isStored, keyed⟩ := stored alert member
  exact ⟨ofEvent, row,
    keeps row isStored (alertHasKey_iff.mp keyed).1, keyed⟩

theorem Evaluated.quiet (holds : Evaluated detector tenantId before)
    (quiet : Quiet tenantId before after) :
    Evaluated detector tenantId after := by
  constructor
  · intro row stored tenant
    obtain ⟨started, expected⟩ :=
      holds.rows row ((quiet.alerts row tenant).mp stored) tenant
    exact ⟨quiet.toExtends.started started,
      expected.transfer (quiet.events started)⟩
  · intro job stored tenant finished
    obtain ⟨old, oldStored, oldTenant, oldFinished, sameEvent⟩ :=
      quiet.succeeded job stored tenant finished
    obtain ⟨started, settled⟩ := holds.jobs old oldStored oldTenant oldFinished
    rw [← sameEvent]
    refine ⟨quiet.toExtends.started started,
      settled.transfer (quiet.events started) ?_⟩
    exact fun row isStored ofTenant => (quiet.alerts row ofTenant).mpr isStored

/-- A transaction of a worker, a collector or an analyst is a completion for
the tenant, or a quiet one. -/
theorem quiet_or_completed {service : Service Log}
    {settings : WorkerSettings} {event : Event} {reply : Reply}
    (permitted : Permitted detector settings event.operation)
    (first : ingestedFirst tenantId before event = true)
    (ran : program service event.operation before = .ok (reply, after)) :
    Quiet tenantId before after ∨ ∃ job source workerId alerts now decision,
      event.operation = .persist tenantId job.jobId workerId alerts now
        decision ∧ job.tenantId = tenantId ∧
      Completed service.library decision workerId now alerts job source before
        after := by
  have change := change_of_ok ran
  cases change with
  | ingested kind change =>
      left
      obtain ⟨events, jobs, isAfter⟩ := change.frame
      obtain ⟨added, rows, queued⟩ := change.jobs
      have sameAlerts : after.alerts = before.alerts := by rw [isAfter]
      refine ⟨⟨fun job stored => ⟨job, ?_, rfl, rfl, rfl, Nat.le_refl _⟩,
        fun started => ?_⟩, fun row _ => by rw [sameAlerts], ?_⟩
      · rw [rows]
        exact List.mem_append_left _ stored
      · unfold SameEvents
        rw [events_stay kind first started ran]
      · intro job stored tenant finished
        rw [rows] at stored
        rcases List.mem_append.mp stored with old | isAdded
        · exact ⟨job, old, tenant, finished, rfl⟩
        · obtain ⟨_, _, _, _, rfl⟩ := queued job isAdded
          cases finished
  | claimed kind workerIs replyIs change =>
      left
      obtain ⟨jobs, isAfter⟩ := change.frame
      apply Quiet.of_jobs (by rw [isAfter]) (fun row _ => by rw [isAfter]) _
        change.jobs
      · intro job _ _ finished
        cases finished
      · exact ⟨fun _ => rfl, fun _ => rfl, fun _ => rfl,
          fun job => Nat.le_succ _⟩
  | unchanged kind same =>
      left
      rw [same]
      exact Quiet.of_same rfl rfl rfl
  | ended kind report notLeased change =>
      left
      generalize operationIs : event.operation = operation at *
      cases permitted with
      | other others =>
          rw [kind] at others
          rcases others with contrary | contrary
          · cases contrary
          · cases contrary
      | lease run limit => cases kind
      | persist run jobId alerts => cases kind
      | fail run jobId error delay =>
          obtain ⟨transition, failed, -⟩ := bind_pure_ok ran
          rcases failJob_ended failed with same | ⟨job, recorded, ended⟩
          · rw [same]
            exact Quiet.of_same rfl rfl rfl
          · obtain ⟨jobs, isAfter⟩ := ended.frame
            apply Quiet.of_jobs (by rw [isAfter]) (fun row _ => by rw [isAfter])
              _ ended.jobs
            · intro other _ _
              change (failedEnd _ _ _ _ _).status ≠ .succeeded
              unfold failedEnd
              split
              · nofun
              · nofun
            · exact ⟨fun _ => rfl, fun _ => rfl, fun _ => rfl,
                fun job => Nat.le_refl _⟩
  | @completed decision workerId now job source alerts operationIs change =>
      by_cases ofTenant : job.tenantId = tenantId
      · right
        refine ⟨job, source, workerId, alerts, now, decision, ?_, ofTenant,
          change⟩
        rw [operationIs, ofTenant]
      · left
        obtain ⟨middle, jobs, stored, isAfter⟩ := change.work
        obtain ⟨newAlerts, cases, caseAlerts, isMiddle⟩ := stored.frame
        have sameAlerts : after.alerts = middle.alerts := by rw [isAfter]
        obtain ⟨keeps, origin⟩ := alertsStored_rows stored
        rw [← sameAlerts] at keeps origin
        apply Quiet.of_jobs (by rw [isAfter, isMiddle]) _ _ change.jobs
        · intro other selected tenant
          have same := (jobHasKey_iff.mp selected).1
          exact absurd (same.symm.trans tenant) ofTenant
        · intro row tenant
          refine ⟨fun isStored => ?_, keeps row⟩
          rcases origin row isStored with old | ⟨alert, -, -, isRow⟩
          · exact old
          · rw [isRow] at tenant
            have sourceTenant := (of_decide_eq_true change.ofJob).1
            exact absurd (sourceTenant.symm.trans tenant) ofTenant
        · exact ⟨fun _ => rfl, fun _ => rfl, fun _ => rfl,
            fun job => Nat.le_refl _⟩
  | analysed kind change =>
      left
      obtain ⟨cases, activity, dispositions, log, isAfter⟩ := change.frame
      rw [isAfter]
      exact Quiet.of_same rfl rfl rfl

end Quiet

/-! ## The first alert with an identifier -/

section Completion

variable {Log : Type} {library : Library} {decision : Decision}
  {event : EventRow} {now : Timestamp} {alerts : List DetectionAlert}
  {before after : Database Log}

theorem isFirst_head (first : DetectionAlert) :
    IsFirst (first :: alerts) first :=
  List.find?_cons_of_pos (decide_eq_true rfl)

theorem IsFirst.tail {first alert : DetectionAlert}
    (isFirst : IsFirst alerts alert)
    (differs : first.alertId ≠ alert.alertId) :
    IsFirst (first :: alerts) alert := by
  unfold IsFirst
  rw [List.find?_cons_of_neg (by simpa using differs)]
  exact isFirst

theorem persistAlert_ofEvent {alert : DetectionAlert} {count : Nat}
    (ran : persistAlert library decision event now alert before =
      .ok (count, after)) : alert.eventId = event.eventId := by
  unfold persistAlert at ran
  obtain ⟨_, checked, check, -⟩ := Transaction.run_bind_ok.mp ran
  exact (Transaction.run_require_ok.mp check).1

/-- Of the alerts with one identifier the first one is stored, unless the
identifier was. -/
theorem persistEach_first {counts : List Nat}
    (ran : alerts.mapM (persistAlert library decision event now) before =
      .ok (counts, after)) :
    (∀ alert ∈ alerts, alert.eventId = event.eventId) ∧
      ∀ row ∈ after.alerts.rows, row ∈ before.alerts.rows ∨
        ∃ alert, IsFirst alerts alert ∧ row = alertRow decision event alert := by
  induction alerts generalizing before counts with
  | nil =>
      rw [List.mapM_nil] at ran
      cases ran
      exact ⟨nofun, fun _ => .inl⟩
  | cons first alerts induction =>
      rw [List.mapM_cons] at ran
      obtain ⟨count, middle, ranFirst, afterFirst⟩ :=
        Transaction.run_bind_ok.mp ran
      obtain ⟨others, last, ranOthers, returned⟩ :=
        Transaction.run_bind_ok.mp afterFirst
      cases returned
      obtain ⟨ofEvent, origin⟩ := induction ranOthers
      have keeps := (alertsStored_rows (persistAlerts_follow library decision
        event now alerts _ _ _ ranOthers)).1
      constructor
      · intro alert member
        rcases List.mem_cons.mp member with rfl | inRest
        · exact persistAlert_ofEvent ranFirst
        · exact ofEvent alert inRest
      have early : ∀ row ∈ middle.alerts.rows, row ∈ before.alerts.rows ∨
          ∃ alert, IsFirst (first :: alerts) alert ∧
            row = alertRow decision event alert := by
        intro row stored
        rcases persistAlert_ok ranFirst with same | isStored
        · rw [same] at stored
          exact .inl stored
        · rw [isStored.alerts] at stored
          rcases List.mem_append.mp stored with old | isNew
          · exact .inl old
          · exact .inr ⟨first, isFirst_head first, List.mem_singleton.mp isNew⟩
      intro row stored
      rcases origin row stored with old | ⟨alert, isFirst, isRow⟩
      · exact early row old
      · by_cases same : first.alertId = alert.alertId
        · -- the identifier was stored with the first alert, in the same row
          obtain ⟨other, otherStored, keyed⟩ := persistAlert_keyed ranFirst
          have rowKeyed : row.hasKey event.tenantId first.alertId = true := by
            rw [isRow]
            exact alertHasKey_iff.mpr ⟨rfl, same.symm⟩
          obtain ⟨tenant, identifier⟩ := alertHasKey_iff.mp rowKeyed
          obtain ⟨otherTenant, otherIdentifier⟩ := alertHasKey_iff.mp keyed
          have sameRow : row = other := by
            apply after.alerts.eq_of_clash stored (keeps other otherStored)
            · exact alertHasKey_iff.mpr ⟨tenant.trans otherTenant.symm,
                identifier.trans otherIdentifier.symm⟩
            · exact alertHasKey_iff.mpr ⟨otherTenant.trans tenant.symm,
                otherIdentifier.trans identifier.symm⟩
          rw [sameRow]
          exact early other otherStored
        · exact .inr ⟨alert, isFirst.tail same, isRow⟩

/-- What a completion stores, and for which event. -/
theorem completion_first {tenantId jobId workerId : String}
    {result : AlertPersistenceResult}
    (ran : persistAlertsAndCompleteJob library tenantId jobId workerId alerts
      now decision before = .ok (result, after)) :
    ∃ job ∈ before.jobs.rows, ∃ source ∈ before.events.rows,
      job.hasKey tenantId jobId = true ∧
      source.hasKey job.tenantId job.eventId = true ∧
      (∀ alert ∈ alerts, alert.eventId = source.eventId) ∧
      ∀ row ∈ after.alerts.rows, row ∈ before.alerts.rows ∨
        ∃ alert, IsFirst alerts alert ∧
          row = alertRow decision source alert := by
  unfold persistAlertsAndCompleteJob at ran
  obtain ⟨event, atJob, owned, afterJob⟩ := Transaction.run_bind_ok.mp ran
  obtain ⟨counts, middle, persisted, afterAlerts⟩ :=
    Transaction.run_bind_ok.mp afterJob
  obtain ⟨_, last, updated, returned⟩ :=
    Transaction.run_bind_ok.mp afterAlerts
  cases returned
  obtain ⟨isBefore, source, job, stored, keyed, -, ofJob⟩ := ownedJob_ok owned
  subst isBefore
  obtain ⟨jobs, isAfter, -⟩ := updateJobs_ok updated
  obtain ⟨ofEvent, origin⟩ := persistEach_first persisted
  rw [isAfter]
  exact ⟨job, stored, event, source, keyed, ofJob, ofEvent, origin⟩

end Completion

end Processing

end ControlForge
