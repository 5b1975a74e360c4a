import ControlForge.Telemetry.Delivery

/-!
# Exactly-once effect of delivery

Whatever the server has answered with success is stored and stays stored; the
agent removes a batch from its spool only after such an answer, and the flush
holds no batch twice and none that has left the spool.
-/

namespace ControlForge

namespace Telemetry

open Store Processing

variable {Log : Type}

/-- The event has exactly one row, with its content, and exactly one job. -/
structure StoredOnce (tenantId : String) (event : SecurityEvent)
    (database : Database Log) : Prop where
  row : ∃ row, database.events.rows.filter
      (·.hasKey tenantId event.eventId) = [row] ∧
    row.payloadJson = canonicalEvent event
  job : ∃ job, database.jobs.rows.filter
    (fun job => job.tenantId = tenantId ∧ job.eventId = event.eventId) = [job]

theorem storedOnce {library : Library}
    (injective : Function.Injective library.sha256)
    {database : Database Log} (recorded : Recorded library database)
    {tenantId : String} {event : SecurityEvent}
    (stored : EventStored library tenantId event database) :
    StoredOnce tenantId event database := by
  obtain ⟨row, member, keyed, digest⟩ := stored
  obtain ⟨tenant, identity⟩ := hasKey_iff.mp keyed
  constructor
  · refine ⟨row, ?_, ?_⟩
    · apply Table.filter_eq_singleton (by simp [EventRow.clash, EventRow.hasKey])
        member keyed
      intro other otherMember otherKeyed
      obtain ⟨otherTenant, otherIdentity⟩ := hasKey_iff.mp otherKeyed
      apply database.events.eq_of_clash otherMember member
      · simp [EventRow.clash, EventRow.hasKey, tenant, identity, otherTenant,
          otherIdentity]
      · simp [EventRow.clash, EventRow.hasKey, tenant, identity, otherTenant,
          otherIdentity]
    · rw [recorded.digest row member] at digest
      exact injective digest
  · obtain ⟨job, jobMember, jobTenant, jobEvent⟩ := recorded.job row member
    refine ⟨job, ?_⟩
    apply Table.filter_eq_singleton (by simp [JobRow.clash, JobRow.hasKey])
      jobMember
    · simp [jobTenant, jobEvent, tenant, identity]
    · intro other otherMember otherKeyed
      obtain ⟨otherTenant, otherEvent⟩ := of_decide_eq_true otherKeyed
      apply database.jobs.eq_of_clash otherMember jobMember
      · simp [JobRow.clash, jobTenant, jobEvent, tenant, identity, otherTenant,
          otherEvent]
      · simp [JobRow.clash, jobTenant, jobEvent, tenant, identity, otherTenant,
          otherEvent]

/-! ## Batches that the server has taken -/

def BatchStored (library : Library) (tenantId : String)
    (events : List SecurityEvent) (database : Database Log) : Prop :=
  ∀ event ∈ events, EventStored library tenantId event database

theorem BatchStored.mono {library : Library} {before after : Database Log}
    {tenantId : String} {events : List SecurityEvent}
    (records : Records library before after)
    (stored : BatchStored library tenantId events before) :
    BatchStored library tenantId events after :=
  fun event member => records.keeps_event (stored event member)

/-- Only the canonical texts of a batch matter. -/
theorem BatchStored.congr {library : Library} {database : Database Log}
    {tenantId : String} {events read : List SecurityEvent}
    (same : read.map canonicalEvent = events.map canonicalEvent)
    (stored : BatchStored library tenantId read database) :
    BatchStored library tenantId events database := by
  intro event member
  have text : canonicalEvent event ∈ read.map canonicalEvent := by
    rw [same]
    exact List.mem_map_of_mem member
  obtain ⟨other, otherMember, sameText⟩ := List.mem_map.mp text
  obtain ⟨row, rowMember, keyed, digest⟩ := stored other otherMember
  rw [eventId_of_canonicalEvent sameText] at keyed
  rw [sameText] at digest
  exact ⟨row, rowMember, keyed, digest⟩

/-- The batch in a body was stored for the device of a result. -/
structure Taken (service : IngestionService) (body : List UInt8)
    (result : CollectorIngestionResult) (read : List SecurityEvent)
    (database : Database Log) : Prop where
  fits : body.length ≤ service.maxBodyBytes
  isRead : service.readBatch body = some read
  nonempty : read ≠ []
  bounded : read.length ≤ 1000
  bound : ∀ event ∈ read, event.deviceId = some result.deviceId
  stored : BatchStored service.library result.tenantId read database

namespace Taken

variable {service : IngestionService} {body : List UInt8}
  {result : CollectorIngestionResult} {read : List SecurityEvent}

theorem mono {before after : Database Log}
    (records : Records service.library before after)
    (taken : Taken service body result read before) :
    Taken service body result read after :=
  { taken with stored := taken.stored.mono records }

theorem of_ingest {request : Devices.SignedCollectorRequest}
    {receivedAt : Timestamp} {server after : Server Log}
    (answered : service.ingest request receivedAt server =
      (.ok result, after)) :
    ∃ read, Taken service request.body result read after.store := by
  obtain ⟨fits, events, results, isRead, ingested, bound⟩ :=
    IngestionService.ingest_ok answered
  obtain ⟨⟨nonempty, bounded⟩, -, stored⟩ := ingestEvents_ok ingested
  exact ⟨events, fits, isRead, nonempty, bounded, bound, stored⟩

/-- What was read is the batch that was sent. -/
theorem sameTexts (lawful : service.Lawful) {events : List SecurityEvent}
    {database : Database Log}
    (taken : Taken service (batchBody events) result read database) :
    read.map canonicalEvent = events.map canonicalEvent := by
  apply lawful
  have isRead := taken.isRead
  rw [IngestionService.readBatch, Option.filter_eq_some_iff] at isRead
  exact isRead.1

theorem againAs {database : Database Log}
    (taken : Taken service body result read database)
    {principal : Devices.AuthenticatedDevice}
    (tenant : principal.tenantId = result.tenantId)
    (device : principal.deviceId = result.deviceId) (later : Timestamp) :
    service.ingestAs principal body later database =
      (.ok ⟨result.tenantId, result.deviceId, 0, read.length, []⟩,
        database) := by
  have bound : read.any (·.deviceId ≠ some principal.deviceId) = false := by
    rw [List.any_eq_false]
    intro event member
    simp [device, taken.bound event member]
  have ingested : ingestEvents service.library result.tenantId read later
      database =
        .ok (duplicateResults service.library result.tenantId read, database) :=
    ingestEvents_stored taken.nonempty taken.bounded taken.stored
  have committed : (ingestEvents service.library principal.tenantId read
      later).commit database =
        (.ok (duplicateResults service.library result.tenantId read),
          database) := by
    rw [tenant]
    unfold Transaction.commit
    rw [ingested]
  unfold IngestionService.ingestAs
  rw [taken.isRead]
  simp only [bound, Bool.false_eq_true, if_false, committed]
  simp [IngestionService.ingestionResult, duplicateResults, tenant, device,
    List.countP_eq_zero]

/-- Once authenticated, the same body is taken again without a change. -/
theorem again {server : Server Log}
    (taken : Taken service body result read server.store)
    {request : Devices.SignedCollectorRequest} (sameBody : request.body = body)
    {later : Timestamp} {principal : Devices.AuthenticatedDevice}
    {devices : Devices.Database}
    (authenticated : service.authenticator.authenticate request later
      server.devices = (.ok principal, devices))
    (tenant : principal.tenantId = result.tenantId)
    (device : principal.deviceId = result.deviceId) :
    service.ingest request later server =
      (.ok ⟨result.tenantId, result.deviceId, 0, read.length, []⟩,
        ⟨devices, server.store⟩) := by
  have fits := Nat.not_lt_of_le taken.fits
  have ingested := taken.againAs tenant device later
  unfold IngestionService.ingest
  rw [sameBody, if_neg fits, authenticated]
  simp only [ingested]

end Taken

/-! ## What a step does to the server -/

section Steps

variable {deployment : Deployment Log} {settings : CollectorSettings}
  {state next : State Log} {label : Label}

theorem records_of_ingest {service : IngestionService}
    {request : Devices.SignedCollectorRequest} {receivedAt : Timestamp}
    {server after : Server Log}
    {outcome : Except IngestionError CollectorIngestionResult}
    (ingested : service.ingest request receivedAt server =
      (outcome, after)) :
    Records service.library server.store after.store := by
  cases outcome with
  | error failure =>
      rw [IngestionService.ingest_error ingested]
      exact Records.refl _
  | ok result =>
      obtain ⟨-, events, results, -, ran, -⟩ :=
        IngestionService.ingest_ok ingested
      exact (ingestEvents_ok ran).2.1

theorem step_records (step : Step deployment settings state label next) :
    Records deployment.ingestion.library state.server.store
      next.server.store := by
  cases step with
  | serve inFlight ingested => exact records_of_ingest ingested
  | foreign ingested => exact records_of_ingest ingested
  | process step =>
      rw [← deployment.sameLibrary]
      exact records_of_step step
  | enqueue | collect | start | finish | send | lose | succeed | refuse
  | acknowledge | fail | recordRetry | crash | administer =>
      exact Records.refl _

/-- An answer that is new is the server's to the request. -/
theorem step_served {message : Message} {receivedAt : Timestamp}
    {outcome : Except IngestionError CollectorIngestionResult}
    (step : Step deployment settings state
      (.served message receivedAt outcome) next) :
    deployment.ingestion.ingest message.request receivedAt state.server =
      (outcome, next.server) := by
  cases step with
  | serve inFlight ingested => exact ingested

theorem step_responses (step : Step deployment settings state label next)
    {response : Response} (arrived : response ∈ next.responses) :
    response ∈ state.responses ∨ ∃ receivedAt,
      label = .served response.message receivedAt response.outcome := by
  cases step with
  | @serve message receivedAt outcome server inFlight ingested =>
      rcases List.mem_append.mp arrived with old | new
      · exact .inl old
      · rw [List.mem_singleton.mp new]
        exact .inr ⟨receivedAt, rfl⟩
  | lose fewerRequests fewerResponses =>
      exact .inl (fewerResponses arrived)
  | enqueue | collect | start | finish | send | succeed | refuse
  | acknowledge | fail | recordRetry | crash | foreign | process
  | administer => exact .inl arrived

end Steps

/-! ## The flush and the spool -/

/-- The flush holds batches of the spool, and none twice. -/
structure FlushHolds (state : State Log) : Prop where
  held : ∀ entry ∈ state.phase.batches, state.spool.Holds entry
  distinct : (state.phase.batches.map Prod.fst).Nodup

theorem flushHolds_step {deployment : Deployment Log}
    {settings : CollectorSettings} {state next : State Log} {label : Label}
    (holds : FlushHolds state)
    (step : Step deployment settings state label next) : FlushHolds next := by
  obtain ⟨held, distinct⟩ := holds
  cases step with
  | enqueue idle spooled =>
      rw [idle] at held distinct
      constructor
      · simp [idle, Phase.batches]
      · simp [idle, Phase.batches]
  | collect idle spooled =>
      constructor
      · simp [idle, Phase.batches]
      · simp [idle, Phase.batches]
  | start idle ready =>
      exact ⟨fun entry member => Spool.holds_of_pending member,
        Spool.pending_nodup _ _⟩
  | send message isNext fresh =>
      rw [isNext] at held distinct
      exact ⟨held, distinct⟩
  | succeed waits arrived =>
      rw [waits] at held distinct
      exact ⟨held, distinct⟩
  | @acknowledge batchId events remaining isNext =>
      rw [isNext] at held distinct
      obtain ⟨absent, distinct⟩ := List.nodup_cons.mp distinct
      refine ⟨fun entry member => ?_, distinct⟩
      apply (held entry (List.mem_cons_of_mem _ member)).acknowledge
      intro same
      exact absent (List.mem_map.mpr ⟨entry, member, same⟩)
  | finish | refuse | fail | recordRetry | crash =>
      exact ⟨by simp [Phase.batches], by simp [Phase.batches]⟩
  | serve | lose | foreign | process | administer => exact ⟨held, distinct⟩

/-! ## The invariant -/

structure Invariant (service : IngestionService) (labels : List Label)
    (state : State Log) : Prop where
  recorded : Recorded service.library state.server.store
  flush : FlushHolds state
  served : ∀ message receivedAt result,
    .served message receivedAt (.ok result) ∈ labels →
      ∃ read, Taken service message.request.body result read
        state.server.store
  answered : ∀ response ∈ state.responses, ∃ receivedAt,
    .served response.message receivedAt response.outcome ∈ labels
  delivered : ∀ batchId events remaining,
    state.phase = .delivered batchId events remaining →
      ∃ tenantId, BatchStored service.library tenantId events
        state.server.store
  acknowledged : ∀ batchId events, .acknowledged batchId events ∈ labels →
    ∃ tenantId, BatchStored service.library tenantId events
      state.server.store

theorem invariant_initial {deployment : Deployment Log}
    {settings : CollectorSettings} {state : State Log}
    (isInitial : (system deployment settings).initial state) :
    Invariant deployment.ingestion [] state := by
  have initial : Initial state := isInitial
  constructor
  · constructor
    · simp [initial.store.events]
    · simp [initial.store.events]
  · constructor
    · simp [initial.phase, Phase.batches]
    · simp [initial.phase, Phase.batches]
  · simp
  · simp [initial.responses]
  · simp [initial.phase]
  · simp

section Invariance

variable {deployment : Deployment Log} {settings : CollectorSettings}
  {labels : List Label} {state next : State Log} {label : Label}

/-- A batch whose request was answered with success is stored. -/
theorem Invariant.stored_of_response (lawful : deployment.ingestion.Lawful)
    (invariant : Invariant deployment.ingestion labels state)
    {message : Message} {result : CollectorIngestionResult}
    (arrived : ⟨message, .ok result⟩ ∈ state.responses) :
    ∃ tenantId, BatchStored deployment.ingestion.library tenantId
      message.events state.server.store := by
  obtain ⟨receivedAt, isServed⟩ := invariant.answered _ arrived
  obtain ⟨read, taken⟩ := invariant.served _ _ _ isServed
  rw [message.body] at taken
  exact ⟨result.tenantId, taken.stored.congr (taken.sameTexts lawful)⟩

/-- The batch of a flush that is about to be acknowledged is stored. -/
theorem delivered_step (lawful : deployment.ingestion.Lawful)
    (invariant : Invariant deployment.ingestion labels state)
    (step : Step deployment settings state label next) {batchId : String}
    {events : List SecurityEvent}
    {remaining : List (String × List SecurityEvent)}
    (isDelivered : next.phase = .delivered batchId events remaining) :
    ∃ tenantId, BatchStored deployment.ingestion.library tenantId events
      state.server.store := by
  cases step with
  | succeed waits arrived =>
      cases isDelivered
      exact invariant.stored_of_response lawful arrived
  | enqueue idle => simp [idle] at isDelivered
  | collect idle => simp [idle] at isDelivered
  | start | finish | send | refuse | acknowledge | fail | recordRetry
  | crash => cases isDelivered
  | serve | lose | foreign | process | administer =>
      exact invariant.delivered _ _ _ isDelivered

theorem invariant_step (lawful : deployment.ingestion.Lawful)
    (invariant : Invariant deployment.ingestion labels state)
    (step : Step deployment settings state label next) :
    Invariant deployment.ingestion (labels ++ [label]) next := by
  have records := step_records step
  constructor
  · exact records.recorded invariant.recorded
  · exact flushHolds_step invariant.flush step
  · intro message receivedAt result member
    rcases List.mem_append.mp member with old | new
    · obtain ⟨read, taken⟩ := invariant.served _ _ _ old
      exact ⟨read, taken.mono records⟩
    · rw [← List.mem_singleton.mp new] at step
      exact Taken.of_ingest (step_served step)
  · intro response arrived
    rcases step_responses step arrived with old | ⟨receivedAt, isServed⟩
    · obtain ⟨receivedAt, member⟩ := invariant.answered _ old
      exact ⟨receivedAt, List.mem_append_left _ member⟩
    · refine ⟨receivedAt, List.mem_append_right _ ?_⟩
      rw [isServed]
      exact List.mem_singleton_self _
  · intro batchId events remaining isDelivered
    obtain ⟨tenantId, stored⟩ := delivered_step lawful invariant step isDelivered
    exact ⟨tenantId, stored.mono records⟩
  · intro batchId events member
    rcases List.mem_append.mp member with old | new
    · obtain ⟨tenantId, stored⟩ := invariant.acknowledged _ _ old
      exact ⟨tenantId, stored.mono records⟩
    · rw [← List.mem_singleton.mp new] at step
      cases step with
      | acknowledge isNext => exact invariant.delivered _ _ _ isNext

theorem invariant_run (lawful : deployment.ingestion.Lawful)
    {start : State Log}
    (isInitial : (system deployment settings).initial start)
    (run : (system deployment settings).Run start labels state) :
    Invariant deployment.ingestion labels state := by
  refine run.historyInvariant (invariant_initial isInitial) ?_
  intro labels state label next invariant _ step
  exact invariant_step lawful invariant step

/-- A batch that leaves the spool is the one that is acknowledged. -/
theorem step_leaves (step : Step deployment settings state label next)
    {batch : OutboundBatch}
    (spooled : batch ∈ state.spool.outboundBatches.rows)
    (left : ¬ next.spool.Holds (batch.batchId, batch.payload)) :
    ∃ events remaining,
      state.phase = .delivered batch.batchId events remaining := by
  have holds : state.spool.Holds (batch.batchId, batch.payload) :=
    ⟨batch, spooled, rfl, rfl⟩
  cases step with
  | enqueue _ enqueued => exact absurd (holds.insertBatch enqueued) left
  | collect _ collected => exact absurd (holds.enqueueCollected collected) left
  | @acknowledge batchId events remaining isNext =>
      by_cases same : batch.batchId = batchId
      · rw [same]
        exact ⟨events, remaining, isNext⟩
      · exact absurd (holds.acknowledge same) left
  | fail => exact absurd (Spool.holds_fail.mpr holds) left
  | start | finish | send | serve | lose | succeed | refuse | recordRetry
  | crash | foreign | process | administer => exact absurd holds left

end Invariance

/-- In every run: a batch leaves the spool only when all its events are
stored; every event of an acknowledged batch has exactly one row and one job;
a batch with an event whose identity is stored with another content fails and
adds nothing; and a body that was accepted is accepted again with no event
added. -/
theorem exactly_once_delivery {deployment : Deployment Log}
    {settings : CollectorSettings} (lawful : deployment.ingestion.Lawful)
    (injective : Function.Injective deployment.ingestion.library.sha256)
    {start state : State Log} {labels : List Label}
    (isInitial : (system deployment settings).initial start)
    (run : (system deployment settings).Run start labels state) :
    (∀ label next, (system deployment settings).step state label next →
      ∀ batch ∈ state.spool.outboundBatches.rows,
        ¬ next.spool.Holds (batch.batchId, batch.payload) →
          ∃ tenantId, ∀ event ∈ batch.payload,
            StoredOnce tenantId event state.server.store) ∧
    (∀ batchId events, .acknowledged batchId events ∈ labels →
      ∃ tenantId, ∀ event ∈ events,
        StoredOnce tenantId event state.server.store) ∧
    (∀ tenantId events receivedAt,
      (∃ event ∈ events, Conflicts tenantId event state.server.store) →
        ∃ failure, (ingestEvents deployment.ingestion.library tenantId events
          receivedAt).commit state.server.store =
            (.error failure, state.server.store)) ∧
    (∀ message receivedAt result,
      .served message receivedAt (.ok result) ∈ labels →
      ∀ request later principal devices,
        request.body = message.request.body →
        deployment.ingestion.authenticator.authenticate request later
          state.server.devices = (.ok principal, devices) →
        principal.tenantId = result.tenantId →
        principal.deviceId = result.deviceId →
          deployment.ingestion.ingest request later state.server =
            (.ok ⟨result.tenantId, result.deviceId, 0,
              message.events.length, []⟩, ⟨devices, state.server.store⟩)) := by
  have invariant := invariant_run lawful isInitial run
  have once {tenantId : String} {events : List SecurityEvent}
      (stored : BatchStored deployment.ingestion.library tenantId events
        state.server.store) :
      ∀ event ∈ events, StoredOnce tenantId event state.server.store :=
    fun event member =>
      storedOnce injective invariant.recorded (stored event member)
  refine ⟨?_, ?_, ?_, ?_⟩
  · intro label next step batch spooled left
    obtain ⟨events, remaining, isDelivered⟩ := step_leaves step spooled left
    have held := invariant.flush.held (batch.batchId, events)
      (by simp [isDelivered, Phase.batches])
    have samePayload : events = batch.payload :=
      held.unique ⟨batch, spooled, rfl, rfl⟩
    obtain ⟨tenantId, stored⟩ := invariant.delivered _ _ _ isDelivered
    rw [samePayload] at stored
    exact ⟨tenantId, once stored⟩
  · intro batchId events member
    obtain ⟨tenantId, stored⟩ := invariant.acknowledged _ _ member
    exact ⟨tenantId, once stored⟩
  · rintro tenantId events receivedAt ⟨event, inBatch, conflicts⟩
    exact ingestEvents_conflict injective invariant.recorded inBatch conflicts
  · intro message receivedAt result member request later principal devices
      sameBody authenticated tenant device
    obtain ⟨read, taken⟩ := invariant.served _ _ _ member
    have sameLength : read.length = message.events.length := by
      have taken := taken
      rw [message.body] at taken
      have lengths := congrArg List.length (taken.sameTexts lawful)
      rwa [List.length_map, List.length_map] at lengths
    rw [← sameLength]
    exact taken.again sameBody authenticated tenant device

/-! ## A batch whose first answer is lost -/

/-- SHA-256 on the texts of the run below, and injective everywhere. -/
@[irreducible] def sampleSha256 (text : String) : String :=
  (sampleDigests.lookup text).getD ("#" ++ text)

theorem mem_of_lookup {text digest : String}
    (found : sampleDigests.lookup text = some digest) :
    (text, digest) ∈ sampleDigests := by
  rw [List.lookup_eq_some_iff] at found
  obtain ⟨before, after, split, -⟩ := found
  rw [split]
  exact List.mem_append_right _ List.mem_cons_self

theorem sampleSha256_injective : Function.Injective sampleSha256 := by
  have nodup : (sampleDigests.map Prod.snd).Nodup := by
    simp [sampleDigests]
  have distinct : ∀ first ∈ sampleDigests, ∀ second ∈ sampleDigests,
      first.2 = second.2 → first.1 = second.1 := by
    intro first firstMember second secondMember same
    rw [List.inj_on_of_nodup_map nodup firstMember secondMember same]
  have unmarked : ∀ entry ∈ sampleDigests,
      entry.2.toList.head? ≠ some '#' := by
    simp only [sampleDigests, List.forall_mem_cons]
    refine ⟨?_, ?_, ?_, ?_, List.forall_mem_nil _⟩
    all_goals
      rw [String.toList_ofList]
      decide
  have marked (text : String) : ("#" ++ text).toList.head? = some '#' := by
    simp
  intro left right same
  unfold sampleSha256 at same
  cases inLeft : sampleDigests.lookup left with
  | some leftDigest =>
      have leftEntry := mem_of_lookup inLeft
      cases inRight : sampleDigests.lookup right with
      | some rightDigest =>
          rw [inLeft, inRight] at same
          exact distinct _ leftEntry _ (mem_of_lookup inRight) same
      | none =>
          rw [inLeft, inRight] at same
          have first := unmarked _ leftEntry
          rw [show leftDigest = "#" ++ right from same] at first
          exact absurd (marked right) first
  | none =>
      cases inRight : sampleDigests.lookup right with
      | some rightDigest =>
          rw [inLeft, inRight] at same
          have first := unmarked _ (mem_of_lookup inRight)
          rw [show rightDigest = "#" ++ left from same.symm] at first
          exact absurd (marked left) first
      | none =>
          rw [inLeft, inRight] at same
          have letters := congrArg String.toList same
          exact String.toList_inj.mp (by simpa using letters)

/-- The events of the sample batch, read back from its body. -/
def sampleParse (body : List UInt8) : Option (List SecurityEvent) :=
  if body = batchBody [sampleEvent] then some [sampleEvent] else none

/-- The keyed hash answers as the real one does on the two requests. -/
def sampleIngestion : IngestionService where
  authenticator := {
    resolve := fun _ _ _ => some (List.replicate 32 107)
    sha256 := fun _ =>
      "0920ea43019d6834aed78fb826f15038c46bbfed03b89504d93c46baffaf319d"
    hmac := fun _ canonical =>
      if canonical = "POST\n/v1/ingest/events\n1970-01-01T00:00:02Z\n" ++
          "nonce-0123456789\n" ++
          "0920ea43019d6834aed78fb826f15038c46bbfed03b89504d93c46baffaf319d"
      then
        "541d7474fbab72d08fe8c0fe39b0aa51802f24aa3b13dd8bc920689f321ba8a5"
      else
        "773b6f4c51d68ad498d758aff41f68994c3e9f8cd1162befecfc5c3d44188bce"
    fromIsoFormat := fun text =>
      if text = "1970-01-01T00:00:02Z" then some (some (seconds 2))
      else some (some (seconds 3))
    maxClockSkewSeconds := 300
    admitted := Devices.defaultSkew_admitted }
  library := { sampleService.library with sha256 := sampleSha256 }
  parse := sampleParse
  maxBodyBytes := 8000000
  admitted := by decide

theorem sampleIngestion_lawful : sampleIngestion.Lawful := by
  intro events read isRead
  change sampleParse (batchBody events) = some read at isRead
  unfold sampleParse at isRead
  split at isRead
  · next sameBody =>
      cases isRead
      exact (canonicalEvents_of_batchBody sameBody).symm
  · cases isRead

def sampleDeployment : Deployment Unit where
  ingestion := sampleIngestion
  cases := ⟨sampleService.append, sampleIngestion.library⟩
  sameLibrary := rfl

def sampleSettings : CollectorSettings where
  deliveryFlushBatchLimit := 10
  controlSnapshotIntervalSeconds := 3600
  retryDelaySeconds failures := 2 ^ failures
  limitAdmitted := by decide
  intervalAdmitted := by decide

/-- A signed request for a batch. -/
def sampleRequest (body : List UInt8) (timestamp nonce signature : String) :
    Devices.SignedCollectorRequest :=
  ⟨"POST", Devices.ingestionPath, body, "credential", timestamp, nonce,
    signature⟩

def sampleMessage (connection : Nat) (events : List SecurityEvent)
    (timestamp nonce signature : String) : Message where
  connection
  events
  request := sampleRequest (batchBody events) timestamp nonce signature
  body := rfl

def firstMessage : Message :=
  sampleMessage 0 [sampleEvent] "1970-01-01T00:00:02Z" "nonce-0123456789"
    "541d7474fbab72d08fe8c0fe39b0aa51802f24aa3b13dd8bc920689f321ba8a5"

def secondMessage : Message :=
  sampleMessage 1 [sampleEvent] "1970-01-01T00:00:03Z" "nonce-9876543210"
    "773b6f4c51d68ad498d758aff41f68994c3e9f8cd1162befecfc5c3d44188bce"

def sampleServer : Server Unit where
  devices := {
    tenants := [⟨"acme", "active"⟩]
    devices := [⟨"acme", "mac-1", "active", none⟩]
    credentials := ⟨[⟨"credential", "acme", "mac-1", "ciphertext", "iv", 0,
      seconds 1000, none, none, some 0⟩], List.pairwise_singleton _ _⟩
    rotations := .empty
    nonces := .empty }
  store := sampleStart

def sampleState : State Unit :=
  ⟨.empty, .idle, 0, [], [], sampleServer⟩

theorem sampleState_initial :
    (system sampleDeployment sampleSettings).initial sampleState := by
  constructor
  · rfl
  · rfl
  · rfl
  · rfl
  · exact sampleStart_initial

/-- The spool with the sample batch in it. -/
def sampleSpool : Spool where
  outboundBatches := ⟨[Spool.newBatch "batch-1" [sampleEvent] (seconds 1)],
    List.pairwise_singleton _ _⟩
  controlSnapshot := none
  delivery := none

section LostAnswer

variable {first second : Except IngestionError CollectorIngestionResult ×
    Server Unit}

/-- The server stores the batch, the agent crashes before the answer arrives,
and the second delivery is answered. -/
theorem run_lostAnswer
    (served : sampleDeployment.ingestion.ingest firstMessage.request
      (seconds 2) sampleServer = first)
    (servedAgain : sampleDeployment.ingestion.ingest secondMessage.request
      (seconds 3) first.2 = second)
    (answered : second.1 = .ok ⟨"acme", "mac-1", 0, 1, []⟩) :
    ∃ labels state,
      (system sampleDeployment sampleSettings).Run sampleState labels state ∧
        .acknowledged "batch-1" [sampleEvent] ∈ labels ∧
        state.server = second.2 := by
  let step := Step sampleDeployment sampleSettings
  have enqueued : step sampleState (.enqueued "batch-1")
      { sampleState with spool := sampleSpool } :=
    @Step.enqueue _ _ _ _ "batch-1" [sampleEvent] (seconds 1) _ rfl rfl
  have started : step { sampleState with spool := sampleSpool } .started
      ⟨sampleSpool, .flushing [("batch-1", [sampleEvent])], 0, [], [],
        sampleServer⟩ :=
    @Step.start _ _ _ _ (seconds 2) rfl (.inr rfl)
  have sent : step
      ⟨sampleSpool, .flushing [("batch-1", [sampleEvent])], 0, [], [],
        sampleServer⟩ (.sent firstMessage)
      ⟨sampleSpool, .waiting "batch-1" firstMessage [], 1, [firstMessage], [],
        sampleServer⟩ :=
    .send firstMessage rfl rfl
  have stored : step
      ⟨sampleSpool, .waiting "batch-1" firstMessage [], 1, [firstMessage], [],
        sampleServer⟩ (.served firstMessage (seconds 2) first.1)
      ⟨sampleSpool, .waiting "batch-1" firstMessage [], 1, [firstMessage],
        [⟨firstMessage, first.1⟩], first.2⟩ :=
    .serve (List.mem_singleton_self _) served
  have crashed : step
      ⟨sampleSpool, .waiting "batch-1" firstMessage [], 1, [firstMessage],
        [⟨firstMessage, first.1⟩], first.2⟩ .crashed
      ⟨sampleSpool, .idle, 1, [firstMessage], [⟨firstMessage, first.1⟩],
        first.2⟩ := .crash
  have restarted : step
      ⟨sampleSpool, .idle, 1, [firstMessage], [⟨firstMessage, first.1⟩],
        first.2⟩ .started
      ⟨sampleSpool, .flushing [("batch-1", [sampleEvent])], 1, [firstMessage],
        [⟨firstMessage, first.1⟩], first.2⟩ :=
    @Step.start _ _ _ _ (seconds 3) rfl (.inr rfl)
  have resent : step
      ⟨sampleSpool, .flushing [("batch-1", [sampleEvent])], 1, [firstMessage],
        [⟨firstMessage, first.1⟩], first.2⟩ (.sent secondMessage)
      ⟨sampleSpool, .waiting "batch-1" secondMessage [], 2,
        [firstMessage, secondMessage], [⟨firstMessage, first.1⟩],
        first.2⟩ :=
    .send secondMessage rfl rfl
  have storedAgain : step
      ⟨sampleSpool, .waiting "batch-1" secondMessage [], 2,
        [firstMessage, secondMessage], [⟨firstMessage, first.1⟩],
        first.2⟩ (.served secondMessage (seconds 3) second.1)
      ⟨sampleSpool, .waiting "batch-1" secondMessage [], 2,
        [firstMessage, secondMessage],
        [⟨firstMessage, first.1⟩, ⟨secondMessage, second.1⟩],
        second.2⟩ :=
    .serve (List.mem_cons_of_mem _ (List.mem_singleton_self _))
      servedAgain
  have arrived : (⟨secondMessage, .ok ⟨"acme", "mac-1", 0, 1, []⟩⟩ :
      Response) ∈ [⟨firstMessage, first.1⟩, ⟨secondMessage, second.1⟩] := by
    rw [answered]
    exact List.mem_cons_of_mem _ (List.mem_singleton_self _)
  have returned : step
      ⟨sampleSpool, .waiting "batch-1" secondMessage [], 2,
        [firstMessage, secondMessage],
        [⟨firstMessage, first.1⟩, ⟨secondMessage, second.1⟩],
        second.2⟩ .returned
      ⟨sampleSpool, .delivered "batch-1" [sampleEvent] [], 2,
        [firstMessage, secondMessage],
        [⟨firstMessage, first.1⟩, ⟨secondMessage, second.1⟩],
        second.2⟩ :=
    @Step.succeed _ _ _ _ "batch-1" secondMessage [] _ rfl arrived
  have acknowledged : step
      ⟨sampleSpool, .delivered "batch-1" [sampleEvent] [], 2,
        [firstMessage, secondMessage],
        [⟨firstMessage, first.1⟩, ⟨secondMessage, second.1⟩],
        second.2⟩ (.acknowledged "batch-1" [sampleEvent])
      ⟨sampleSpool.acknowledge "batch-1", .flushing [], 2,
        [firstMessage, secondMessage],
        [⟨firstMessage, first.1⟩, ⟨secondMessage, second.1⟩],
        second.2⟩ := .acknowledge rfl
  have run : (system sampleDeployment sampleSettings).Run sampleState
      ([] ++ [_] ++ [_] ++ [_] ++ [_] ++ [_] ++ [_] ++ [_] ++ [_] ++ [_] ++ [_])
      _ :=
    .snoc (.snoc (.snoc (.snoc (.snoc (.snoc (.snoc (.snoc (.snoc (.snoc .nil
      trivial enqueued) trivial started) trivial sent) trivial stored)
      trivial crashed) trivial restarted) trivial resent) trivial storedAgain)
      trivial returned) trivial acknowledged
  exact ⟨_, _, run, by simp, rfl⟩

end LostAnswer

theorem exactly_once_delivery_lostAnswer :
    ∃ labels state,
      (system sampleDeployment sampleSettings).Run sampleState labels state ∧
        ∃ tenantId, StoredOnce tenantId sampleEvent state.server.store := by
  obtain ⟨labels, state, run, member, -⟩ := run_lostAnswer rfl rfl (by
    decide +kernel)
  have once := @exactly_once_delivery _ sampleDeployment sampleSettings
    sampleIngestion_lawful sampleSha256_injective _ _ _ sampleState_initial run
  obtain ⟨tenantId, stored⟩ := once.2.1 "batch-1" [sampleEvent] member
  exact ⟨labels, state, run, tenantId,
    stored sampleEvent (List.mem_singleton_self _)⟩

end Telemetry

end ControlForge
