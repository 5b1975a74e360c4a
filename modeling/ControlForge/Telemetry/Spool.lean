import ControlForge.Foundation.OrderBy
import ControlForge.Foundation.Table
import ControlForge.Telemetry.Event

/-!
# The spool of an agent

`AgentSpool` buffers batches of events until the server has taken them.  Every
operation is one transaction on the database of the agent, and that database
survives a crash.  The payload of a batch is kept as its events.
-/

namespace ControlForge

namespace Telemetry

/-- A row of `outbound_batches`. -/
structure OutboundBatch where
  batchId : String
  payload : List SecurityEvent
  createdAt : Timestamp
  attempts : Nat
  lastError : Option String

def OutboundBatch.clash (left right : OutboundBatch) : Bool :=
  left.batchId = right.batchId

/-- The row of `control_snapshot_state`. -/
structure ControlSnapshot where
  fingerprint : String
  pendingBatchId : Option String
  lastEnqueuedAt : Timestamp
deriving DecidableEq

/-- A row of `operation_retry_state`. -/
structure OperationRetryState where
  consecutiveFailures : Nat
  retryAfter : Timestamp
deriving DecidableEq

/-- The settings of the collector the spool and the flush loop read. -/
structure CollectorSettings where
  deliveryFlushBatchLimit : Nat
  controlSnapshotIntervalSeconds : Int
  /-- The jittered delay after a number of consecutive failures. -/
  retryDelaySeconds : Nat → Int
  limitAdmitted : 1 ≤ deliveryFlushBatchLimit ∧ deliveryFlushBatchLimit ≤ 100
  intervalAdmitted : 60 ≤ controlSnapshotIntervalSeconds ∧
    controlSnapshotIntervalSeconds ≤ 86400

structure Spool where
  outboundBatches : Table OutboundBatch OutboundBatch.clash
  controlSnapshot : Option ControlSnapshot
  /-- The retry state of the operation `delivery`. -/
  delivery : Option OperationRetryState

namespace Spool

def empty : Spool :=
  ⟨.empty, none, none⟩

def newBatch (batchId : String) (events : List SecurityEvent)
    (createdAt : Timestamp) : OutboundBatch :=
  ⟨batchId, events, createdAt, 0, none⟩

/-- `INSERT INTO outbound_batches`; it raises when the key is taken. -/
def insertBatch (batch : OutboundBatch) (spool : Spool) : Option Spool :=
  (spool.outboundBatches.insert batch).map fun outboundBatches =>
    { spool with outboundBatches }

/-- `enqueue`. -/
def enqueue (batchId : String) (events : List SecurityEvent) (now : Timestamp)
    (spool : Spool) : Option Spool :=
  spool.insertBatch (newBatch batchId events now)

/-- `pending_exists`. -/
def pendingExists (spool : Spool) (snapshot : ControlSnapshot) : Bool :=
  snapshot.pendingBatchId.any fun pending =>
    spool.outboundBatches.rows.any fun batch => batch.batchId = pending

/-- `control_due`: the snapshot is new or changed, or the last one was
delivered an interval ago. -/
def controlDue (spool : Spool) (fingerprint : String)
    (intervalSeconds : Int) (now : Timestamp) : Bool :=
  match spool.controlSnapshot with
  | none => true
  | some snapshot =>
      snapshot.fingerprint ≠ fingerprint ||
        (!spool.pendingExists snapshot &&
          snapshot.lastEnqueuedAt + seconds intervalSeconds ≤ now)

/-- `selected_events`. -/
def selectedEvents (due : Bool) (controlEvents telemetryEvents :
    List SecurityEvent) : List SecurityEvent :=
  if due then controlEvents ++ telemetryEvents else telemetryEvents

/-- `enqueue_collected`. -/
def enqueueCollected (batchId : String)
    (controlEvents telemetryEvents : List SecurityEvent)
    (fingerprint : String) (intervalSeconds : Int) (now : Timestamp)
    (spool : Spool) : Option Spool :=
  let due := spool.controlDue fingerprint intervalSeconds now
  match selectedEvents due controlEvents telemetryEvents with
  | [] => some spool
  | event :: events => do
      let spooled ← spool.insertBatch
        (newBatch batchId (event :: events) now)
      if due then
        return { spooled with
          controlSnapshot := some ⟨fingerprint, some batchId, now⟩ }
      else return spooled

/-- `pending`: the oldest batches. -/
def pending (limit : Nat) (spool : Spool) :
    List (String × List SecurityEvent) :=
  ((orderBy OutboundBatch.createdAt spool.outboundBatches.rows).take
    limit).map fun batch => (batch.batchId, batch.payload)

def acknowledgeSnapshot (batchId : String) (snapshot : ControlSnapshot) :
    ControlSnapshot :=
  if snapshot.pendingBatchId = some batchId then
    { snapshot with pendingBatchId := none } else snapshot

/-- `acknowledge`. -/
def acknowledge (batchId : String) (spool : Spool) : Spool where
  outboundBatches :=
    spool.outboundBatches.deleteWhere fun batch => batch.batchId = batchId
  controlSnapshot := spool.controlSnapshot.map (acknowledgeSnapshot batchId)
  delivery := spool.delivery

def OutboundBatch.failed (batchId error : String) (batch : OutboundBatch) :
    OutboundBatch :=
  if batch.batchId = batchId then
    { batch with
      attempts := batch.attempts + 1
      lastError := some (String.ofList (error.toList.take 500)) }
  else batch

@[simp] theorem OutboundBatch.failed_batchId (batchId error : String)
    (batch : OutboundBatch) :
    (OutboundBatch.failed batchId error batch).batchId = batch.batchId := by
  unfold OutboundBatch.failed
  split <;> rfl

@[simp] theorem OutboundBatch.failed_payload (batchId error : String)
    (batch : OutboundBatch) :
    (OutboundBatch.failed batchId error batch).payload = batch.payload := by
  unfold OutboundBatch.failed
  split <;> rfl

/-- `fail`. -/
def fail (batchId error : String) (spool : Spool) : Spool :=
  { spool with
    outboundBatches := spool.outboundBatches.mapRows
      (OutboundBatch.failed batchId error) (by
        intro left right
        simp [OutboundBatch.clash]) }

/-- `retry_ready`. -/
def retryReady (now : Timestamp) (spool : Spool) : Bool :=
  spool.delivery.all fun state => state.retryAfter ≤ now

/-- `record_retry_failure`. -/
def recordRetryFailure (delaySeconds : Nat → Int) (now : Timestamp)
    (spool : Spool) : Spool :=
  let failures := min 31
    ((spool.delivery.map (·.consecutiveFailures)).getD 0 + 1)
  { spool with
    delivery := some ⟨failures, now + seconds (delaySeconds failures)⟩ }

/-- `clear_retry_state`. -/
def clearRetryState (spool : Spool) : Spool :=
  { spool with delivery := none }

/-! ## What the operations keep -/

/-- The batch is in the spool. -/
def Holds (spool : Spool) (entry : String × List SecurityEvent) : Prop :=
  ∃ batch ∈ spool.outboundBatches.rows,
    batch.batchId = entry.1 ∧ batch.payload = entry.2

variable {spool next : Spool} {entry : String × List SecurityEvent}

theorem Holds.unique {batchId : String} {first second : List SecurityEvent}
    (left : spool.Holds (batchId, first))
    (right : spool.Holds (batchId, second)) : first = second := by
  obtain ⟨firstBatch, firstMember, firstId, rfl⟩ := left
  obtain ⟨secondBatch, secondMember, secondId, rfl⟩ := right
  have same : firstBatch = secondBatch := by
    apply spool.outboundBatches.eq_of_clash firstMember secondMember
    · simp [OutboundBatch.clash, firstId, secondId]
    · simp [OutboundBatch.clash, firstId, secondId]
  rw [same]

theorem Holds.insertBatch {batch : OutboundBatch} (holds : spool.Holds entry)
    (inserted : spool.insertBatch batch = some next) : next.Holds entry := by
  obtain ⟨stored, member, isEntry⟩ := holds
  obtain ⟨outboundBatches, added, rfl⟩ := Option.map_eq_some_iff.mp inserted
  refine ⟨stored, ?_, isEntry⟩
  rw [(Table.insert_eq_some.mp added).2]
  exact List.mem_append_left _ member

theorem holds_insertBatch {batch : OutboundBatch}
    (inserted : spool.insertBatch batch = some next) :
    next.Holds (batch.batchId, batch.payload) := by
  obtain ⟨outboundBatches, added, rfl⟩ := Option.map_eq_some_iff.mp inserted
  refine ⟨batch, ?_, rfl, rfl⟩
  rw [(Table.insert_eq_some.mp added).2]
  exact List.mem_append_right _ (List.mem_singleton_self batch)

theorem insertBatch_controlSnapshot {batch : OutboundBatch}
    (inserted : spool.insertBatch batch = some next) :
    next.controlSnapshot = spool.controlSnapshot := by
  obtain ⟨outboundBatches, -, rfl⟩ := Option.map_eq_some_iff.mp inserted
  rfl

theorem Holds.enqueueCollected {batchId fingerprint : String}
    {controlEvents telemetryEvents : List SecurityEvent}
    {intervalSeconds : Int} {now : Timestamp} (holds : spool.Holds entry)
    (enqueued : spool.enqueueCollected batchId controlEvents telemetryEvents
      fingerprint intervalSeconds now = some next) : next.Holds entry := by
  unfold Spool.enqueueCollected at enqueued
  extract_lets due at enqueued
  split at enqueued
  · cases enqueued
    exact holds
  · obtain ⟨spooled, inserted, returned⟩ :=
      Option.bind_eq_some_iff.mp enqueued
    have kept := holds.insertBatch inserted
    split at returned
    · cases returned
      exact kept
    · cases returned
      exact kept

theorem Holds.acknowledge {batchId : String} (holds : spool.Holds entry)
    (other : entry.1 ≠ batchId) : (spool.acknowledge batchId).Holds entry := by
  obtain ⟨stored, member, isId, isPayload⟩ := holds
  refine ⟨stored, Table.mem_deleteWhere.mpr ⟨member, ?_⟩, isId, isPayload⟩
  rw [isId]
  exact decide_eq_false other

theorem holds_of_acknowledge {batchId : String}
    (holds : (spool.acknowledge batchId).Holds entry) : spool.Holds entry := by
  obtain ⟨stored, member, isEntry⟩ := holds
  exact ⟨stored, (Table.mem_deleteWhere.mp member).1, isEntry⟩

@[simp] theorem holds_fail {batchId error : String} :
    (spool.fail batchId error).Holds entry ↔ spool.Holds entry := by
  simp [Holds, fail, Table.mapRows]

@[simp] theorem holds_recordRetryFailure {delaySeconds : Nat → Int}
    {now : Timestamp} :
    (spool.recordRetryFailure delaySeconds now).Holds entry ↔
      spool.Holds entry := Iff.rfl

@[simp] theorem holds_clearRetryState :
    spool.clearRetryState.Holds entry ↔ spool.Holds entry := Iff.rfl

theorem holds_of_pending {limit : Nat} (member : entry ∈ spool.pending limit) :
    spool.Holds entry := by
  obtain ⟨batch, taken, rfl⟩ := List.mem_map.mp member
  exact ⟨batch, mem_orderBy.mp (List.mem_of_mem_take taken), rfl, rfl⟩

/-- No batch is read twice. -/
theorem pending_nodup (limit : Nat) (spool : Spool) :
    ((spool.pending limit).map Prod.fst).Nodup := by
  unfold pending
  rw [List.map_map]
  apply ((List.take_sublist _ _).map _).nodup
  apply (orderBy_perm.map _).nodup_iff.mpr
  rw [List.Nodup, List.pairwise_map]
  refine spool.outboundBatches.unique.imp fun {left right} noClash same => ?_
  have clash : left.clash right = true := decide_eq_true same
  rw [clash] at noClash
  cases noClash

end Spool

end Telemetry

end ControlForge
