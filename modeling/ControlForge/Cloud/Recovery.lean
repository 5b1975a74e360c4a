import ControlForge.Cloud.Dispatch
import ControlForge.Cloud.SignedRequests

/-!
# The scheduled handler of the cloud runtime

Every run recovers a bounded batch of unprocessed events of each of two
classes, oldest first, and then does the maintenance: it purges nonces, expires
response actions and runs the retention of telemetry.

What the detectors find in an event, and whether an alert can be stored, are
parameters; calls of the database do not fail.
-/

namespace ControlForge

namespace Cloud

namespace Recovery

open SignedRequests (NonceRow)

/-! ## Data -/

/-- The columns of `events` that never change. -/
structure StoredEvent where
  tenantId : String
  eventId : String
  eventType : String
  /-- `upper(json_extract(attributes_json, '$.decision'))`. -/
  decision : Option String
  receivedAt : Timestamp
deriving DecidableEq

structure EventRow where
  event : StoredEvent
  processedAt : Option Timestamp
  processingError : Option String
deriving DecidableEq

namespace EventRow

def hasKey (tenantId eventId : String) (row : EventRow) : Bool :=
  row.event.tenantId = tenantId ∧ row.event.eventId = eventId

def clash (left right : EventRow) : Bool :=
  left.hasKey right.event.tenantId right.event.eventId

def receivedAt (row : EventRow) : Timestamp :=
  row.event.receivedAt

end EventRow

/-- The row of `retention_state`. -/
structure RetentionState where
  lastStartedAt : Option Timestamp
  lastCompletedAt : Option Timestamp
  nextRunAt : Option Timestamp
  cutoffAt : Option Timestamp
  deletedEvents : Nat
  lastError : Option String
deriving DecidableEq

structure Database where
  events : Table EventRow EventRow.clash
  /-- The tenant and the event of every stored alert. -/
  alerts : List (String × String)
  nonces : Table NonceRow NonceRow.clash
  actions : Table Dispatch.ActionRow Dispatch.ActionRow.clash
  retention : RetentionState

/-- What the runtime computes outside this model.  A failure is the message of
the error that is thrown. -/
structure Processing (Alert : Type) where
  detectEvent : StoredEvent → Except String (List Alert)
  persistAlertAndCase : StoredEvent → Alert → Except String Unit

/-- The clock at the beginning of a run, while it recovers, when the retention
begins and when it ends. -/
structure Clock where
  now : Timestamp
  processedAt : Timestamp
  retentionNow : Timestamp
  completedAt : Timestamp

structure RetentionConfig where
  retentionDays : Nat
  retentionBatchSize : Nat
  retentionMaxBatches : Nat

/-! ## The recovery of events -/

def isSafeDecision (decision : String) : Bool :=
  ["DECISION_ALLOW", "DECISION_UNKNOWN"].contains decision

/-- The condition on the class of the first query; that of the second one is
its complement. -/
def StoredEvent.safe (event : StoredEvent) : Bool :=
  (event.eventType = "santa_execution" : Bool) &&
    event.decision.any isSafeDecision

/-- `ORDER BY received_at ASC LIMIT ?`. -/
def pendingBatch (safe : Bool) (limit : Nat) (database : Database) :
    List EventRow :=
  (orderBy EventRow.receivedAt (database.events.rows.filter fun row =>
    row.processedAt.isNone && row.event.safe == safe)).take limit

def safeRecoveryEventsPerRun : Nat := 500

def generalRecoveryEventsPerRun : Nat := 50

def recoveryConcurrency : Nat := 20

def Database.updateEvents (selected : EventRow → Bool)
    (processedAt : Option Timestamp) (processingError : Option String)
    (database : Database) : Database :=
  { database with
    events := database.events.mapRows (Table.applyWhere selected fun row =>
      { row with processedAt, processingError }) (by
        intro left right
        have kept (row : EventRow) : (Table.applyWhere selected (fun row =>
            { row with processedAt, processingError }) row).event =
              row.event := by
          unfold Table.applyWhere
          split
          · rfl
          · rfl
        simp only [EventRow.clash, EventRow.hasKey, kept left, kept right]) }

/-- `markEventProcessed`; an empty message counts as none. -/
def markEventProcessed (now : Timestamp) (tenantId eventId : String)
    (error : Option String) (database : Database) : Database :=
  database.updateEvents (·.hasKey tenantId eventId)
    (if error.getD "" = "" then some now else none) error

/-- `markEventsProcessed`. -/
def markEventsProcessed (now : Timestamp) (events : List EventRow)
    (database : Database) : Database :=
  database.updateEvents (fun row => events.any fun marked =>
    row.hasKey marked.event.tenantId marked.event.eventId) (some now) none

section Processing

variable {Alert : Type} (processing : Processing Alert)

/-- The loop over the safe events; the first failure is thrown on. -/
def checkSafe : List EventRow → Option String
  | [] => none
  | row :: rows =>
      match processing.detectEvent row.event with
      | .error message => some message
      | .ok [] => checkSafe rows
      | .ok (_ :: _) =>
          some "safe Santa recovery classification unexpectedly produced an alert"

def persistAlerts (event : StoredEvent) : List Alert → Database →
    Option String × Database
  | [], database => (none, database)
  | alert :: alerts, database =>
      match processing.persistAlertAndCase event alert with
      | .error message => (some message, database)
      | .ok () => persistAlerts event alerts { database with
          alerts := database.alerts ++ [(event.tenantId, event.eventId)] }

/-- `processEvent`: what it throws on, and the database after it. -/
def processEvent (now : Timestamp) (tenantId eventId : String)
    (database : Database) : Option String × Database :=
  match database.events.rows.find? (·.hasKey tenantId eventId) with
  | none => (none, database)
  | some row =>
      if row.processedAt.isSome then (none, database)
      else
        let attempt :=
          match processing.detectEvent row.event with
          | .error message => (some message, database)
          | .ok alerts => persistAlerts processing row.event alerts database
        match attempt with
        | (none, database) =>
            (none, markEventProcessed now tenantId eventId none database)
        | (some message, database) =>
            (some message, markEventProcessed now tenantId eventId
              (some (String.ofList (message.toList.take 500))) database)

/-- `Promise.all` over a chunk: all of it runs, and a failure is thrown on. -/
def processChunk (now : Timestamp) : List EventRow → Database →
    Option String × Database
  | [], database => (none, database)
  | row :: rows, database =>
      let first := processEvent processing now row.event.tenantId
        row.event.eventId database
      let rest := processChunk now rows first.2
      (first.1 <|> rest.1, rest.2)

/-- The loop over the chunks; `count` bounds their number. -/
def recoverChunks (now : Timestamp) : (count : Nat) → List EventRow →
    Database → Option String × Database
  | 0, _, database | _ + 1, [], database => (none, database)
  | count + 1, rows, database =>
      match processChunk processing now (rows.take recoveryConcurrency)
          database with
      | (some message, database) => (some message, database)
      | (none, database) =>
          recoverChunks now count (rows.drop recoveryConcurrency) database

/-- The part of a run before its maintenance. -/
def recover (clock : Clock) (database : Database) :
    Option String × Database :=
  let safePending := pendingBatch true safeRecoveryEventsPerRun database
  match checkSafe processing safePending with
  | some message => (some message, database)
  | none =>
      let database :=
        markEventsProcessed clock.processedAt safePending database
      let generalPending :=
        pendingBatch false generalRecoveryEventsPerRun database
      recoverChunks processing clock.processedAt generalPending.length
        generalPending database

end Processing

/-! ## Maintenance -/

/-- The batch of the two statements. -/
def purgeAndExpire (now : Timestamp) (database : Database) : Database :=
  { database with
    nonces := database.nonces.deleteWhere fun row => row.expiresAt < now
    actions := (Dispatch.Database.update (Dispatch.isOverdue now)
      Dispatch.expired (fun _ => ⟨rfl, rfl⟩) ⟨database.actions, now⟩).actions }

/-- The condition under which telemetry may be deleted. -/
def isRetired (cutoffAt : Timestamp) (alerts : List (String × String))
    (row : EventRow) : Bool :=
  row.processedAt.isSome && row.processingError.isNone &&
    (row.receivedAt < cutoffAt : Bool) &&
    !alerts.contains (row.event.tenantId, row.event.eventId)

/-- The rows of one `DELETE`, oldest first. -/
def retiredBatch (cutoffAt : Timestamp) (limit : Nat) (database : Database) :
    List EventRow :=
  (orderBy EventRow.receivedAt (database.events.rows.filter
    (isRetired cutoffAt database.alerts))).take limit

/-- The loop of `runTelemetryRetention`, with the events deleted so far. -/
def deleteRetired (config : RetentionConfig) (cutoffAt : Timestamp) :
    (batches : Nat) → (deletedEvents : Nat) → Database → Nat × Database
  | 0, deletedEvents, database => (deletedEvents, database)
  | batches + 1, deletedEvents, database =>
      let batch := retiredBatch cutoffAt config.retentionBatchSize database
      let next := { database with
        events := database.events.deleteWhere fun row => batch.contains row }
      if batch.length < config.retentionBatchSize then
        (deletedEvents + batch.length, next)
      else
        deleteRetired config cutoffAt batches (deletedEvents + batch.length) next

structure RetentionReport where
  deletedEvents : Nat
  skipped : Bool
deriving DecidableEq

/-- `runTelemetryRetention`. -/
def runTelemetryRetention (config : RetentionConfig) (clock : Clock)
    (database : Database) : RetentionReport × Database :=
  if database.retention.nextRunAt.any fun time => clock.retentionNow < time then
    (⟨0, true⟩, database)
  else
    let cutoffAt := clock.retentionNow - seconds (86400 * config.retentionDays)
    let (deletedEvents, database) :=
      deleteRetired config cutoffAt config.retentionMaxBatches 0 database
    let saturated : Bool :=
      deletedEvents = config.retentionBatchSize * config.retentionMaxBatches
    (⟨deletedEvents, false⟩, { database with
      retention := {
        lastStartedAt := some clock.retentionNow
        lastCompletedAt := some clock.completedAt
        nextRunAt := some (clock.retentionNow +
          (if saturated then seconds 300 else seconds 86400))
        cutoffAt := some cutoffAt
        deletedEvents
        lastError := none } })

/-! ## A run -/

/-- `scheduled`: the report of its last call, or what it throws. -/
def scheduled {Alert : Type} (processing : Processing Alert)
    (config : RetentionConfig) (clock : Clock) (database : Database) :
    Except String RetentionReport × Database :=
  match recover processing clock database with
  | (some message, database) => (.error message, database)
  | (none, database) =>
      let (report, database) := runTelemetryRetention config clock
        (purgeAndExpire clock.now database)
      (.ok report, database)

/-- The database after consecutive runs, with no arrivals in between. -/
def runs {Alert : Type} (processing : Processing Alert)
    (config : RetentionConfig) : List Clock → Database → Database
  | [], database => database
  | clock :: clocks, database =>
      runs processing config clocks
        (scheduled processing config clock database).2

end Recovery

end Cloud

end ControlForge
