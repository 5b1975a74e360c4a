import ControlForge.Cloud.Canonical
import ControlForge.Cloud.Tables
import ControlForge.Foundation.Chunks
import ControlForge.Foundation.Effect

/-!
# Ingestion in the cloud runtime

`persistEvents` stores a batch of events and enqueues their identifiers, while
other ingestions store theirs between its statements.
-/

namespace ControlForge

namespace Cloud

namespace Ingestion

abbrev Events := Table EventRow EventRow.clash

/-! ## The database -/

/-- The condition of `events_conflicting_duplicate_guard`. -/
def conflicts (events : Events) (row : EventRow) : Bool :=
  events.rows.any fun existing =>
    existing.hasKey row.tenantId row.eventId &&
      existing.payloadSha256 ≠ row.payloadSha256

/-- `INSERT OR IGNORE INTO events`, with the changes it counts.  Nothing where
the trigger aborts. -/
def insertOrIgnore (events : Events) (row : EventRow) : Option (Events × Nat) :=
  if conflicts events row then none
  else
    match events.insert row with
    | some next => some (next, 1)
    | none => some (events, 0)

/-- `DB.batch`: all statements, or none. -/
def insertBatch : Events → List EventRow → Option (Events × List Nat)
  | events, [] => some (events, [])
  | events, row :: rows => do
      let (next, changes) ← insertOrIgnore events row
      let (final, results) ← insertBatch next rows
      return (final, changes :: results)

/-- What a batch leaves. -/
def ingestBatch (events : Events) (rows : List EventRow) : Events :=
  match insertBatch events rows with
  | some (next, _) => next
  | none => events

/-! ## The call -/

structure NormalizedEvent where
  event : SecurityEvent
  canonicalPayload : String
  occurrences : Nat
  payloadSha256 : String

structure QueueMessage where
  tenantId : String
  eventIds : List String
  attemptId : String
deriving DecidableEq

/-- A batch of the call, and the table it has met. -/
structure InsertAttempt where
  before : Events
  rows : List EventRow

structure World where
  events : Events
  /-- The batches of other ingestions, ahead of each statement to come. -/
  others : List (List (List EventRow))
  attempts : List InsertAttempt
  sent : List QueueMessage

/-- The world a call begins in. -/
def World.start (events : Events) (others : List (List (List EventRow))) :
    World :=
  ⟨events, others, [], []⟩

/-- Other ingestions, ahead of the next statement. -/
def World.meet (world : World) : World :=
  match world.others with
  | [] => world
  | batches :: others =>
      { world with events := batches.foldl ingestBatch world.events, others }

inductive IngestionError where
  | tooLarge (eventId : String)
  /-- `EventIdentityConflictError`. -/
  | conflict
  | resultCount
deriving DecidableEq

def IngestionError.message : IngestionError → String
  | .tooLarge eventId => s!"event {eventId} exceeds the 64 KB normalized limit"
  | .conflict => "event identity conflicts with a previously accepted payload"
  | .resultCount => "D1 batch result count does not match event count"

abbrev Ingest := ControlForge.Effect World IngestionError

def select (selected : EventRow → Bool) : Ingest (List EventRow) := do
  ControlForge.Effect.modify World.meet
  ControlForge.Effect.gets fun world => world.events.rows.filter selected

/-- The changes of a batch; nothing where it has been aborted. -/
def databaseBatch (rows : List EventRow) : Ingest (Option (List Nat)) := do
  ControlForge.Effect.modify World.meet
  let before ← ControlForge.Effect.gets World.events
  ControlForge.Effect.modify fun world =>
    { world with attempts := world.attempts ++ [⟨before, rows⟩] }
  match insertBatch before rows with
  | none => return none
  | some (next, results) =>
      ControlForge.Effect.modify fun world => { world with events := next }
      return some results

/-- `SELECT ... WHERE tenant_id = ? AND event_id IN (...)`. -/
def isAmong (tenantId : String) (eventIds : List String) (row : EventRow) : Bool :=
  row.tenantId = tenantId && eventIds.contains row.eventId

/-- `hashes.set`. -/
def setHash (hashes : String → Option String) (row : EventRow) :
    String → Option String :=
  Function.update hashes row.eventId (some row.payloadSha256)

def existingEventHashes (tenantId : String) (eventIds : List String) :
    Ingest (String → Option String) :=
  (slices 90 eventIds).foldlM (fun hashes chunk => do
    let existing ← select (isAmong tenantId chunk)
    return existing.foldl setHash hashes) fun _ => none

def eventIdsPerQueueMessage : Nat := 50
def queueMessagesPerSend : Nat := 25

/-- `crypto.randomUUID()`, once for each message. -/
structure Runtime where
  sha256Hex : String → String
  attemptId : Nat → String

section Functions

variable (runtime : Runtime)

def normalize (event : SecurityEvent) : Except IngestionError NormalizedEvent :=
  let canonicalPayload := canonicalize event.dump
  if 64000 < canonicalPayload.utf8ByteSize then
    .error (.tooLarge event.eventId)
  else
    .ok {
      event, canonicalPayload
      occurrences := 1
      payloadSha256 := runtime.sha256Hex canonicalPayload }

/-- The loop over `uniqueById`. -/
def collect : List NormalizedEvent → List NormalizedEvent →
    Except IngestionError (List NormalizedEvent)
  | unique, [] => .ok unique
  | unique, normalized :: rest =>
      match unique.find? (·.event.eventId = normalized.event.eventId) with
      | none => collect (unique ++ [normalized]) rest
      | some prior =>
          if prior.payloadSha256 ≠ normalized.payloadSha256 then .error .conflict
          else
            collect (unique.map fun entry =>
              if entry.event.eventId = normalized.event.eventId then
                { entry with occurrences := entry.occurrences + 1 }
              else entry) rest

def NormalizedEvent.repeated (normalized : NormalizedEvent) : List String :=
  List.replicate normalized.occurrences normalized.event.eventId

/-- The candidates, and the duplicates of stored events. -/
def separate (existingHashes : String → Option String) :
    List NormalizedEvent →
      Except IngestionError (List NormalizedEvent × List String)
  | [] => .ok ([], [])
  | normalized :: rest =>
      match existingHashes normalized.event.eventId with
      | none => do
          let (candidates, duplicates) ← separate existingHashes rest
          return (normalized :: candidates, duplicates)
      | some existingHash =>
          if existingHash ≠ normalized.payloadSha256 then .error .conflict
          else do
            let (candidates, duplicates) ← separate existingHashes rest
            return (candidates, normalized.repeated ++ duplicates)

/-- What an insert binds. -/
def NormalizedEvent.row (tenantId : String) (receivedAt : Timestamp)
    (normalized : NormalizedEvent) : EventRow where
  tenantId
  eventId := normalized.event.eventId
  eventType := normalized.event.eventType
  occurredAt := normalized.event.timestamp
  receivedAt
  actor := normalized.event.actor
  sourceIp := normalized.event.sourceIp
  target := normalized.event.target
  deviceId := normalized.event.deviceId
  attributes := normalized.event.attributes
  payloadSha256 := normalized.payloadSha256
  processedAt := none
  processingError := none

structure Progress where
  accepted : List String
  duplicates : List String
  raced : List NormalizedEvent

/-- The loop over the results of a batch. -/
def Progress.record (progress : Progress) :
    List Nat → List NormalizedEvent → Except IngestionError Progress
  | [], _ => .ok progress
  | _ :: _, [] => .error .resultCount
  | changes :: results, normalized :: chunk =>
      if changes = 1 then
        record {
          progress with
          accepted := progress.accepted ++ [normalized.event.eventId]
          duplicates := progress.duplicates ++
            List.replicate (normalized.occurrences - 1) normalized.event.eventId }
          results chunk
      else
        record { progress with raced := progress.raced ++ [normalized] }
          results chunk

def insertChunk (tenantId : String) (receivedAt : Timestamp) (progress : Progress)
    (chunk : List NormalizedEvent) : Ingest Progress := do
  match ← databaseBatch (chunk.map (·.row tenantId receivedAt)) with
  | none => throw .conflict
  | some results => ControlForge.Effect.ofExcept (progress.record results chunk)

/-- The duplicates among the events that another ingestion has stored. -/
def confirm (racedHashes : String → Option String) :
    List NormalizedEvent → Except IngestionError (List String)
  | [] => .ok []
  | normalized :: rest =>
      if racedHashes normalized.event.eventId ≠ some normalized.payloadSha256 then
        .error .conflict
      else do
        let duplicates ← confirm racedHashes rest
        return normalized.repeated ++ duplicates

def confirmRaced (tenantId : String) (raced : List NormalizedEvent) :
    Ingest (List String) :=
  if raced = [] then pure []
  else do
    let racedHashes ← existingEventHashes tenantId (raced.map (·.event.eventId))
    ControlForge.Effect.ofExcept (confirm racedHashes raced)

def pendingDuplicates (tenantId : String) (uniqueDuplicates : List String) :
    Ingest (List String) :=
  (slices 90 uniqueDuplicates).foldlM (fun pendingDuplicates chunk => do
    let pending ← select fun row =>
      isAmong tenantId chunk row && row.processedAt.isNone
    return pendingDuplicates ++ pending.map (·.eventId)) []

def sendBatch (messages : List QueueMessage) : Ingest Unit :=
  ControlForge.Effect.modify fun world => { world with sent := world.sent ++ messages }

def queueMessages (tenantId : String) (eventIds : List String) :
    List QueueMessage :=
  (slices eventIdsPerQueueMessage eventIds).mapIdx fun index eventIds =>
    ⟨tenantId, eventIds, runtime.attemptId index⟩

def enqueueEventIds (tenantId : String) (eventIds : List String) : Ingest Unit :=
  (slices queueMessagesPerSend (queueMessages runtime tenantId eventIds)).foldlM
    (fun _ messages => sendBatch messages) ()

/-- The candidates, and the duplicates among stored events. -/
def prepare (tenantId : String) (events : List SecurityEvent) :
    Ingest (List NormalizedEvent × List String) := do
  let normalizedInput ← ControlForge.Effect.ofExcept (events.mapM (normalize runtime))
  let normalizedEvents ← ControlForge.Effect.ofExcept (collect [] normalizedInput)
  let existingHashes ← existingEventHashes tenantId
    (normalizedEvents.map (·.event.eventId))
  ControlForge.Effect.ofExcept (separate existingHashes normalizedEvents)

/-- After the inserts. -/
def finish (tenantId : String) (progress : Progress) :
    Ingest (List String × List String) := do
  let raced ← confirmRaced tenantId progress.raced
  let duplicates := progress.duplicates ++ raced
  let pending ← pendingDuplicates tenantId duplicates.eraseDups
  enqueueEventIds runtime tenantId (progress.accepted ++ pending)
  return (progress.accepted, duplicates)

/-- The identifiers of the accepted events and of the duplicates. -/
def persistEvents (tenantId : String) (receivedAt : Timestamp)
    (events : List SecurityEvent) : Ingest (List String × List String) := do
  let (candidates, duplicates) ← prepare runtime tenantId events
  let progress ← (slices 100 candidates).foldlM (insertChunk tenantId receivedAt)
    ⟨[], duplicates, []⟩
  finish runtime tenantId progress

end Functions

end Ingestion

end Cloud

end ControlForge
