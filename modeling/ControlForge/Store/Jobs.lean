import ControlForge.Foundation.OrderBy
import ControlForge.Store.Tables
import Mathlib.Data.Prod.Lex

/-!
# Ingestion and detection jobs

Every operation is one transaction of `StandaloneStore`.  The keys that a
foreign key of an inserted row names are looked up where the row does not come
from the same transaction.
-/

namespace ControlForge

namespace Store

/-- Functions of the language's library. -/
structure Library where
  /-- The hexadecimal SHA-256 of a text. -/
  sha256 : String → String
  /-- `str.casefold`. -/
  casefold : String → String

section Programs

variable {Log : Type}

/-! ## Statements on jobs -/

def updateJobs (selected : JobRow → Bool) (change : JobRow → JobRow) :
    Program Log Nat := fun database =>
  match database.jobs.updateWhere selected change (fun _ _ => none)
      (.integrity "UNIQUE constraint failed") with
  | .ok (count, jobs) => .ok (count, { database with jobs })
  | .error failure => .error failure

def insertJob (row : JobRow) : Program Log Unit := fun database =>
  match database.jobs.insert row with
  | some jobs => .ok ((), { database with jobs })
  | none => .error (.integrity "UNIQUE constraint failed")

/-! ## Ingestion -/

structure IngestResult where
  accepted : Bool
  eventId : String
  jobId : String
deriving DecidableEq

/-- `_canonical_event`. -/
def canonicalEvent (event : SecurityEvent) : String :=
  Json.dumps true (Json.sortKeys event.dump)

/-- `_job_id`. -/
def jobId (library : Library) (tenantId eventId : String) : String :=
  library.sha256 (tenantId ++ ":detect:" ++ eventId ++ ":v1")

def eventRow (library : Library) (tenantId : String) (event : SecurityEvent)
    (receivedAt : Timestamp) : EventRow where
  tenantId
  eventId := event.eventId
  eventType := event.eventType
  occurredAt := event.timestamp.instant
  receivedAt
  actor := event.actor
  sourceIp := event.sourceIp
  target := event.target
  deviceId := event.deviceId
  payloadJson := canonicalEvent event
  payloadSha256 := library.sha256 (canonicalEvent event)

def pendingJob (library : Library) (tenantId eventId : String)
    (receivedAt : Timestamp) : JobRow where
  tenantId
  jobId := jobId library tenantId eventId
  eventId
  status := .pending
  attempts := 0
  availableAt := receivedAt
  leaseOwner := none
  leaseExpiresAt := none
  lastError := none
  createdAt := receivedAt
  updatedAt := receivedAt

/-- The foreign keys of an event. -/
def eventReferences (database : Database Log) (row : EventRow) : Bool :=
  row.tenantId ∈ database.tenants ∧
    ∀ deviceId ∈ row.deviceId, (row.tenantId, deviceId) ∈ database.devices

/-- `INSERT OR IGNORE INTO events`, and whether it inserted. -/
def insertEventOrIgnore (row : EventRow) : Program Log Bool := fun database =>
  match database.events.insert row with
  | none => .ok (false, database)
  | some events =>
      if eventReferences database row then .ok (true, { database with events })
      else .error (.integrity "FOREIGN KEY constraint failed")

/-- What follows the insertion: a job for a new event, a comparison of the
content for an old one. -/
def queueOrCompare (job : JobRow) (row : EventRow) (accepted : Bool) :
    Program Log Unit :=
  if accepted then insertJob job
  else do
    let database ← get
    match database.events.rows.find? (·.hasKey row.tenantId row.eventId) with
    | some existing =>
        Transaction.require (existing.payloadSha256 = row.payloadSha256)
          (.identityConflict
            "event identity already exists with different content")
    | none =>
        throw (.identityConflict
          "event identity already exists with different content")

/-- `_ingest_on_connection`. -/
def ingestOnConnection (library : Library) (tenantId : String)
    (receivedAt : Timestamp) (event : SecurityEvent) :
    Program Log IngestResult := do
  let row := eventRow library tenantId event receivedAt
  let job := pendingJob library tenantId event.eventId receivedAt
  let accepted ← insertEventOrIgnore row
  queueOrCompare job row accepted
  return ⟨accepted, event.eventId, job.jobId⟩

/-- `ingest_event`. -/
def ingestEvent (library : Library) (tenantId : String)
    (event : SecurityEvent) (receivedAt : Timestamp) :
    Program Log IngestResult :=
  ingestOnConnection library tenantId receivedAt event

/-- `ingest_events`. -/
def ingestEvents (library : Library) (tenantId : String)
    (events : List SecurityEvent) (receivedAt : Timestamp) :
    Program Log (List IngestResult) := do
  Transaction.require (events ≠ [])
    (.invalidValue "event batch must not be empty")
  Transaction.require (events.length ≤ 1000)
    (.invalidValue "event batch must contain at most 1000 events")
  events.mapM (ingestOnConnection library tenantId receivedAt)

/-! ## Leases -/

structure JobLease where
  tenantId : String
  jobId : String
  eventId : String
  attempts : Nat
  leaseOwner : String
  leaseExpiresAt : Timestamp
deriving DecidableEq

/-- The jobs a worker may claim: those that wait, and those whose lease has
run out. -/
def JobRow.ready (now : Timestamp) (job : JobRow) : Bool :=
  match job.status with
  | .pending | .retry => job.availableAt ≤ now
  | .leased => job.leaseExpiresAt.any fun expires => expires ≤ now
  | .succeeded | .dead => false

/-- The columns `ORDER BY` names. -/
abbrev QueueKey : Type := Timestamp ×ₗ Timestamp ×ₗ Timestamp ×ₗ String

def queueKey (entry : JobRow × EventRow) : QueueKey :=
  toLex (entry.2.occurredAt, toLex (entry.2.receivedAt,
    toLex (entry.1.createdAt, entry.1.jobId)))

/-- The ready jobs of a tenant, each with its event. -/
def readyEntries (database : Database Log) (tenantId : String)
    (now : Timestamp) : List (JobRow × EventRow) :=
  (database.jobs.rows.filter fun job =>
      job.tenantId = tenantId && job.ready now).filterMap fun job =>
    (database.events.rows.find? (·.hasKey job.tenantId job.eventId)).map
      fun event => (job, event)

/-- The identifiers of the jobs to claim, oldest first. -/
def readyJobIds (database : Database Log) (tenantId : String)
    (now : Timestamp) (limit : Nat) : List String :=
  ((orderBy queueKey (readyEntries database tenantId now)).take limit).map
    fun entry => entry.1.jobId

def JobRow.leaseTo (workerId : String) (expires now : Timestamp)
    (job : JobRow) : JobRow :=
  { job with
    status := .leased
    attempts := job.attempts + 1
    leaseOwner := some workerId
    leaseExpiresAt := some expires
    updatedAt := now }

def JobRow.lease? (job : JobRow) : Option JobLease := do
  let leaseOwner ← job.leaseOwner
  let leaseExpiresAt ← job.leaseExpiresAt
  return {
    tenantId := job.tenantId
    jobId := job.jobId
    eventId := job.eventId
    attempts := job.attempts
    leaseOwner
    leaseExpiresAt }

/-- The leases a worker reads back. -/
def readLeases (tenantId : String) (jobIds : List String)
    (database : Database Log) : List JobLease :=
  jobIds.filterMap fun jobId =>
    (database.jobs.rows.find? (·.hasKey tenantId jobId)).bind JobRow.lease?

/-- `lease_jobs`. -/
def leaseJobs (tenantId workerId : String) (limit : Int) (now : Timestamp)
    (leaseSeconds : Int) : Program Log (List JobLease) := do
  Transaction.require (1 ≤ workerId.length ∧ workerId.length ≤ 128)
    (.invalidValue "worker_id must contain between 1 and 128 characters")
  Transaction.require (1 ≤ limit ∧ limit ≤ 100)
    (.invalidValue "lease limit must be between 1 and 100")
  Transaction.require (5 ≤ leaseSeconds ∧ leaseSeconds ≤ 3600)
    (.invalidValue "lease_seconds must be between 5 and 3600")
  let database ← get
  let jobIds := readyJobIds database tenantId now limit.toNat
  jobIds.forM fun jobId => do
    let _ ← updateJobs (·.hasKey tenantId jobId)
      (·.leaseTo workerId (now + seconds leaseSeconds) now)
  let leased ← get
  return readLeases tenantId jobIds leased

/-! ## Owned transitions -/

structure JobTransition where
  changed : Bool
  status : JobStatus
  attempts : Nat
deriving DecidableEq

/-- A worker owns the lease of a job. -/
def JobRow.ownedBy (workerId : String) (job : JobRow) : Bool :=
  job.status = .leased ∧ job.leaseOwner = some workerId

/-- The end of a lease: the status, the time of the next attempt and the
recorded error. -/
structure LeaseEnd where
  status : JobStatus
  availableAt : Timestamp
  error : Option String

def JobRow.endLease (result : LeaseEnd) (now : Timestamp) (job : JobRow) :
    JobRow :=
  { job with
    status := result.status
    availableAt := result.availableAt
    leaseOwner := none
    leaseExpiresAt := none
    lastError := result.error
    updatedAt := now }

def failedEnd (attempts : Nat) (now : Timestamp) (error : String)
    (maxAttempts retryDelaySeconds : Int) : LeaseEnd :=
  if maxAttempts ≤ attempts then ⟨.dead, now, some error⟩
  else ⟨.retry, now + seconds retryDelaySeconds, some error⟩

/-- `_transition_owned_job`: nothing happens to a job the worker does not
own. -/
def transitionOwnedJob (tenantId jobId workerId : String) (now : Timestamp)
    (result : JobRow → LeaseEnd) : Program Log JobTransition := do
  let database ← get
  match database.jobs.rows.find? (·.hasKey tenantId jobId) with
  | none => return ⟨false, .dead, 0⟩
  | some job =>
      if job.ownedBy workerId then do
        let _ ← updateJobs (·.hasKey tenantId jobId)
          (·.endLease (result job) now)
        return ⟨true, (result job).status, job.attempts⟩
      else return ⟨false, job.status, job.attempts⟩

/-- `complete_job`. -/
def completeJob (tenantId jobId workerId : String) (now : Timestamp) :
    Program Log JobTransition :=
  transitionOwnedJob tenantId jobId workerId now fun _ =>
    ⟨.succeeded, now, none⟩

/-- `fail_job`. -/
def failJob (tenantId jobId workerId : String) (now : Timestamp)
    (error : String) (maxAttempts retryDelaySeconds : Int) :
    Program Log JobTransition := do
  Transaction.require (1 ≤ maxAttempts ∧ maxAttempts ≤ 100)
    (.invalidValue "max_attempts must be between 1 and 100")
  Transaction.require (0 ≤ retryDelaySeconds ∧ retryDelaySeconds ≤ 86400)
    (.invalidValue "retry_delay_seconds must be between 0 and 86400")
  let bounded := String.ofList (error.toList.take 1000)
  transitionOwnedJob tenantId jobId workerId now fun job =>
    failedEnd job.attempts now bounded maxAttempts retryDelaySeconds

end Programs

end Store

end ControlForge
