import ControlForge.Store.Jobs

/-!
# Alerts and cases

`persistAlertsAndCompleteJob` stores the alerts of a job, links each new alert
to the open case with its semantic key, opening the case when there is none,
and marks the job succeeded: all in one transaction.
-/

namespace ControlForge

namespace Store

/-! ## Keys and priorities -/

/-- `_case_priority`. -/
def casePriority : Severity → Priority
  | .critical => .critical
  | .high => .high
  | .medium => .medium
  | _ => .low

/-- The `CASE` expression that raises the priority of a case. -/
def raisedPriority (stored added : Priority) : Priority :=
  if stored = .critical ∨ added = .critical then .critical
  else if stored = .high ∨ added = .high then .high
  else if stored = .medium ∨ added = .medium then .medium
  else .low

theorem raisedPriority_eq_max (stored added : Priority) :
    raisedPriority stored added = max stored added := by
  cases stored <;> cases added <;> decide

section Keys

variable (library : Library)

/-- `_case_semantic_key`. -/
def caseSemanticKey (tenantId ruleId : String) (deviceId : Option String)
    (actor : String) : String :=
  let entity : Json := match deviceId with
    | some device => .arr [.str "device", .str device]
    | none => .arr [.str "actor", .str (library.casefold actor)]
  library.sha256 (Json.dumps false (.arr
    [.str "controlforge-case", .int 1, .str tenantId, .str ruleId, entity]))

/-- The identifier of the case an alert may open. -/
def caseIdOf (tenantId alertId : String) : String :=
  String.ofList
    ((library.sha256 (tenantId ++ ":case:" ++ alertId)).toList.take 32)

end Keys

/-! ## The rows of an alert -/

/-- The arguments of a completion that are the same for every alert. -/
structure Decision where
  ruleVersions : List (String × String)
  detectorVersion : String
  ruleDigests : List (String × String)
  ruleSnapshots : List (String × String)

def textArray (texts : List String) : Json :=
  .arr (texts.map .str)

def evidenceObject (event : EventRow) (alert : DetectionAlert) : Json :=
  .obj [("source_event_id", .str event.eventId),
    ("source_event_sha256", .str event.payloadSha256),
    ("matched_evidence", textArray alert.reasons)]

/-- The alert that is stored, with the version, digest and snapshot of its
rule. -/
def alertRow (decision : Decision) (event : EventRow)
    (alert : DetectionAlert) : AlertRow :=
  let ruleVersion := (decision.ruleVersions.lookup alert.ruleId).getD
    "stateful-v1"
  { tenantId := event.tenantId
    alertId := alert.alertId
    eventId := event.eventId
    ruleId := alert.ruleId
    ruleVersion
    ruleDigest := (decision.ruleDigests.lookup alert.ruleId).getD
      ("builtin:" ++ alert.ruleId ++ ":" ++ ruleVersion)
    ruleSnapshotJson := (decision.ruleSnapshots.lookup alert.ruleId).getD "{}"
    fingerprintVersion := "legacy-local-v0"
    detectorVersion := decision.detectorVersion
    title := alert.title
    severity := alert.severity
    actor := alert.actor
    reasonsJson := Json.dumps true (textArray alert.reasons)
    tagsJson := Json.dumps true (textArray alert.tags)
    evidenceJson := Json.dumps true (Json.sortKeys (evidenceObject event alert))
    createdAt := alert.createdAt }

/-- The semantic key of an alert of an event. -/
def alertKey (library : Library) (event : EventRow) (ruleId actor : String) :
    String :=
  caseSemanticKey library event.tenantId ruleId event.deviceId actor

/-- The case an alert opens. -/
def newCase (library : Library) (event : EventRow) (alert : DetectionAlert)
    (now : Timestamp) : CaseRow where
  tenantId := event.tenantId
  caseId := caseIdOf library event.tenantId alert.alertId
  title := alert.title
  priority := casePriority alert.severity
  status := .opened
  assigneeUserId := none
  openedAt := now
  updatedAt := now
  closedAt := none
  version := 1
  semanticKey := some (alertKey library event alert.ruleId alert.actor)
  investigationCycle := 1

section Programs

variable {Log : Type}

/-! ## Statements -/

def insertAlertOrIgnore (row : AlertRow) : Program Log Bool := fun database =>
  match database.alerts.insert row with
  | none => .ok (false, database)
  | some alerts => .ok (true, { database with alerts })

def insertCaseOrIgnore (row : CaseRow) : Program Log Bool := fun database =>
  match database.cases.insert row with
  | none => .ok (false, database)
  | some cases =>
      if row.tenantId ∈ database.tenants then .ok (true, { database with cases })
      else .error (.integrity "FOREIGN KEY constraint failed")

def insertCaseAlertOrIgnore (row : CaseAlertRow) : Program Log Unit :=
  fun database =>
    match database.caseAlerts.insert row with
    | none => .ok ((), database)
    | some caseAlerts => .ok ((), { database with caseAlerts })

def updateCases (selected : CaseRow → Bool) (change : CaseRow → CaseRow)
    (triggers : CaseRow → CaseRow → Option String) : Program Log Nat :=
  fun database =>
    match database.cases.updateWhere selected change
        (fun old new => (triggers old new).map .trigger)
        (.integrity "UNIQUE constraint failed") with
    | .ok (count, cases) => .ok (count, { database with cases })
    | .error failure => .error failure

/-- The open case with a semantic key. -/
def activeCase (tenantId semanticKey : String) : Program Log CaseRow := do
  let database ← get
  match database.cases.rows.find? (·.openWith tenantId semanticKey) with
  | some row => return row
  | none => throw (.runtime "active semantic case was not persisted")

def CaseRow.addAlert (priority : Priority) (now : Timestamp) (row : CaseRow) :
    CaseRow :=
  { row with
    updatedAt := now
    version := row.version + 1
    priority := raisedPriority row.priority priority }

/-- The update of a case that an alert joins; a case it opened is complete. -/
def joinCase (opened : Bool) (active : CaseRow) (priority : Priority)
    (now : Timestamp) : Program Log Unit :=
  if opened then pure ()
  else do
    let _ ← updateCases (·.hasKey active.tenantId active.caseId)
      (·.addAlert priority now) (fun _ _ => none)

/-! ## One alert -/

/-- What follows the insertion of an alert; nothing for a known one. -/
def aggregateAlert (library : Library) (event : EventRow)
    (alert : DetectionAlert) (now : Timestamp) (inserted : Bool) :
    Program Log Nat :=
  if inserted then do
    let opened ← insertCaseOrIgnore (newCase library event alert now)
    let active ← activeCase event.tenantId
      (alertKey library event alert.ruleId alert.actor)
    insertCaseAlertOrIgnore
      ⟨event.tenantId, active.caseId, alert.alertId, now⟩
    joinCase opened active (casePriority alert.severity) now
    return 1
  else return 0

/-- The body of the loop: the number of alerts it inserted. -/
def persistAlert (library : Library) (decision : Decision) (event : EventRow)
    (now : Timestamp) (alert : DetectionAlert) : Program Log Nat := do
  Transaction.require (alert.eventId = event.eventId)
    (.invalidValue "alert source event does not match the leased job")
  let inserted ← insertAlertOrIgnore (alertRow decision event alert)
  aggregateAlert library event alert now inserted

/-! ## Completion -/

structure AlertPersistenceResult where
  insertedAlerts : Nat
  jobStatus : JobStatus
deriving DecidableEq

/-- The lease is owned, and has not run out at the worker's time. -/
def JobRow.ownedUntil (workerId : String) (now : Timestamp) (job : JobRow) :
    Bool :=
  job.ownedBy workerId && job.leaseExpiresAt.any fun expires => now < expires

/-- The job and its event, when the worker owns a current lease. -/
def ownedJob (tenantId jobId workerId : String) (now : Timestamp) :
    Program Log EventRow := do
  let database ← get
  match database.jobs.rows.find? (·.hasKey tenantId jobId) with
  | none => throw (.leaseOwnership "worker does not own a current job lease")
  | some job =>
      match database.events.rows.find? (·.hasKey job.tenantId job.eventId) with
      | none =>
          throw (.leaseOwnership "worker does not own a current job lease")
      | some event =>
          if job.ownedUntil workerId now then return event
          else
            throw (.leaseOwnership "worker does not own a current job lease")

def JobRow.succeed (now : Timestamp) (job : JobRow) : JobRow :=
  { job with
    status := .succeeded
    leaseOwner := none
    leaseExpiresAt := none
    lastError := none
    updatedAt := now }

/-- `persist_alerts_and_complete_job`. -/
def persistAlertsAndCompleteJob (library : Library)
    (tenantId jobId workerId : String) (alerts : List DetectionAlert)
    (now : Timestamp) (decision : Decision) :
    Program Log AlertPersistenceResult := do
  let event ← ownedJob tenantId jobId workerId now
  let inserted ← alerts.mapM (persistAlert library decision event now)
  let _ ← updateJobs (·.hasKey tenantId jobId) (·.succeed now)
  return ⟨inserted.sum, .succeeded⟩

end Programs

end Store

end ControlForge
