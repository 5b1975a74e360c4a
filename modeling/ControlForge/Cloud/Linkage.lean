import ControlForge.Cloud.CaseWorkflow

/-!
# Processing of an event

An execution of `processEvent` loads its event, runs the detectors, and stores
and links their alerts one after the other.  The detectors and the hash are
parameters.
-/

namespace ControlForge

namespace Cloud

/-- What `detectEvent` does after its queries so far. -/
inductive DetectEventStep where
  | queries
  | raises
  | returns (alerts : List DetectionAlert)

/-- What `processEvent` calls. -/
structure Detectors where
  /-- The hexadecimal SHA-256 of a text. -/
  sha256 : String → String
  /-- `detectEvent`, on the stored events as each of its queries found them. -/
  detect : EventRow → List (List EventRow) → DetectEventStep
  /-- The alerts are those of `createAlert`. -/
  created : ∀ event tables alerts, detect event tables = .returns alerts →
    ∀ alert ∈ alerts, alert.eventId = event.eventId ∧
      alert.actor = event.actor

/-- Where `persistAlertAndCase` is suspended. -/
inductive PersistPoint where
  | insertAlert
  | readOccurrence (inserted : Bool)
  | readLink (alertId : String)
  | openCase (alertId : String)
  | readCase (alertId : String) (now : Timestamp)
  | link (alertId caseId : String) (now : Timestamp)
deriving DecidableEq

/-- Where `processEvent` is suspended. -/
inductive ExecutionPoint where
  | load
  | detect (event : EventRow) (tables : List (List EventRow))
  /-- The alerts that are persisted, the one at hand, and the others. -/
  | persist (event : EventRow) (before : List DetectionAlert)
      (alert : DetectionAlert) (after : List DetectionAlert)
      (point : PersistPoint)
  | mark (alerts : List DetectionAlert)
  | markFailed (summary : String)
  | finished

/-- The event of an execution. -/
structure Execution where
  tenantId : String
  eventId : String
deriving DecidableEq

namespace Execution

variable (detectors : Detectors) (execution : Execution)

/-- `entity`. -/
def entity (event : EventRow) (actor : String) : String :=
  match event.deviceId with
  | some deviceId =>
      if deviceId = "" then "actor:" ++ actor else "device:" ++ deviceId
  | none => "actor:" ++ actor

/-- `semanticKey`. -/
def semanticKey (event : EventRow) (alert : DetectionAlert) : String :=
  detectors.sha256 (execution.tenantId ++ ":case-semantic:v1:" ++
    alert.ruleId ++ ":" ++ entity event alert.actor)

def casePriority : Severity → Priority
  | .critical => .critical
  | .high => .high
  | .medium => .medium
  | _ => .low

def newCase (semanticKey caseId : String) (alert : DetectionAlert)
    (now : Timestamp) : CaseRow where
  tenantId := execution.tenantId
  caseId
  semanticKey := some semanticKey
  title := alert.title
  priority := casePriority alert.severity
  status := .opened
  openedAt := now
  updatedAt := now
  closedAt := none
  assigneePrincipalId := none
  dispositionRequiredAfter := none

/-- `INSERT OR IGNORE INTO cases`. -/
def insertCase (row : CaseRow) (database : Database) : Database :=
  match database.cases.insert row with
  | some cases => { database with cases }
  | none => database

/-- The higher of two priorities. -/
def raisedPriority (stored raised : Priority) : Priority :=
  if stored = .critical ∨ raised = .critical then .critical
  else if stored = .high ∨ raised = .high then .high
  else if stored = .medium ∨ raised = .medium then .medium
  else .low

/-- The columns the last update sets. -/
def joined (severity : Severity) (now : Timestamp) (row : CaseRow) : CaseRow :=
  { row with
    updatedAt := now
    priority := raisedPriority row.priority (casePriority severity) }

theorem clash_joined (severity : Severity) (now : Timestamp)
    (selected : CaseRow → Bool) (left right : CaseRow) :
    (Table.applyWhere selected (joined severity now) left).clash
        (Table.applyWhere selected (joined severity now) right) =
      left.clash right := by
  unfold Table.applyWhere
  split <;> split <;> rfl

/-- The batch that links the alert and raises the priority of the case. -/
def linkCase (alertId caseId : String) (severity : Severity)
    (now : Timestamp) (database : Database) : Database :=
  let caseAlerts :=
    (database.caseAlerts.insert
      ⟨execution.tenantId, caseId, alertId, now⟩).getD database.caseAlerts
  { database with
    caseAlerts
    cases := database.cases.mapRows
      (Table.applyWhere (·.hasKey execution.tenantId caseId)
        (joined severity now)) (clash_joined severity now _) }

/-- `INSERT OR IGNORE INTO alerts`, and whether it inserted. -/
def insertAlert (alert : DetectionAlert) (now : Timestamp)
    (database : Database) : Bool × Database :=
  match database.alerts.insert ⟨execution.tenantId, alert⟩ with
  | none => (false, database)
  | some alerts =>
      (true, { database with
        alerts
        audit := database.audit ++
          [auditRow execution.tenantId "alert.created" "detector" "alert"
            alert.alertId [("rule_id", alert.ruleId),
              ("rule_digest", alert.ruleDigest)] now] })

/-- The next alert of the loop, or the end of it. -/
def advance (event : EventRow) (before : List DetectionAlert) :
    List DetectionAlert → ExecutionPoint
  | [] => .mark before
  | alert :: after => .persist event before alert after .insertAlert

/-- `persistAlertAndCase`, from one of its points. -/
def resumePersist (input : Input) (event : EventRow)
    (before : List DetectionAlert) (alert : DetectionAlert)
    (after : List DetectionAlert) (point : PersistPoint)
    (database : Database) : ExecutionPoint × Database :=
  let atPoint := fun next : PersistPoint =>
    ExecutionPoint.persist event before alert after next
  let key := execution.semanticKey detectors event alert
  match point with
  | .insertAlert =>
      let (inserted, database) :=
        execution.insertAlert alert input.auditNow database
      (atPoint (.readOccurrence inserted), database)
  | .readOccurrence inserted =>
      match database.alerts.rows.find?
          (·.hasOccurrence execution.tenantId alert.ruleId alert.eventId) with
      | none =>
          (.markFailed "semantic alert occurrence was not persisted", database)
      | some stored =>
          if !inserted || stored.alert.alertId ≠ alert.alertId then
            (atPoint (.readLink stored.alert.alertId), database)
          else (atPoint (.openCase stored.alert.alertId), database)
  | .readLink alertId =>
      if database.caseAlerts.rows.any
          (·.ofAlert execution.tenantId alertId) then
        (advance event (before ++ [alert]) after, database)
      else (atPoint (.openCase alertId), database)
  | .openCase alertId =>
      (atPoint (.readCase alertId input.now),
        insertCase (execution.newCase key input.uuid alert input.now) database)
  | .readCase alertId now =>
      match database.cases.rows.find?
          (·.activeWith execution.tenantId key) with
      | none => (.markFailed "active semantic case was not persisted", database)
      | some active => (atPoint (.link alertId active.caseId now), database)
  | .link alertId caseId now =>
      (advance event (before ++ [alert]) after,
        execution.linkCase alertId caseId alert.severity now database)

/-- `markEventProcessed`. -/
def markEvent (processedAt : Option Timestamp) (error : Option String)
    (database : Database) : Database :=
  { database with
    events := database.events.mapRows
      (Table.applyWhere (·.hasKey execution.tenantId execution.eventId)
        fun row => { row with processedAt, processingError := error }) (by
          intro left right
          unfold Table.applyWhere
          split <;> split <;> rfl) }

/-- `processEvent`. -/
def resume (input : Input) (point : ExecutionPoint) (database : Database) :
    ExecutionPoint × Database × Effect :=
  match point with
  | .load =>
      match database.events.rows.find?
          (·.hasKey execution.tenantId execution.eventId) with
      | none => (.finished, database, .none)
      | some event =>
          if event.processedAt.isSome then (.finished, database, .none)
          else (.detect event [], database, .none)
  | .detect event tables =>
      match detectors.detect event tables with
      | .queries =>
          (.detect event (tables ++ [database.events.rows]), database, .none)
      | .raises => (.markFailed "unknown processing error", database, .none)
      | .returns alerts => (advance event [] alerts, database, .none)
  | .persist event before alert after point =>
      let (next, database) := execution.resumePersist detectors input event
        before alert after point database
      (next, database, .none)
  | .mark alerts =>
      (.finished, execution.markEvent (some input.now) none database,
        .processed execution.tenantId execution.eventId alerts)
  | .markFailed summary =>
      (.finished, execution.markEvent none (some summary) database, .none)
  | .finished => (.finished, database, .none)

end Execution

end Cloud

end ControlForge
