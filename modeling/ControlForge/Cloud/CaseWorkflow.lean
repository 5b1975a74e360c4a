import ControlForge.Cloud.Tables

/-!
# The case workflow of the cloud runtime

A request is a sequence of database calls: the point at which it is suspended
holds what the calls before have returned, and one resumption runs one call,
or one batch, and the code up to the next.  The clock and the random
identifiers a resumption reads are its input.
-/

namespace ControlForge

namespace Cloud

inductive CaseWorkflowError where
  | caseNotFound
  | invalidTransition
  | dispositionRequired
  | reopenConflict
  /-- An error of the database that is thrown on. -/
  | database (message : String)
deriving DecidableEq

/-- What a resumption reads from its surroundings. -/
structure Input where
  now : Timestamp
  uuid : String
  /-- The clock when the audit statement is prepared. -/
  auditNow : Timestamp
deriving DecidableEq

/-- What a resumption has committed. -/
inductive Effect where
  | none
  | moved (tenantId caseId : String) (old new : CaseStatus)
  | recorded (row : DispositionRow)
  | processed (tenantId eventId : String) (alerts : List DetectionAlert)
deriving DecidableEq

def auditRow (tenantId action actorId resourceType resourceId : String)
    (payload : List (String × String)) (createdAt : Timestamp) : AuditRow :=
  ⟨tenantId, action, actorId, resourceType, resourceId, payload, createdAt⟩

/-- The columns `requireCase` reads. -/
structure SelectedCase where
  dispositionRequiredAfter : Option Timestamp
  semanticKey : Option String
  status : CaseStatus
deriving DecidableEq

def CaseRow.selected (row : CaseRow) : SelectedCase :=
  ⟨row.dispositionRequiredAfter, row.semanticKey, row.status⟩

/-- `requireCase`. -/
def requireCase (database : Database) (tenantId caseId : String) :
    Option SelectedCase :=
  (database.cases.rows.find? (·.hasKey tenantId caseId)).map CaseRow.selected

/-! ## Dispositions -/

inductive Disposition where
  | truePositive
  | falsePositive
  | benign
  | inconclusive
deriving DecidableEq

def Disposition.text : Disposition → String
  | .truePositive => "true_positive"
  | .falsePositive => "false_positive"
  | .benign => "benign"
  | .inconclusive => "inconclusive"

/-- `storedDisposition`. -/
def Disposition.stored : Disposition → String
  | .benign => "benign_positive"
  | disposition => disposition.text

structure DispositionRequest where
  tenantId : String
  caseId : String
  disposition : Disposition
  rationale : String
  falsePositiveReason : Option String
  principalId : String
deriving DecidableEq

inductive DispositionPoint where
  | requireCase
  | write (createdAt : Timestamp)
  | finished (outcome : Except CaseWorkflowError DispositionRow)
deriving DecidableEq

def DispositionRequest.row (request : DispositionRequest)
    (dispositionId : String) (createdAt : Timestamp) : DispositionRow where
  tenantId := request.tenantId
  dispositionId
  caseId := request.caseId
  disposition := request.disposition.stored
  rationale := request.rationale
  createdBy := request.principalId
  createdAt
  falsePositiveReason := request.falsePositiveReason

def DispositionRequest.audit (request : DispositionRequest)
    (dispositionId : String) (now : Timestamp) : AuditRow :=
  auditRow request.tenantId "case.disposition_added" request.principalId "case"
    request.caseId [("disposition_id", dispositionId),
      ("disposition", request.disposition.text)] now

/-- `appendCaseDisposition`. -/
def DispositionRequest.resume (request : DispositionRequest) (input : Input)
    (point : DispositionPoint) (database : Database) :
    DispositionPoint × Database × Effect :=
  match point with
  | .requireCase =>
      match requireCase database request.tenantId request.caseId with
      | none => (.finished (.error .caseNotFound), database, .none)
      | some _ => (.write input.now, database, .none)
  | .write createdAt =>
      let row := request.row input.uuid createdAt
      if row.reasonGuard then
        (.finished (.error (.database
          "false-positive reason is inconsistent with disposition")),
          database, .none)
      else
        match database.dispositions.insert row with
        | none =>
            (.finished (.error (.database "UNIQUE constraint failed")),
              database, .none)
        | some dispositions =>
            (.finished (.ok row), { database with
              dispositions
              audit := database.audit ++
                [request.audit input.uuid input.auditNow] }, .recorded row)
  | .finished outcome => (.finished outcome, database, .none)

/-! ## Transitions -/

/-- `ALLOWED_TRANSITIONS`. -/
def allowedTransitions : CaseStatus → List CaseStatus
  | .opened => [.investigating, .closed]
  | .investigating => [.contained, .closed]
  | .contained => [.investigating, .closed]
  | .closed => [.opened]

structure TransitionRequest where
  tenantId : String
  caseId : String
  requested : CaseStatus
  principalId : String
deriving DecidableEq

structure TransitionResult where
  caseId : String
  status : CaseStatus
  updatedAt : Timestamp
  closedAt : Option Timestamp
deriving DecidableEq

inductive TransitionPoint where
  | requireCase
  | findDisposition (selected : SelectedCase)
  | findConflict (selected : SelectedCase)
  | write (selected : SelectedCase) (updatedAt : Timestamp)
  | finished (outcome : Except CaseWorkflowError TransitionResult)
deriving DecidableEq

namespace TransitionRequest

variable (request : TransitionRequest)

/-- The condition on a disposition that lets a case close. -/
def accepts (selected : SelectedCase) (row : DispositionRow) : Bool :=
  row.tenantId = request.tenantId ∧ row.caseId = request.caseId ∧
    ∀ required ∈ selected.dispositionRequiredAfter, required ≤ row.createdAt

/-- Another case with the semantic key of the case is active. -/
def hasConflict (semanticKey : String) (database : Database) : Bool :=
  database.cases.rows.any fun row =>
    row.activeWith request.tenantId semanticKey && row.caseId ≠ request.caseId

/-- The columns the update sets. -/
def update (selected : SelectedCase) (updatedAt : Timestamp) (row : CaseRow) :
    CaseRow :=
  { row with
    status := request.requested
    updatedAt
    closedAt := if request.requested = .closed then some updatedAt else none
    dispositionRequiredAfter :=
      if selected.status = .closed then some updatedAt
      else selected.dispositionRequiredAfter }

/-- `WHERE tenant_id = ? AND case_id = ? AND status = ?`. -/
def selects (selected : SelectedCase) (row : CaseRow) : Bool :=
  row.hasKey request.tenantId request.caseId &&
    (row.status = selected.status : Bool)

def audit (selected : SelectedCase) (now : Timestamp) : AuditRow :=
  auditRow request.tenantId "case.status_changed" request.principalId "case"
    request.caseId [("from_status", selected.status.text),
      ("to_status", request.requested.text)] now

/-- The error of an update that violates `idx_cases_open_semantic`. -/
def uniqueError (selected : SelectedCase) : CaseWorkflowError :=
  if selected.status = .closed then .reopenConflict
  else .database
    "UNIQUE constraint failed: cases.tenant_id, cases.semantic_key"

/-- The batch of the update and its audit entry. -/
def write (input : Input) (selected : SelectedCase) (updatedAt : Timestamp)
    (database : Database) : TransitionPoint × Database × Effect :=
  match database.cases.updateWhere (request.selects selected)
      (request.update selected updatedAt) (fun _ _ => none)
      (uniqueError selected) with
  | .error failure => (.finished (.error failure), database, .none)
  | .ok (count, cases) =>
      if count = 1 then
        (.finished (.ok ⟨request.caseId, request.requested, updatedAt,
            if request.requested = .closed then some updatedAt else none⟩),
          { database with
            cases
            audit := database.audit ++ [request.audit selected input.auditNow] },
          .moved request.tenantId request.caseId selected.status
            request.requested)
      else
        (.finished (.error .invalidTransition), { database with cases }, .none)

/-- What follows the check of the disposition. -/
def afterDisposition (input : Input) (selected : SelectedCase) :
    TransitionPoint :=
  if selected.status = .closed then
    match selected.semanticKey with
    | none => .finished (.error .reopenConflict)
    | some semanticKey =>
        if semanticKey = "" then .finished (.error .reopenConflict)
        else .findConflict selected
  else .write selected input.now

/-- What follows the first read. -/
def afterRead (input : Input) (selected : SelectedCase) : TransitionPoint :=
  if request.requested ∉ allowedTransitions selected.status then
    .finished (.error .invalidTransition)
  else if request.requested = .closed then .findDisposition selected
  else afterDisposition input selected

/-- `transitionCase`. -/
def resume (input : Input) (point : TransitionPoint) (database : Database) :
    TransitionPoint × Database × Effect :=
  match point with
  | .requireCase =>
      match requireCase database request.tenantId request.caseId with
      | none => (.finished (.error .caseNotFound), database, .none)
      | some selected => (request.afterRead input selected, database, .none)
  | .findDisposition selected =>
      if database.dispositions.rows.any (request.accepts selected) then
        (afterDisposition input selected, database, .none)
      else (.finished (.error .dispositionRequired), database, .none)
  | .findConflict selected =>
      if selected.semanticKey.any (request.hasConflict · database) then
        (.finished (.error .reopenConflict), database, .none)
      else (.write selected input.now, database, .none)
  | .write selected updatedAt =>
      request.write input selected updatedAt database
  | .finished outcome => (.finished outcome, database, .none)

end TransitionRequest

end Cloud

end ControlForge
