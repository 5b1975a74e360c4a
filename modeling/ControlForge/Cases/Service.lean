import ControlForge.Store.Aggregation

/-!
# The case service

Notes, assignments, transitions and dispositions of the analysts.  Every
operation is one transaction with one activity row and one audit record; the
identifiers of activities and dispositions are drawn by the caller.
-/

namespace ControlForge

namespace Cases

open Store

/-- `StandaloneCaseService`. -/
structure Service (Log : Type) where
  append : AuditAppend Log
  library : Library

def requireCapability (principal : SessionPrincipal)
    (capability : Capability) : Except StoreError Unit :=
  (Identity.requireCapability principal principal.tenantId capability).mapError
    fun failure => .authorization failure.message

section Programs

variable {Log : Type}

/-! ## Statements -/

/-- `_require_case`. -/
def requireCase (tenantId caseId : String) : Program Log CaseRow := do
  let database ← get
  match database.cases.rows.find? (·.hasKey tenantId caseId) with
  | some row => return row
  | none => throw (.caseNotFound "case is unavailable")

def insertActivity (row : ActivityRow) : Program Log Unit := fun database =>
  match database.activity.insert row with
  | some activity => .ok ((), { database with activity })
  | none => .error (.integrity "UNIQUE constraint failed")

def insertDisposition (row : DispositionRow) : Program Log Unit :=
  fun database =>
    match dispositionTriggers row with
    | some message => .error (.trigger message)
    | none =>
        match database.dispositions.insert row with
        | some dispositions => .ok ((), { database with dispositions })
        | none => .error (.integrity "UNIQUE constraint failed")

def touched (now : Timestamp) (row : CaseRow) : CaseRow :=
  { row with updatedAt := now, version := row.version + 1 }

/-- `_touch_case`. -/
def touchCase (tenantId caseId : String) (now : Timestamp) :
    Program Log Unit := do
  let _ ← updateCases (·.hasKey tenantId caseId) (touched now)
    (fun _ _ => none)

/-- `_json`. -/
def bodyText (body : Dict) : String :=
  Json.dumps false (Json.sortKeys body.json)

def optionalText : Option String → Json
  | some text => .str text
  | none => .null

def activityRow (principal : SessionPrincipal)
    (activityId caseId activityType : String) (body : Dict)
    (now : Timestamp) : ActivityRow where
  tenantId := principal.tenantId
  activityId
  caseId
  activityType
  actorId := principal.userId
  bodyJson := bodyText body
  createdAt := now

def audit (service : Service Log) (principal : SessionPrincipal)
    (action caseId : String) (payload : Dict) (now : Timestamp) :
    Program Log Unit := fun database =>
  match service.append {
      tenantId := principal.tenantId
      action
      actorType := "user"
      actorId := principal.userId
      resourceType := "case"
      resourceId := caseId
      payload
      now } database.audit with
  | .ok (_, log) => .ok ((), { database with audit := log })
  | .error failure => .error (.audit failure)

/-- `_case_rule_version`: the version of the newest linked alert. -/
def caseRuleVersion (database : Database Log) (tenantId caseId : String) :
    String :=
  let linked := database.alerts.rows.filter fun alert =>
    alert.tenantId = tenantId && database.caseAlerts.rows.any fun link =>
      link.tenantId = tenantId ∧ link.caseId = caseId ∧
        link.alertId = alert.alertId
  match (orderBy (fun alert : AlertRow =>
      toLex (alert.createdAt, alert.alertId)) linked).getLast? with
  | some alert => alert.ruleVersion
  | none => "no-linked-alert"

variable (service : Service Log) (principal : SessionPrincipal)

/-! ## Notes and assignments -/

/-- `add_note`. -/
def addNote (activityId caseId note : String) (now : Timestamp) :
    Program Log Unit := do
  Transaction.ofExcept (requireCapability principal .triage)
  let normalized := Text.strip note
  Transaction.require (1 ≤ normalized.length ∧ normalized.length ≤ 4000)
    (.caseValidation "case note must contain between 1 and 4000 characters")
  let _ ← requireCase principal.tenantId caseId
  insertActivity (activityRow principal activityId caseId "note"
    { members := [("note", .str normalized)] } now)
  touchCase principal.tenantId caseId now
  audit service principal "case.note_added" caseId
    { members := [("activity_id", .str activityId),
        ("note_sha256", .str (service.library.sha256 normalized))] } now

/-- The user who is to own a case; a blank name is nobody. -/
def normalizedAssignee (assigneeUserId : Option String) : Option String :=
  (assigneeUserId.map Text.strip).filter (· ≠ "")

def investigates (role : Role) : Bool :=
  role = .analyst ∨ role = .responder ∨ role = .admin

def assignable (users : List UserRow) (tenantId userId : String) : Bool :=
  match users.find? fun user =>
      user.tenantId = tenantId ∧ user.userId = userId with
  | some user => user.status = "active" && investigates user.role
  | none => false

/-- `assign`. -/
def assign (activityId caseId : String) (assigneeUserId : Option String)
    (now : Timestamp) : Program Log Unit := do
  Transaction.ofExcept (requireCapability principal .triage)
  let assignee := normalizedAssignee assigneeUserId
  Transaction.require (∀ userId ∈ assignee, userId.length ≤ 128)
    (.caseValidation "case assignee identifier is invalid")
  let row ← requireCase principal.tenantId caseId
  Transaction.require (assignee ≠ row.assigneeUserId)
    (.caseValidation "case is already assigned to that user")
  let database ← get
  Transaction.require
    (∀ userId ∈ assignee, assignable database.users principal.tenantId userId)
    (.caseValidation "case assignee is unavailable")
  let _ ← updateCases (·.hasKey principal.tenantId caseId)
    (fun stored => { stored with
      assigneeUserId := assignee
      updatedAt := now
      version := stored.version + 1 })
    (fun _ _ => none)
  insertActivity (activityRow principal activityId caseId "assignment"
    { members := [("from_user_id", optionalText row.assigneeUserId),
        ("to_user_id", optionalText assignee)]
      wellFormed := by
        cases row.assigneeUserId <;> cases assignee <;>
          simp [optionalText, Json.WellFormed, Json.WellFormedMembers] } now)
  audit service principal "case.assignment_changed" caseId
    { members := [("activity_id", .str activityId),
        ("from_user_id", optionalText row.assigneeUserId),
        ("to_user_id", optionalText assignee)]
      wellFormed := by
        cases row.assigneeUserId <;> cases assignee <;>
          simp [optionalText, Json.WellFormed, Json.WellFormedMembers] } now

/-! ## Transitions -/

/-- An open case with the semantic key of the case, other than it. -/
def hasActiveSuccessor (cases : List CaseRow) (row : CaseRow) : Bool :=
  match row.semanticKey with
  | none => false
  | some semanticKey => cases.any fun other =>
      other.openWith row.tenantId semanticKey && other.caseId ≠ row.caseId

def reopens (target : CaseStatus) (row : CaseRow) : Bool :=
  row.status = .closed ∧ target = .opened

def movedTo (target : CaseStatus) (now : Timestamp) (row : CaseRow) :
    CaseRow :=
  { row with
    status := target
    updatedAt := now
    closedAt := if target = .closed then some now else none
    investigationCycle :=
      row.investigationCycle + if reopens target row then 1 else 0
    version := row.version + 1 }

/-- The status a caller names. -/
def targetStatus (target : String) : Except StoreError CaseStatus :=
  match CaseStatus.ofText target with
  | some status => .ok status
  | none => .error (.caseTransition "case target status is invalid")

/-- The checks of a transition against the stored case. -/
def checkTransition (database : Database Log) (row : CaseRow)
    (target : CaseStatus) : Except StoreError Unit :=
  if target ∉ row.status.transitions then
    .error (.caseTransition ("case cannot transition from " ++
      row.status.text ++ " to " ++ target.text))
  else if reopens target row && hasActiveSuccessor database.cases.rows row then
    .error (.caseTransition
      "case cannot reopen while a successor case is active")
  else if target = .closed &&
      !currentDisposition database.dispositions.rows row then
    .error (.caseTransition
      "case cannot close without a current-cycle disposition")
  else .ok ()

/-- `transition`. -/
def transition (activityId caseId targetText : String) (now : Timestamp) :
    Program Log Unit := do
  Transaction.ofExcept (requireCapability principal .triage)
  let target ← Transaction.ofExcept (targetStatus targetText)
  let row ← requireCase principal.tenantId caseId
  let database ← get
  Transaction.ofExcept (checkTransition database row target)
  let _ ← updateCases (·.hasKey principal.tenantId caseId)
    (movedTo target now) (statusTriggers database.dispositions.rows)
  insertActivity (activityRow principal activityId caseId "state_transition"
    { members := [("from", .str row.status.text), ("to", .str target.text)] }
    now)
  audit service principal "case.status_changed" caseId
    { members := [("activity_id", .str activityId),
        ("from", .str row.status.text), ("to", .str target.text)] } now

/-! ## Dispositions -/

/-- `_DISPOSITIONS`. -/
def dispositionStatuses : List String :=
  ["true_positive", "false_positive", "benign", "inconclusive"]

/-- The checks of a disposition, on the normalized texts. -/
def checkDisposition (status rationale : String) (reason : Option String) :
    Except StoreError Unit :=
  if status ∉ dispositionStatuses then
    .error (.caseValidation "case disposition is invalid")
  else if rationale.length = 0 ∨ 4000 < rationale.length then
    .error (.caseValidation
      "disposition rationale must contain between 1 and 4000 characters")
  else if status = "false_positive" then
    match reason with
    | none => .error (.caseValidation
        "false-positive dispositions require a bounded reason")
    | some text =>
        if text.length = 0 ∨ 1000 < text.length then
          .error (.caseValidation
            "false-positive dispositions require a bounded reason")
        else .ok ()
  else if reason.isSome then
    .error (.caseValidation
      "false-positive reason is only valid for a false-positive disposition")
  else .ok ()

def dispositionRow (dispositionId status rationale : String)
    (reason : Option String) (ruleVersion : String) (row : CaseRow)
    (now : Timestamp) : DispositionRow where
  tenantId := principal.tenantId
  dispositionId
  caseId := row.caseId
  status
  rationale
  ruleVersion
  createdBy := principal.userId
  createdAt := now
  falsePositiveReason := reason
  investigationCycle := row.investigationCycle

/-- The body of a disposition's activity. -/
def dispositionBody (row : DispositionRow) : List (String × Json) :=
  [("disposition_id", .str row.dispositionId),
    ("status", .str row.status),
    ("rationale", .str row.rationale),
    ("false_positive_reason", optionalText row.falsePositiveReason),
    ("rule_version", .str row.ruleVersion),
    ("investigation_cycle", .int row.investigationCycle)]

theorem dispositionBody_wellFormed (row : DispositionRow) :
    (Json.obj (dispositionBody row)).WellFormed := by
  cases h : row.falsePositiveReason <;>
    simp [dispositionBody, h, optionalText, Json.WellFormed,
      Json.WellFormedMembers]

/-- `record_disposition`. -/
def recordDisposition (dispositionId activityId caseId status : String)
    (rationale : String) (falsePositiveReason : Option String)
    (now : Timestamp) : Program Log DispositionRow := do
  Transaction.ofExcept (requireCapability principal .disposition)
  let normalizedRationale := Text.strip rationale
  let normalizedReason := falsePositiveReason.map Text.strip
  Transaction.ofExcept
    (checkDisposition status normalizedRationale normalizedReason)
  let row ← requireCase principal.tenantId caseId
  let database ← get
  let disposition := dispositionRow principal dispositionId status
    normalizedRationale normalizedReason
    (caseRuleVersion database principal.tenantId caseId) row now
  insertDisposition disposition
  insertActivity (activityRow principal activityId caseId "disposition"
    ⟨dispositionBody disposition, dispositionBody_wellFormed disposition⟩ now)
  touchCase principal.tenantId caseId now
  audit service principal "case.disposition_recorded" caseId
    { members := ("activity_id", .str activityId) :: dispositionBody disposition
      wellFormed := by
        have body := dispositionBody_wellFormed disposition
        simp_all [dispositionBody, Json.WellFormed, Json.WellFormedMembers] }
    now
  return disposition

end Programs

end Cases

end ControlForge
