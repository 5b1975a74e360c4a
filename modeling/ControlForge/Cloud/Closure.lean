import ControlForge.Cloud.System

/-!
# Closing a case in the cloud runtime

A disposition is fresh for a case when it was recorded after the most recent
reopening.  Every stored disposition is fresh or older than the time the case
requires, and a request that is about to close a case has seen a disposition
that satisfies what it read of the case.
-/

namespace ControlForge

namespace Cloud

/-! ## Dispositions since the last reopening -/

def effectOf : PoolLabel Input Effect → Effect
  | .resume _ _ effect => effect
  | _ => .none

/-- How an effect changes the dispositions recorded since a reopening. -/
def record (tenantId caseId : String) (recorded : List DispositionRow) :
    Effect → List DispositionRow
  | .recorded row =>
      if row.tenantId = tenantId ∧ row.caseId = caseId then recorded ++ [row]
      else recorded
  | .moved movedTenant movedCase old _ =>
      if old = .closed ∧ movedTenant = tenantId ∧ movedCase = caseId then []
      else recorded
  | _ => recorded

/-- The dispositions of a case recorded after its most recent reopening. -/
def sinceReopen (tenantId caseId : String)
    (labels : List (PoolLabel Input Effect)) : List DispositionRow :=
  (labels.map effectOf).foldl (record tenantId caseId) []

@[simp] theorem sinceReopen_concat (tenantId caseId : String)
    (labels : List (PoolLabel Input Effect)) (label : PoolLabel Input Effect) :
    sinceReopen tenantId caseId (labels ++ [label]) =
      record tenantId caseId (sinceReopen tenantId caseId labels)
        (effectOf label) := by
  simp [sinceReopen]

/-- The step closes the case. -/
def Closes (tenantId caseId : String) (label : PoolLabel Input Effect) : Prop :=
  ∃ old, effectOf label = .moved tenantId caseId old .closed

/-! ## The batch of a transition -/

section Write

variable {request : TransitionRequest} {selected : SelectedCase}
  {updatedAt : Timestamp} {input : Input} {database next : Database}
  {point : TransitionPoint} {effect : Effect}

theorem selects_iff {row : CaseRow} :
    request.selects selected row = true ↔
      (row.tenantId = request.tenantId ∧ row.caseId = request.caseId) ∧
        row.status = selected.status := by
  simp [TransitionRequest.selects, CaseRow.hasKey]

theorem case_eq_of_key {left right : CaseRow}
    (leftStored : left ∈ database.cases.rows)
    (rightStored : right ∈ database.cases.rows)
    (tenant : left.tenantId = right.tenantId)
    (case : left.caseId = right.caseId) : left = right := by
  apply database.cases.eq_of_clash leftStored rightStored
  · simp [CaseRow.clash, CaseRow.hasKey, tenant, case]
  · simp [CaseRow.clash, CaseRow.hasKey, tenant, case]

/-- At most one case has the key of a request. -/
theorem selected_eq {left right : CaseRow}
    (leftStored : left ∈ database.cases.rows)
    (rightStored : right ∈ database.cases.rows)
    (leftSelected : request.selects selected left = true)
    (rightSelected : request.selects selected right = true) : left = right := by
  obtain ⟨⟨leftTenant, leftCase⟩, -⟩ := selects_iff.mp leftSelected
  obtain ⟨⟨rightTenant, rightCase⟩, -⟩ := selects_iff.mp rightSelected
  exact case_eq_of_key leftStored rightStored
    (leftTenant.trans rightTenant.symm) (leftCase.trans rightCase.symm)

theorem cases_nodup : database.cases.rows.Nodup := by
  apply Table.nodup
  intro row
  simp [CaseRow.clash, CaseRow.hasKey]

/-- The batch finds no case in the state that was read, violates the unique
index, or moves the one case it selects. -/
inductive Written (request : TransitionRequest) (selected : SelectedCase)
    (updatedAt : Timestamp) (database : Database) :
    TransitionPoint → Database → Effect → Prop
  | lost (noRow : ∀ row ∈ database.cases.rows,
      request.selects selected row = false) :
      Written request selected updatedAt database
        (.finished (.error .invalidTransition)) database .none
  | conflict {row : CaseRow} (stored : row ∈ database.cases.rows)
      (isSelected : request.selects selected row = true) :
      Written request selected updatedAt database
        (.finished (.error (TransitionRequest.uniqueError selected))) database
        .none
  | moved {row : CaseRow} {cases : Table CaseRow CaseRow.clash}
      {audit : List AuditRow} {result : TransitionResult}
      (stored : row ∈ database.cases.rows)
      (isSelected : request.selects selected row = true)
      (rows : cases.rows = database.cases.rows.map
        (Table.applyWhere (request.selects selected)
          (request.update selected updatedAt))) :
      Written request selected updatedAt database (.finished (.ok result))
        { database with cases, audit }
        (.moved request.tenantId request.caseId selected.status
          request.requested)

theorem written (wrote : request.write input selected updatedAt database =
    (point, next, effect)) :
    Written request selected updatedAt database point next effect := by
  unfold TransitionRequest.write at wrote
  by_cases exists_ : ∃ row ∈ database.cases.rows,
      request.selects selected row = true
  · obtain ⟨row, stored, isSelected⟩ := exists_
    cases updated : database.cases.updateWhere (request.selects selected)
        (request.update selected updatedAt) (fun _ _ => none)
        (TransitionRequest.uniqueError selected) with
    | error failure =>
        rw [updated] at wrote
        obtain ⟨rfl, rfl, rfl⟩ := wrote
        rcases Table.updateWhere_error updated with ⟨_, _, _, refused⟩ |
          ⟨rfl, -⟩
        · cases refused
        · exact .conflict stored isSelected
    | ok result =>
        obtain ⟨count, cases⟩ := result
        rw [updated] at wrote
        obtain ⟨counted, rows, -⟩ := Table.updateWhere_eq_ok.mp updated
        have one : count = 1 := by
          rw [counted, Table.countP_of_only cases_nodup stored
            (fun other otherStored otherSelected =>
              selected_eq otherStored stored otherSelected isSelected)]
          simp [isSelected]
        simp only [one, if_true] at wrote
        obtain ⟨rfl, rfl, rfl⟩ := wrote
        exact .moved stored isSelected rows
  · have noRow : ∀ row ∈ database.cases.rows,
        request.selects selected row = false := by
      intro row stored
      rw [← Bool.not_eq_true]
      exact fun isSelected => exists_ ⟨row, stored, isSelected⟩
    rw [Table.updateWhere_none_selected noRow] at wrote
    obtain ⟨rfl, rfl, rfl⟩ := wrote
    exact .lost noRow

end Write

/-! ## The assertions -/

/-- The case requires dispositions that are later than this one. -/
def Outdated (database : Database) (row : DispositionRow) : Prop :=
  ∃ stored ∈ database.cases.rows,
    (stored.tenantId = row.tenantId ∧ stored.caseId = row.caseId) ∧
      ∃ required ∈ stored.dispositionRequiredAfter, row.createdAt < required

/-- Every stored disposition is fresh or outdated. -/
def DispositionsDated (labels : List (PoolLabel Input Effect))
    (database : Database) : Prop :=
  ∀ row ∈ database.dispositions.rows,
    row ∈ sinceReopen row.tenantId row.caseId labels ∨ Outdated database row

/-- A request that will close its case has seen a disposition. -/
def SeenDisposition (request : TransitionRequest) (selected : SelectedCase)
    (database : Database) : Prop :=
  request.requested = .closed → selected.status ≠ .closed ∧
    ∃ row ∈ database.dispositions.rows, request.accepts selected row = true

def ClosingAssertion (database : Database) : Process → Prop
  | .transition _ (.findDisposition selected) => selected.status ≠ .closed
  | .transition request (.findConflict selected)
  | .transition request (.write selected _) =>
      SeenDisposition request selected database
  | _ => True

/-- No stored disposition goes away. -/
def DispositionsKept (before after : Database) : Prop :=
  ∀ row ∈ before.dispositions.rows, row ∈ after.dispositions.rows

def closingAssertions :
    Procedure.Assertions Database Process (PoolLabel Input Effect) where
  shared := DispositionsDated
  process := ClosingAssertion
  pair _ _ _ := True

/-- What the code does not check when a transition is written.  A case that is
not being reopened still requires the dispositions that the request read it to
require; and a case that is being reopened has no disposition that is as late
as the time of the request. -/
def WrittenInTime (pool : Pool Database Process) :
    PoolLabel Input Effect → Prop
  | .resume index _ _ =>
      match pool.process index with
      | .transition request (.write selected updatedAt) =>
          ∀ row ∈ pool.shared.cases.rows,
            request.selects selected row = true →
              if selected.status = .closed then
                ∀ disposition ∈ pool.shared.dispositions.rows,
                  disposition.tenantId = row.tenantId →
                  disposition.caseId = row.caseId →
                    disposition.createdAt < updatedAt
              else
                row.dispositionRequiredAfter =
                  selected.dispositionRequiredAfter
      | _ => True
  | _ => True

theorem accepts_iff {request : TransitionRequest} {selected : SelectedCase}
    {row : DispositionRow} :
    request.accepts selected row = true ↔
      row.tenantId = request.tenantId ∧ row.caseId = request.caseId ∧
        ∀ required ∈ selected.dispositionRequiredAfter,
          required ≤ row.createdAt := by
  simp [TransitionRequest.accepts]

/-- Cases keep their keys and what they require. -/
def RequirementsKept (before after : Database) : Prop :=
  ∀ row ∈ before.cases.rows, ∃ next ∈ after.cases.rows,
    (next.tenantId = row.tenantId ∧ next.caseId = row.caseId) ∧
      next.dispositionRequiredAfter = row.dispositionRequiredAfter

section Steps

variable {before after : Database} {labels : List (PoolLabel Input Effect)}
  {label : PoolLabel Input Effect}

theorem RequirementsKept.of_same (same : after.cases = before.cases) :
    RequirementsKept before after := by
  intro row stored
  refine ⟨row, ?_, ⟨rfl, rfl⟩, rfl⟩
  rw [same]
  exact stored

theorem RequirementsKept.of_map {change : CaseRow → CaseRow}
    (rows : after.cases.rows = before.cases.rows.map change)
    (keeps : ∀ row ∈ before.cases.rows,
      ((change row).tenantId = row.tenantId ∧
        (change row).caseId = row.caseId) ∧
      (change row).dispositionRequiredAfter = row.dispositionRequiredAfter) :
    RequirementsKept before after := by
  intro row stored
  refine ⟨change row, ?_, keeps row stored⟩
  rw [rows]
  exact List.mem_map_of_mem stored

theorem Outdated.kept (kept : RequirementsKept before after)
    {row : DispositionRow} (outdated : Outdated before row) :
    Outdated after row := by
  obtain ⟨stored, member, ⟨tenant, case⟩, required, isRequired, older⟩ :=
    outdated
  obtain ⟨next, nextMember, ⟨sameTenant, sameCase⟩, sameRequired⟩ :=
    kept stored member
  refine ⟨next, nextMember, ⟨sameTenant.trans tenant, sameCase.trans case⟩,
    required, ?_, older⟩
  rw [sameRequired]
  exact isRequired

/-- A step that records nothing and reopens nothing. -/
theorem DispositionsDated.of_kept (dated : DispositionsDated labels before)
    (sameDispositions : after.dispositions = before.dispositions)
    (kept : RequirementsKept before after)
    (noReopen : ∀ tenantId caseId recorded,
      record tenantId caseId recorded (effectOf label) = recorded) :
    DispositionsDated (labels ++ [label]) after := by
  intro row stored
  rw [sameDispositions] at stored
  rw [sinceReopen_concat, noReopen]
  exact (dated row stored).imp_right (Outdated.kept kept)

/-- A disposition is recorded. -/
theorem DispositionsDated.recorded (dated : DispositionsDated labels before)
    {row : DispositionRow} (isLabel : effectOf label = .recorded row)
    (rows : after.dispositions.rows = before.dispositions.rows ++ [row])
    (sameCases : after.cases = before.cases) :
    DispositionsDated (labels ++ [label]) after := by
  intro other stored
  rw [rows] at stored
  rw [sinceReopen_concat, isLabel]
  rcases List.mem_append.mp stored with old | new
  · rcases dated other old with fresh | outdated
    · left
      simp only [record]
      split
      · exact List.mem_append_left _ fresh
      · exact fresh
    · exact .inr (outdated.kept (RequirementsKept.of_same sameCases))
  · rw [List.mem_singleton.mp new]
    left
    simp [record]

/-- A transition that is not a reopening leaves the requirement as it is. -/
theorem DispositionsDated.moved (dated : DispositionsDated labels before)
    {request : TransitionRequest} {selected : SelectedCase}
    {updatedAt : Timestamp} {row : CaseRow}
    (stored : row ∈ before.cases.rows)
    (isSelected : request.selects selected row = true)
    (notClosed : selected.status ≠ .closed)
    (unchanged : row.dispositionRequiredAfter =
      selected.dispositionRequiredAfter)
    (isLabel : effectOf label = .moved request.tenantId request.caseId
      selected.status request.requested)
    (rows : after.cases.rows = before.cases.rows.map
      (Table.applyWhere (request.selects selected)
        (request.update selected updatedAt)))
    (sameDispositions : after.dispositions = before.dispositions) :
    DispositionsDated (labels ++ [label]) after := by
  refine dated.of_kept sameDispositions ?_ ?_
  · apply RequirementsKept.of_map rows
    intro other otherStored
    by_cases otherSelected : request.selects selected other = true
    · have same := selected_eq otherStored stored otherSelected isSelected
      rw [Table.applyWhere_selected otherSelected, same]
      simp [TransitionRequest.update, notClosed, unchanged]
    · rw [Bool.not_eq_true] at otherSelected
      rw [Table.applyWhere_unselected otherSelected]
      exact ⟨⟨rfl, rfl⟩, rfl⟩
  · intro tenantId caseId recorded
    rw [isLabel]
    simp [record, notClosed]

/-- A reopening outdates the dispositions of the case. -/
theorem DispositionsDated.reopened (dated : DispositionsDated labels before)
    {request : TransitionRequest} {selected : SelectedCase}
    {updatedAt : Timestamp} {row : CaseRow}
    (stored : row ∈ before.cases.rows)
    (isSelected : request.selects selected row = true)
    (wasClosed : selected.status = .closed)
    (older : ∀ disposition ∈ before.dispositions.rows,
      disposition.tenantId = row.tenantId →
      disposition.caseId = row.caseId → disposition.createdAt < updatedAt)
    (isLabel : effectOf label = .moved request.tenantId request.caseId
      selected.status request.requested)
    (rows : after.cases.rows = before.cases.rows.map
      (Table.applyWhere (request.selects selected)
        (request.update selected updatedAt)))
    (sameDispositions : after.dispositions = before.dispositions) :
    DispositionsDated (labels ++ [label]) after := by
  obtain ⟨⟨tenant, case⟩, -⟩ := selects_iff.mp isSelected
  have moved : request.update selected updatedAt row ∈ after.cases.rows := by
    rw [rows]
    exact List.mem_map.mpr
      ⟨row, stored, Table.applyWhere_selected isSelected⟩
  intro disposition isStored
  rw [sameDispositions] at isStored
  rw [sinceReopen_concat, isLabel]
  by_cases ofCase : request.tenantId = disposition.tenantId ∧
      request.caseId = disposition.caseId
  · right
    refine ⟨_, moved, ⟨tenant.trans ofCase.1, case.trans ofCase.2⟩, updatedAt,
      ?_, ?_⟩
    · simp [TransitionRequest.update, wasClosed]
    · exact older disposition isStored (ofCase.1.symm.trans tenant.symm)
        (ofCase.2.symm.trans case.symm)
  · rcases dated disposition isStored with fresh | outdated
    · left
      simp only [record]
      rw [if_neg]
      · exact fresh
      · rintro ⟨-, ofTenant, ofCase'⟩
        exact ofCase ⟨ofTenant, ofCase'⟩
    · right
      obtain ⟨other, otherStored, ⟨otherTenant, otherCase⟩, required⟩ :=
        outdated
      have unselected : request.selects selected other = false := by
        rw [← Bool.not_eq_true]
        intro otherSelected
        obtain ⟨⟨sameTenant, sameCase⟩, -⟩ := selects_iff.mp otherSelected
        exact ofCase ⟨sameTenant.symm.trans otherTenant,
          sameCase.symm.trans otherCase⟩
      refine ⟨other, ?_, ⟨otherTenant, otherCase⟩, required⟩
      rw [rows]
      exact List.mem_map.mpr
        ⟨other, otherStored, Table.applyWhere_unselected unselected⟩

end Steps

/-! ## Every step -/

section Soundness

variable {detectors : Detectors} {labels : List (PoolLabel Input Effect)}
  {label : PoolLabel Input Effect} {pool : Pool Database Process}
  {index : Nat} {input : Input} {database next : Database} {effect : Effect}

theorem insertCase_keeps (row : CaseRow) (database : Database) :
    (Execution.insertCase row database).dispositions =
        database.dispositions ∧
      RequirementsKept database (Execution.insertCase row database) := by
  unfold Execution.insertCase
  split
  · next cases inserted =>
      refine ⟨rfl, fun stored member => ⟨stored, ?_, ⟨rfl, rfl⟩, rfl⟩⟩
      rw [(Table.insert_eq_some.mp inserted).2]
      exact List.mem_append_left _ member
  · exact ⟨rfl, RequirementsKept.of_same rfl⟩

theorem linkCase_keeps (task : Execution) (alertId caseId : String)
    (severity : Severity) (now : Timestamp) (database : Database) :
    (task.linkCase alertId caseId severity now database).dispositions =
        database.dispositions ∧
      RequirementsKept database
        (task.linkCase alertId caseId severity now database) := by
  refine ⟨rfl, ?_⟩
  apply RequirementsKept.of_map
  · rfl
  · intro row _
    unfold Table.applyWhere
    split
    · exact ⟨⟨rfl, rfl⟩, rfl⟩
    · exact ⟨⟨rfl, rfl⟩, rfl⟩

theorem insertAlert_keeps (task : Execution) (alert : DetectionAlert)
    (now : Timestamp) (database : Database) :
    (task.insertAlert alert now database).2.dispositions =
        database.dispositions ∧
      (task.insertAlert alert now database).2.cases = database.cases := by
  unfold Execution.insertAlert
  split
  · exact ⟨rfl, rfl⟩
  · exact ⟨rfl, rfl⟩

theorem resumePersist_keeps {task : Execution} {event : EventRow}
    {before after : List DetectionAlert} {alert : DetectionAlert}
    {point : PersistPoint} {nextPoint : ExecutionPoint}
    (resumed : task.resumePersist detectors input event before alert after
      point database = (nextPoint, next)) :
    next.dispositions = database.dispositions ∧
      RequirementsKept database next := by
  cases point with
  | insertAlert =>
      obtain ⟨dispositions, cases⟩ :=
        insertAlert_keeps task alert input.auditNow database
      obtain ⟨-, rfl⟩ := resumed
      exact ⟨dispositions, RequirementsKept.of_same cases⟩
  | readOccurrence inserted =>
      simp only [Execution.resumePersist] at resumed
      split at resumed
      · obtain ⟨-, rfl⟩ := resumed
        exact ⟨rfl, RequirementsKept.of_same rfl⟩
      · split at resumed
        · obtain ⟨-, rfl⟩ := resumed
          exact ⟨rfl, RequirementsKept.of_same rfl⟩
        · obtain ⟨-, rfl⟩ := resumed
          exact ⟨rfl, RequirementsKept.of_same rfl⟩
  | readLink alertId =>
      simp only [Execution.resumePersist] at resumed
      split at resumed
      · obtain ⟨-, rfl⟩ := resumed
        exact ⟨rfl, RequirementsKept.of_same rfl⟩
      · obtain ⟨-, rfl⟩ := resumed
        exact ⟨rfl, RequirementsKept.of_same rfl⟩
  | openCase alertId =>
      obtain ⟨-, rfl⟩ := resumed
      exact insertCase_keeps _ _
  | readCase alertId now =>
      simp only [Execution.resumePersist] at resumed
      split at resumed
      · obtain ⟨-, rfl⟩ := resumed
        exact ⟨rfl, RequirementsKept.of_same rfl⟩
      · obtain ⟨-, rfl⟩ := resumed
        exact ⟨rfl, RequirementsKept.of_same rfl⟩
  | link alertId caseId now =>
      obtain ⟨-, rfl⟩ := resumed
      exact linkCase_keeps task alertId caseId alert.severity now database

/-- An execution records no disposition, reopens nothing, and leaves what the
cases require. -/
theorem execution_keeps {task : Execution} {point nextPoint : ExecutionPoint}
    (resumed : task.resume detectors input point database =
      (nextPoint, next, effect)) :
    next.dispositions = database.dispositions ∧
      RequirementsKept database next ∧
      ∀ tenantId caseId recorded,
        record tenantId caseId recorded effect = recorded := by
  cases point with
  | load =>
      simp only [Execution.resume] at resumed
      split at resumed
      · obtain ⟨-, rfl, rfl⟩ := resumed
        exact ⟨rfl, RequirementsKept.of_same rfl, fun _ _ _ => rfl⟩
      · split at resumed
        · obtain ⟨-, rfl, rfl⟩ := resumed
          exact ⟨rfl, RequirementsKept.of_same rfl, fun _ _ _ => rfl⟩
        · obtain ⟨-, rfl, rfl⟩ := resumed
          exact ⟨rfl, RequirementsKept.of_same rfl, fun _ _ _ => rfl⟩
  | detect event tables =>
      simp only [Execution.resume] at resumed
      split at resumed
      · obtain ⟨-, rfl, rfl⟩ := resumed
        exact ⟨rfl, RequirementsKept.of_same rfl, fun _ _ _ => rfl⟩
      · obtain ⟨-, rfl, rfl⟩ := resumed
        exact ⟨rfl, RequirementsKept.of_same rfl, fun _ _ _ => rfl⟩
      · obtain ⟨-, rfl, rfl⟩ := resumed
        exact ⟨rfl, RequirementsKept.of_same rfl, fun _ _ _ => rfl⟩
  | persist event before alert after point =>
      obtain ⟨dispositions, requirements⟩ :=
        @resumePersist_keeps detectors input database _ task event before after
          alert point _ rfl
      obtain ⟨-, rfl, rfl⟩ := resumed
      exact ⟨dispositions, requirements, fun _ _ _ => rfl⟩
  | mark alerts =>
      obtain ⟨-, rfl, rfl⟩ := resumed
      exact ⟨rfl, RequirementsKept.of_same rfl, fun _ _ _ => rfl⟩
  | markFailed summary =>
      obtain ⟨-, rfl, rfl⟩ := resumed
      exact ⟨rfl, RequirementsKept.of_same rfl, fun _ _ _ => rfl⟩
  | finished =>
      obtain ⟨-, rfl, rfl⟩ := resumed
      exact ⟨rfl, RequirementsKept.of_same rfl, fun _ _ _ => rfl⟩

/-! ### Transitions -/

theorem closing_afterDisposition {request : TransitionRequest}
    {selected : SelectedCase}
    (seen : SeenDisposition request selected database) (input : Input) :
    ClosingAssertion database (.transition request
      (TransitionRequest.afterDisposition input selected)) := by
  unfold TransitionRequest.afterDisposition
  split
  · split
    · trivial
    · split
      · trivial
      · exact seen
  · exact seen

theorem closing_afterRead (request : TransitionRequest)
    (selected : SelectedCase) (input : Input) (database : Database) :
    ClosingAssertion database (.transition request
      (request.afterRead input selected)) := by
  unfold TransitionRequest.afterRead
  split
  · trivial
  · next allowed =>
    split
    · next closing =>
        intro wasClosed
        rw [closing, wasClosed] at allowed
        exact allowed (by decide)
    · next notClosing =>
        apply closing_afterDisposition
        intro closing
        exact absurd closing notClosing

/-- A call that only reads. -/
theorem transition_reads {request : TransitionRequest}
    {point nextPoint : TransitionPoint}
    (notWrite : ∀ selected updatedAt, point ≠ .write selected updatedAt)
    (asserted : ClosingAssertion database (.transition request point))
    (resumed : request.resume input point database =
      (nextPoint, next, effect)) :
    next = database ∧ effect = .none ∧
      ClosingAssertion database (.transition request nextPoint) := by
  cases point with
  | requireCase =>
      simp only [TransitionRequest.resume] at resumed
      split at resumed
      · obtain ⟨rfl, rfl, rfl⟩ := resumed
        exact ⟨rfl, rfl, trivial⟩
      · obtain ⟨rfl, rfl, rfl⟩ := resumed
        exact ⟨rfl, rfl, closing_afterRead _ _ _ _⟩
  | findDisposition selected =>
      simp only [TransitionRequest.resume] at resumed
      split at resumed
      · next found =>
          obtain ⟨rfl, rfl, rfl⟩ := resumed
          obtain ⟨row, stored, accepted⟩ := List.any_eq_true.mp found
          exact ⟨rfl, rfl, closing_afterDisposition
            (fun _ => ⟨asserted, row, stored, accepted⟩) _⟩
      · obtain ⟨rfl, rfl, rfl⟩ := resumed
        exact ⟨rfl, rfl, trivial⟩
  | findConflict selected =>
      simp only [TransitionRequest.resume] at resumed
      split at resumed
      · obtain ⟨rfl, rfl, rfl⟩ := resumed
        exact ⟨rfl, rfl, trivial⟩
      · obtain ⟨rfl, rfl, rfl⟩ := resumed
        exact ⟨rfl, rfl, asserted⟩
  | write selected updatedAt => exact absurd rfl (notWrite selected updatedAt)
  | finished outcome =>
      obtain ⟨rfl, rfl, rfl⟩ := resumed
      exact ⟨rfl, rfl, trivial⟩

/-- The batch of a transition that is written in time. -/
theorem transition_writes {request : TransitionRequest}
    {selected : SelectedCase} {updatedAt : Timestamp}
    {nextPoint : TransitionPoint}
    (dated : DispositionsDated labels database)
    (inTime : ∀ row ∈ database.cases.rows,
      request.selects selected row = true →
        if selected.status = .closed then
          ∀ disposition ∈ database.dispositions.rows,
            disposition.tenantId = row.tenantId →
            disposition.caseId = row.caseId →
              disposition.createdAt < updatedAt
        else row.dispositionRequiredAfter = selected.dispositionRequiredAfter)
    (wrote : request.write input selected updatedAt database =
      (nextPoint, next, effect)) (isEffect : effectOf label = effect) :
    DispositionsDated (labels ++ [label]) next ∧
      ClosingAssertion next (.transition request nextPoint) ∧
      DispositionsKept database next := by
  cases written wrote with
  | lost | conflict =>
      refine ⟨?_, trivial, fun row stored => stored⟩
      apply dated.of_kept rfl (RequirementsKept.of_same rfl)
      intro _ _ _
      rw [isEffect]
      rfl
  | @moved row cases audit result stored isSelected rows =>
      refine ⟨?_, trivial, fun row stored => stored⟩
      have timely := inTime row stored isSelected
      by_cases wasClosed : selected.status = .closed
      · rw [if_pos wasClosed] at timely
        exact dated.reopened stored isSelected wasClosed timely isEffect rows
          rfl
      · rw [if_neg wasClosed] at timely
        exact dated.moved stored isSelected wasClosed timely isEffect rows rfl

/-! ### Dispositions -/

theorem disposition_resumes {request : DispositionRequest}
    {point nextPoint : DispositionPoint}
    (dated : DispositionsDated labels database)
    (resumed : request.resume input point database =
      (nextPoint, next, effect)) (isEffect : effectOf label = effect) :
    DispositionsDated (labels ++ [label]) next ∧
      DispositionsKept database next := by
  have unchanged (noEffect : effect = .none) :
      DispositionsDated (labels ++ [label]) database := by
    apply dated.of_kept rfl (RequirementsKept.of_same rfl)
    intro _ _ _
    rw [isEffect, noEffect]
    rfl
  cases point with
  | requireCase =>
      simp only [DispositionRequest.resume] at resumed
      split at resumed
      · obtain ⟨-, rfl, rfl⟩ := resumed
        exact ⟨unchanged rfl, fun _ stored => stored⟩
      · obtain ⟨-, rfl, rfl⟩ := resumed
        exact ⟨unchanged rfl, fun _ stored => stored⟩
  | write createdAt =>
      simp only [DispositionRequest.resume] at resumed
      split at resumed
      · obtain ⟨-, rfl, rfl⟩ := resumed
        exact ⟨unchanged rfl, fun _ stored => stored⟩
      · split at resumed
        · obtain ⟨-, rfl, rfl⟩ := resumed
          exact ⟨unchanged rfl, fun _ stored => stored⟩
        · next dispositions inserted =>
            obtain ⟨-, rfl, rfl⟩ := resumed
            have rows := (Table.insert_eq_some.mp inserted).2
            refine ⟨dated.recorded isEffect rows rfl, fun row stored => ?_⟩
            rw [rows]
            exact List.mem_append_left _ stored
  | finished outcome =>
      obtain ⟨-, rfl, rfl⟩ := resumed
      exact ⟨unchanged rfl, fun _ stored => stored⟩

theorem ClosingAssertion.kept {process : Process}
    (kept : DispositionsKept database next)
    (asserted : ClosingAssertion database process) :
    ClosingAssertion next process := by
  have seen {request : TransitionRequest} {selected : SelectedCase}
      (before : SeenDisposition request selected database) :
      SeenDisposition request selected next := by
    intro closing
    obtain ⟨notClosed, row, stored, accepted⟩ := before closing
    exact ⟨notClosed, row, kept row stored, accepted⟩
  cases process with
  | transition request point =>
      cases point with
      | findDisposition selected => exact asserted
      | findConflict selected => exact seen asserted
      | write selected updatedAt => exact seen asserted
      | requireCase | finished => trivial
  | idle | disposition | execution => trivial

theorem outside_keeps (outside : Outside database next) :
    next.dispositions = database.dispositions ∧
      RequirementsKept database next := by
  cases outside with
  | ingested => exact ⟨rfl, RequirementsKept.of_same rfl⟩
  | assigned rows audit =>
      refine ⟨rfl, RequirementsKept.of_map rows fun row _ => ?_⟩
      unfold Table.applyWhere
      split
      · exact ⟨⟨rfl, rfl⟩, rfl⟩
      · exact ⟨⟨rfl, rfl⟩, rfl⟩

theorem closing_owner {point : Process}
    (dated : DispositionsDated labels pool.shared)
    (asserted : ClosingAssertion pool.shared (pool.process index))
    (inTime : WrittenInTime pool (.resume index input effect))
    (resumed : (pool.process index).resume detectors input pool.shared =
      (point, next, effect)) :
    DispositionsDated (labels ++ [.resume index input effect]) next ∧
      ClosingAssertion next point ∧ DispositionsKept pool.shared next := by
  simp only [WrittenInTime] at inTime
  cases isProcess : pool.process index with
  | idle =>
      rw [isProcess] at resumed
      obtain ⟨rfl, rfl, rfl⟩ := resumed
      refine ⟨dated.of_kept rfl (RequirementsKept.of_same rfl) ?_, trivial,
        fun _ stored => stored⟩
      exact fun _ _ _ => rfl
  | transition request transitionPoint =>
      rw [isProcess] at resumed asserted inTime
      cases isResumed : request.resume input transitionPoint pool.shared with
      | mk nextPoint rest =>
          obtain ⟨database, nextEffect⟩ := rest
          simp only [Process.resume, isResumed] at resumed
          obtain ⟨rfl, rfl, rfl⟩ := resumed
          cases transitionPoint with
          | write selected updatedAt =>
              exact transition_writes dated inTime isResumed rfl
          | requireCase | findDisposition | findConflict | finished =>
              obtain ⟨rfl, rfl, nextAsserted⟩ :=
                transition_reads (fun _ _ => TransitionPoint.noConfusion)
                  asserted isResumed
              refine ⟨dated.of_kept rfl (RequirementsKept.of_same rfl) ?_,
                nextAsserted, fun _ stored => stored⟩
              exact fun _ _ _ => rfl
  | disposition request dispositionPoint =>
      rw [isProcess] at resumed
      cases isResumed : request.resume input dispositionPoint pool.shared with
      | mk nextPoint rest =>
          obtain ⟨database, nextEffect⟩ := rest
          simp only [Process.resume, isResumed] at resumed
          obtain ⟨rfl, rfl, rfl⟩ := resumed
          have labelled : effectOf (.resume index input effect) = effect :=
            rfl
          obtain ⟨nextDated, kept⟩ :=
            disposition_resumes dated isResumed labelled
          exact ⟨nextDated, trivial, kept⟩
  | execution task executionPoint =>
      rw [isProcess] at resumed
      cases isResumed : task.resume detectors input executionPoint
          pool.shared with
      | mk nextPoint rest =>
          obtain ⟨database, nextEffect⟩ := rest
          simp only [Process.resume, isResumed] at resumed
          obtain ⟨rfl, rfl, rfl⟩ := resumed
          obtain ⟨same, requirements, noRecord⟩ := execution_keeps isResumed
          refine ⟨dated.of_kept same requirements noRecord, trivial,
            fun row stored => ?_⟩
          rw [same]
          exact stored

theorem closing_sound :
    closingAssertions.Sound (procedure detectors) WrittenInTime
      (fun before after _ => DispositionsKept before after) where
  symm _ := trivial
  idle _ := trivial
  idlePair _ _ := trivial
  starts database process isStart := by
    refine ⟨?_, fun _ => trivial⟩
    cases isStart with
    | transition | disposition | execution => trivial
  unseen dated notResumed := by
    refine DispositionsDated.of_kept dated rfl (RequirementsKept.of_same rfl) ?_
    intro _ _ _
    cases isLabel : ‹PoolLabel Input Effect› with
    | resume index input effect => exact absurd isLabel (notResumed _ _ _)
    | begin | drop | outside => rfl
  owner holds inTime resumed := by
    obtain ⟨dated, asserted, kept⟩ :=
      closing_owner holds.shared (holds.process _) inTime resumed
    exact ⟨dated, asserted, fun _ _ => ⟨kept, trivial⟩⟩
  outside dated changed := by
    obtain ⟨same, requirements⟩ := outside_keeps changed
    refine ⟨fun row stored => ?_, fun _ row stored => ?_⟩
    · rw [same] at stored
      exact (dated row stored).imp_right (Outdated.kept requirements)
    · rw [same]
      exact stored
  refl _ _ _ stored := stored
  stable kept asserted := asserted.kept kept
  stablePair _ _ _ := trivial

end Soundness

/-! ## What a run guarantees -/

section Runs

variable {detectors : Detectors} {start state next : Pool Database Process}
  {labels : List (PoolLabel Input Effect)} {label : PoolLabel Input Effect}
  {database : Database} {request : TransitionRequest}

theorem closing_hold (isInitial : (system detectors).initial start)
    (run : (system detectors).RunWhere WrittenInTime start labels state) :
    closingAssertions.Hold labels state := by
  apply Procedure.Assertions.Hold.run closing_sound ?_ isInitial run
  intro database empty row stored
  rw [empty.dispositions] at stored
  exact absurd stored List.not_mem_nil

/-- What a request has seen is fresh when the case still requires it. -/
theorem SeenDisposition.fresh {selected : SelectedCase} {row : CaseRow}
    (seen : SeenDisposition request selected database)
    (dated : DispositionsDated labels database)
    (closing : request.requested = .closed)
    (stored : row ∈ database.cases.rows)
    (isSelected : request.selects selected row = true)
    (unchanged : selected.status ≠ .closed →
      row.dispositionRequiredAfter = selected.dispositionRequiredAfter) :
    ∃ disposition ∈ database.dispositions.rows,
      disposition ∈ sinceReopen request.tenantId request.caseId labels := by
  obtain ⟨notClosed, disposition, isStored, accepted⟩ := seen closing
  obtain ⟨tenant, case, late⟩ := accepts_iff.mp accepted
  obtain ⟨⟨rowTenant, rowCase⟩, -⟩ := selects_iff.mp isSelected
  refine ⟨disposition, isStored, ?_⟩
  rcases dated disposition isStored with fresh | outdated
  · rw [tenant, case] at fresh
    exact fresh
  · obtain ⟨other, otherStored, ⟨otherTenant, otherCase⟩, required,
      isRequired, older⟩ := outdated
    have same : other = row := by
      apply case_eq_of_key otherStored stored
      · exact otherTenant.trans (tenant.trans rowTenant.symm)
      · exact otherCase.trans (case.trans rowCase.symm)
    rw [same, unchanged notClosed] at isRequired
    exact absurd older (Int.not_lt.mpr (late required isRequired))

/-- Only the batch of a transition moves a case. -/
theorem transition_moved {point nextPoint : TransitionPoint} {input : Input}
    {tenantId caseId : String} {old new : CaseStatus} {after : Database}
    (asserted : ClosingAssertion database (.transition request point))
    (resumed : request.resume input point database =
      (nextPoint, after, .moved tenantId caseId old new)) :
    ∃ selected updatedAt row, point = .write selected updatedAt ∧
      row ∈ database.cases.rows ∧ request.selects selected row = true ∧
      request.tenantId = tenantId ∧ request.caseId = caseId ∧
      request.requested = new := by
  cases point with
  | write selected updatedAt =>
      have isWritten := written resumed
      cases isWritten with
      | moved stored isSelected rows =>
          exact ⟨selected, updatedAt, _, rfl, stored, isSelected, rfl, rfl,
            rfl⟩
  | requireCase | findDisposition | findConflict | finished =>
      obtain ⟨-, noEffect, -⟩ := transition_reads
        (fun _ _ => TransitionPoint.noConfusion) asserted resumed
      cases noEffect

/-- Dispositions and executions move no case. -/
theorem disposition_moves_none {task : DispositionRequest}
    {point nextPoint : DispositionPoint} {input : Input}
    {tenantId caseId : String} {old new : CaseStatus} {after : Database} :
    task.resume input point database ≠
      (nextPoint, after, .moved tenantId caseId old new) := by
  intro resumed
  cases point with
  | requireCase | write =>
      simp only [DispositionRequest.resume] at resumed
      repeat' split at resumed
      all_goals cases resumed
  | finished => cases resumed

theorem execution_moves_none {task : Execution}
    {point nextPoint : ExecutionPoint} {input : Input}
    {tenantId caseId : String} {old new : CaseStatus} {after : Database} :
    task.resume detectors input point database ≠
      (nextPoint, after, .moved tenantId caseId old new) := by
  intro resumed
  cases point with
  | load | detect =>
      simp only [Execution.resume] at resumed
      repeat' split at resumed
      all_goals cases resumed
  | persist | mark | markFailed | finished => cases resumed

/-- A transition that fails leaves every table as it is. -/
theorem transition_fails {input : Input} {point : TransitionPoint}
    {failure : CaseWorkflowError} {effect : Effect} {after : Database}
    (asserted : ClosingAssertion database (.transition request point))
    (resumed : request.resume input point database =
      (.finished (.error failure), after, effect)) : after = database := by
  cases point with
  | write selected updatedAt =>
      have isWritten := written resumed
      cases isWritten with
      | lost | conflict => rfl
  | requireCase | findDisposition | findConflict | finished =>
      exact (transition_reads (fun _ _ => TransitionPoint.noConfusion)
        asserted resumed).1

/-- A transition whose case has left the state that was read. -/
theorem transition_lost {input : Input} {selected : SelectedCase}
    {updatedAt : Timestamp}
    (noRow : ∀ row ∈ database.cases.rows,
      request.selects selected row = false) :
    request.resume input (.write selected updatedAt) database =
      (.finished (.error .invalidTransition), database, .none) := by
  simp only [TransitionRequest.resume, TransitionRequest.write]
  rw [Table.updateWhere_none_selected noRow]
  rfl

/-- The step that closes a case finds a fresh disposition. -/
theorem closes_fresh {index : Nat} {input : Input} {point : Process}
    {tenantId caseId : String} {old : CaseStatus} {after : Database}
    (holds : closingAssertions.Hold labels state)
    (permitted : WrittenInTime state
      (.resume index input (.moved tenantId caseId old .closed)))
    (resumed : (state.process index).resume detectors input state.shared =
      (point, after, .moved tenantId caseId old .closed)) :
    ∃ disposition ∈ state.shared.dispositions.rows,
      disposition ∈ sinceReopen tenantId caseId labels := by
  have asserted : ClosingAssertion state.shared (state.process index) :=
    holds.process index
  simp only [WrittenInTime] at permitted
  cases isProcess : state.process index with
  | idle =>
      rw [isProcess] at resumed
      cases resumed
  | transition request transitionPoint =>
      rw [isProcess] at resumed asserted permitted
      cases isResumed : request.resume input transitionPoint state.shared with
      | mk nextPoint rest =>
          obtain ⟨database, effect⟩ := rest
          simp only [Process.resume, isResumed] at resumed
          obtain ⟨rfl, rfl, rfl⟩ := resumed
          obtain ⟨selected, updatedAt, row, rfl, stored, isSelected, rfl, rfl,
            closing⟩ := transition_moved asserted isResumed
          have inTime := permitted row stored isSelected
          apply SeenDisposition.fresh asserted holds.shared closing stored
            isSelected
          intro notClosed
          rw [if_neg notClosed] at inTime
          exact inTime
  | disposition task dispositionPoint =>
      rw [isProcess] at resumed
      cases isResumed : task.resume input dispositionPoint state.shared with
      | mk nextPoint rest =>
          obtain ⟨database, effect⟩ := rest
          simp only [Process.resume, isResumed] at resumed
          obtain ⟨rfl, rfl, rfl⟩ := resumed
          exact absurd isResumed disposition_moves_none
  | execution task executionPoint =>
      rw [isProcess] at resumed
      cases isResumed : task.resume detectors input executionPoint
          state.shared with
      | mk nextPoint rest =>
          obtain ⟨database, effect⟩ := rest
          simp only [Process.resume, isResumed] at resumed
          obtain ⟨rfl, rfl, rfl⟩ := resumed
          exact absurd isResumed execution_moves_none

/-- A case that is closed has a disposition that was recorded after its most
recent reopening; a transition that fails changes nothing, and one whose case
has left the state that was read fails. -/
theorem fresh_disposition (isInitial : (system detectors).initial start)
    (run : (system detectors).RunWhere WrittenInTime start labels state)
    (permitted : WrittenInTime state label)
    (step : (system detectors).step state label next) :
    (∀ tenantId caseId, Closes tenantId caseId label →
      ∃ disposition ∈ state.shared.dispositions.rows,
        disposition ∈ sinceReopen tenantId caseId labels) ∧
    (∀ index input effect, label = .resume index input effect →
      ∀ request point, state.process index = .transition request point →
        (∀ failure, next.process index =
            .transition request (.finished (.error failure)) →
          next.shared = state.shared) ∧
        (∀ selected updatedAt, point = .write selected updatedAt →
          (∀ row ∈ state.shared.cases.rows,
            request.selects selected row = false) →
          next.shared = state.shared ∧
            next.process index =
              .transition request (.finished (.error .invalidTransition)))) := by
  have holds := closing_hold isInitial run
  constructor
  · rintro tenantId caseId ⟨old, closes⟩
    cases step with
    | begin | drop | outside => cases closes
    | resume resumed =>
        cases closes
        exact closes_fresh holds permitted resumed
  · rintro index input effect rfl request point isProcess
    cases step with
    | @resume _ _ nextProcess after _ resumed =>
        change (state.process index).resume detectors input state.shared =
          (nextProcess, after, effect) at resumed
        rw [isProcess] at resumed
        have asserted : ClosingAssertion state.shared
            (.transition request point) := by
          rw [← isProcess]
          exact holds.process index
        cases isResumed : request.resume input point state.shared with
        | mk nextPoint rest =>
            obtain ⟨database, nextEffect⟩ := rest
            simp only [Process.resume, isResumed] at resumed
            obtain ⟨rfl, rfl, rfl⟩ := resumed
            simp only [Function.update_self]
            constructor
            · rintro failure failed
              cases failed
              exact transition_fails asserted isResumed
            · rintro selected updatedAt rfl noRow
              rw [transition_lost noRow] at isResumed
              cases isResumed
              exact ⟨rfl, rfl⟩

end Runs

/-! ### A schedule -/

def sampleAlert : DetectionAlert where
  alertId := "alert-1"
  ruleId := "CF-BUILTIN-001"
  title := "Suspicious sign-in"
  severity := .high
  eventId := "event-1"
  actor := "ana"
  reasons := []
  tags := []
  ruleVersion := 1
  ruleDigest := "digest"
  createdAt := ⟨0, "1970-01-01T00:00:00Z"⟩

/-- Detectors that have one alert for every event. -/
def sampleDetectors : Detectors where
  sha256 text := text
  detect event _ := .returns
    [{ sampleAlert with eventId := event.eventId, actor := event.actor }]
  created := by
    rintro event events alerts ⟨⟩ alert member
    rw [List.mem_singleton.mp member]
    exact ⟨rfl, rfl⟩

def sampleEvent : EventRow where
  tenantId := "acme"
  eventId := "event-1"
  eventType := "login"
  occurredAt := ⟨0, "1970-01-01T00:00:00Z"⟩
  receivedAt := 0
  actor := "ana"
  sourceIp := none
  target := none
  deviceId := some "mac-1"
  attributes := { members := [] }
  payloadSha256 := ""
  processedAt := none
  processingError := none

def sampleStart : Pool Database Process where
  shared := {
    events := ⟨[sampleEvent], List.pairwise_singleton _ _⟩
    alerts := .empty
    cases := .empty
    caseAlerts := .empty
    dispositions := .empty
    audit := [] }
  process _ := .idle

theorem sampleStart_initial :
    (system sampleDetectors).initial sampleStart :=
  ⟨⟨rfl, rfl, rfl, rfl⟩, fun _ => rfl⟩

def resumeAt (index : Nat) (now : Timestamp) (uuid : String) :
    Procedure.Command Process Input :=
  .resume index ⟨now, uuid, now⟩

def transitionAt (index : Nat) (requested : CaseStatus) :
    Procedure.Command Process Input :=
  .begin index (.transition ⟨"acme", "case-1", requested, "ana"⟩ .requireCase)

/-- The event is processed, which opens a case, and a disposition is recorded
for the case. -/
def openedSchedule : List (Procedure.Command Process Input) :=
  [.begin 0 (.execution ⟨"acme", "event-1"⟩ .load), resumeAt 0 1000 "",
    resumeAt 0 1000 "", resumeAt 0 1000 "", resumeAt 0 1000 "",
    resumeAt 0 1000 "case-1", resumeAt 0 1000 "", resumeAt 0 1000 "",
    resumeAt 0 1000 "",
    .begin 1 (.disposition
      ⟨"acme", "case-1", .truePositive, "confirmed", none, "ana"⟩
      .requireCase),
    resumeAt 1 2000 "", resumeAt 1 2000 "disposition-1"]

def opened : List (PoolLabel Input Effect) × Pool Database Process :=
  (procedure sampleDetectors).follow sampleStart openedSchedule

theorem opened_run :
    (system sampleDetectors).RunWhere WrittenInTime sampleStart opened.1
      opened.2 := by
  apply Procedure.run_follow
  refine ⟨⟨rfl, .execution _⟩, trivial, ?_⟩
  iterate 8 refine ⟨trivial, trivial, ?_⟩
  refine ⟨⟨rfl, .disposition _⟩, trivial, ?_⟩
  exact ⟨trivial, trivial, trivial, trivial, trivial⟩

/-- A request to close the case is suspended before it writes, while another
one closes the case and a third one reopens it. -/
def overtakenSchedule : List (Procedure.Command Process Input) :=
  [transitionAt 2 .closed, resumeAt 2 3000 "", resumeAt 2 3000 "",
    transitionAt 3 .closed, resumeAt 3 4000 "", resumeAt 3 4000 "",
    resumeAt 3 4000 "",
    transitionAt 4 .opened, resumeAt 4 5000 "", resumeAt 4 5000 "",
    resumeAt 4 5000 ""]

def overtaken : List (PoolLabel Input Effect) × Pool Database Process :=
  (procedure sampleDetectors).follow opened.2 overtakenSchedule

theorem overtaken_run :
    (system sampleDetectors).Run opened.2 overtaken.1 overtaken.2 := by
  apply Procedure.run_follow
  refine ⟨⟨rfl, .transition _⟩, trivial, ?_⟩
  iterate 2 refine ⟨trivial, trivial, ?_⟩
  refine ⟨⟨rfl, .transition _⟩, trivial, ?_⟩
  iterate 3 refine ⟨trivial, trivial, ?_⟩
  refine ⟨⟨rfl, .transition _⟩, trivial, ?_⟩
  iterate 3 refine ⟨trivial, trivial, ?_⟩
  trivial

/-- The first request then closes the case, with no disposition since it was
reopened. -/
theorem fresh_disposition_overtaken :
    ∃ detectors start labels state label next,
      (system detectors).initial start ∧
      (system detectors).Run start labels state ∧
      (system detectors).step state label next ∧
      Closes "acme" "case-1" label ∧
      sinceReopen "acme" "case-1" labels = [] := by
  have before : (system sampleDetectors).Run sampleStart opened.1 opened.2 :=
    opened_run.weaken fun _ _ _ => trivial
  refine ⟨sampleDetectors, sampleStart, opened.1 ++ overtaken.1, overtaken.2,
    _, _, sampleStart_initial, before.append overtaken_run,
    @Procedure.step_perform _ _ _ _ _ _ (resumeAt 2 6000 "") trivial, ?_, ?_⟩
  · exact ⟨.opened, by decide +kernel⟩
  · decide +kernel

/-- A request that is not overtaken. -/
def closingSchedule : List (Procedure.Command Process Input) :=
  [transitionAt 2 .closed, resumeAt 2 3000 "", resumeAt 2 3000 ""]

def closing : List (PoolLabel Input Effect) × Pool Database Process :=
  (procedure sampleDetectors).follow opened.2 closingSchedule

theorem fresh_disposition_closing :
    ∃ disposition ∈ closing.2.shared.dispositions.rows,
      disposition ∈ sinceReopen "acme" "case-1" (opened.1 ++ closing.1) := by
  have run : (system sampleDetectors).RunWhere WrittenInTime opened.2
      closing.1 closing.2 := by
    apply Procedure.run_follow
    exact ⟨⟨rfl, .transition _⟩, trivial, trivial, trivial, trivial, trivial,
      trivial⟩
  have permitted : WrittenInTime closing.2
      (.resume 2 ⟨3000, "", 3000⟩
        (.moved "acme" "case-1" .opened .closed)) := by
    intro row stored isSelected
    rw [List.mem_singleton.mp stored]
    rfl
  obtain ⟨fresh, -⟩ := fresh_disposition sampleStart_initial
    (opened_run.append run) permitted
    (@Procedure.step_perform _ _ _ _ _ _ (resumeAt 2 3000 "") trivial)
  exact fresh "acme" "case-1" ⟨.opened, by decide +kernel⟩

end Cloud

end ControlForge
