import ControlForge.Cases.Service
import ControlForge.Foundation.Transition

/-!
# The processing system

Collectors, workers and analysts run their transactions on one database in any
order.  Statement by statement, this module says what a transaction that
commits has done to the tables.
-/

namespace ControlForge

namespace Processing

open Store Cases

inductive Operation where
  | ingest (tenantId : String) (events : List SecurityEvent)
      (receivedAt : Timestamp)
  | ingestOne (tenantId : String) (event : SecurityEvent)
      (receivedAt : Timestamp)
  | lease (tenantId workerId : String) (limit : Int) (now : Timestamp)
      (leaseSeconds : Int)
  | persist (tenantId jobId workerId : String) (alerts : List DetectionAlert)
      (now : Timestamp) (decision : Decision)
  | complete (tenantId jobId workerId : String) (now : Timestamp)
  | fail (tenantId jobId workerId : String) (now : Timestamp) (error : String)
      (maxAttempts retryDelaySeconds : Int)
  | addNote (principal : SessionPrincipal)
      (activityId caseId note : String) (now : Timestamp)
  | assign (principal : SessionPrincipal) (activityId caseId : String)
      (assigneeUserId : Option String) (now : Timestamp)
  | transition (principal : SessionPrincipal)
      (activityId caseId target : String) (now : Timestamp)
  | recordDisposition (principal : SessionPrincipal)
      (dispositionId activityId caseId status rationale : String)
      (falsePositiveReason : Option String) (now : Timestamp)

inductive OperationKind where
  | ingestion
  | claim
  | completion
  | finish
  | analysis
deriving DecidableEq

def Operation.kind : Operation → OperationKind
  | .ingest .. | .ingestOne .. => .ingestion
  | .lease .. => .claim
  | .persist .. => .completion
  | .complete .. | .fail .. => .finish
  | .addNote .. | .assign .. | .transition .. | .recordDisposition .. =>
      .analysis

/-- The tenant, the job and the worker of a completion or a failure report. -/
def Operation.report? : Operation → Option (String × String × String)
  | .persist tenantId jobId workerId _ _ _
  | .complete tenantId jobId workerId _
  | .fail tenantId jobId workerId _ _ _ _ => some (tenantId, jobId, workerId)
  | _ => none

/-- What an operation returns. -/
inductive Reply where
  | ingested (results : List IngestResult)
  | leased (leases : List JobLease)
  | persisted (result : AlertPersistenceResult)
  | moved (transition : JobTransition)
  | done
  | disposed (disposition : DispositionRow)

section Programs

variable {Log : Type} (service : Service Log)

def program : Operation → Program Log Reply
  | .ingest tenantId events receivedAt => do
      let results ← ingestEvents service.library tenantId events receivedAt
      return .ingested results
  | .ingestOne tenantId event receivedAt => do
      let result ← ingestEvent service.library tenantId event receivedAt
      return .ingested [result]
  | .lease tenantId workerId limit now leaseSeconds => do
      let leases ← leaseJobs tenantId workerId limit now leaseSeconds
      return .leased leases
  | .persist tenantId jobId workerId alerts now decision => do
      let result ← persistAlertsAndCompleteJob service.library tenantId jobId
        workerId alerts now decision
      return .persisted result
  | .complete tenantId jobId workerId now => do
      let transition ← completeJob tenantId jobId workerId now
      return .moved transition
  | .fail tenantId jobId workerId now error maxAttempts retryDelaySeconds => do
      let transition ← failJob tenantId jobId workerId now error maxAttempts
        retryDelaySeconds
      return .moved transition
  | .addNote principal activityId caseId note now => do
      addNote service principal activityId caseId note now
      return .done
  | .assign principal activityId caseId assigneeUserId now => do
      assign service principal activityId caseId assigneeUserId now
      return .done
  | .transition principal activityId caseId target now => do
      transition service principal activityId caseId target now
      return .done
  | .recordDisposition principal dispositionId activityId caseId status
      rationale falsePositiveReason now => do
      let disposition ← recordDisposition service principal dispositionId
        activityId caseId status rationale falsePositiveReason now
      return .disposed disposition

structure Event where
  operation : Operation
  outcome : Except StoreError Reply

/-- No event has been processed yet. -/
structure Empty (database : Database Log) : Prop where
  events : database.events.rows = []
  jobs : database.jobs.rows = []
  alerts : database.alerts.rows = []
  cases : database.cases.rows = []
  caseAlerts : database.caseAlerts.rows = []
  dispositions : database.dispositions.rows = []

def system : TransitionSystem (Database Log) Event where
  initial := Empty
  step database event next :=
    (program service event.operation).commit database = (event.outcome, next)

/-- A step raises and changes nothing, or its program commits. -/
theorem step_cases {database next : Database Log} {event : Event}
    (step : (system service).step database event next) :
    (∃ failure, event.outcome = .error failure ∧ next = database) ∨
      ∃ reply, event.outcome = .ok reply ∧
        program service event.operation database = .ok (reply, next) := by
  have committed : (program service event.operation).commit database =
      (event.outcome, next) := step
  cases outcome : event.outcome with
  | error failure =>
      rw [outcome] at committed
      exact .inl ⟨failure, rfl, Transaction.commit_error committed⟩
  | ok reply =>
      rw [outcome] at committed
      exact .inr ⟨reply, rfl, Transaction.commit_ok committed⟩

/-- Run operations one after the other. -/
def runOperations (start : Database Log) :
    List Operation → List Event × Database Log
  | [] => ([], start)
  | operation :: operations =>
      let (outcome, next) := (program service operation).commit start
      let (trace, finish) := runOperations next operations
      (⟨operation, outcome⟩ :: trace, finish)

theorem run_runOperations (start : Database Log)
    (operations : List Operation) :
    (system service).Run start (runOperations service start operations).1
      (runOperations service start operations).2 := by
  induction operations generalizing start with
  | nil => exact .nil
  | cons operation operations induction =>
      have first : (system service).Run start
          [⟨operation, ((program service operation).commit start).1⟩]
          ((program service operation).commit start).2 :=
        .snoc .nil trivial rfl
      exact first.append (induction _)

end Programs

/-! ## Statements -/

section Statements

variable {Log : Type} {before after : Database Log}

theorem bind_pure_ok {Value : Type} {first : Program Log Value}
    {wrap : Value → Reply} {reply : Reply}
    (ran : (do let value ← first; return wrap value : Program Log Reply)
      before = .ok (reply, after)) :
    ∃ value, first before = .ok (value, after) ∧ reply = wrap value := by
  obtain ⟨value, middle, inner, returned⟩ := Transaction.run_bind_ok.mp ran
  cases returned
  exact ⟨value, inner, rfl⟩

theorem updateJobs_ok {selected : JobRow → Bool} {change : JobRow → JobRow}
    {count : Nat}
    (ran : updateJobs selected change before = .ok (count, after)) :
    ∃ jobs, after = { before with jobs } ∧
      jobs.rows = before.jobs.rows.map (Table.applyWhere selected change) := by
  unfold updateJobs at ran
  split at ran
  · next jobs updated =>
      cases ran
      exact ⟨jobs, rfl, (Table.updateWhere_eq_ok.mp updated).2.1⟩
  · cases ran

theorem insertJob_ok {row : JobRow} {result : Unit}
    (ran : insertJob row before = .ok (result, after)) :
    ∃ jobs, after = { before with jobs } ∧
      jobs.rows = before.jobs.rows ++ [row] := by
  unfold insertJob at ran
  split at ran
  · next jobs inserted =>
      cases ran
      exact ⟨jobs, rfl, (Table.insert_eq_some.mp inserted).2⟩
  · cases ran

theorem insertEventOrIgnore_ok {row : EventRow} {accepted : Bool}
    (ran : insertEventOrIgnore row before = .ok (accepted, after)) :
    (accepted = false ∧ after = before) ∨
      (accepted = true ∧ row.tenantId ∈ before.tenants ∧
        ∃ events, after = { before with events } ∧
          events.rows = before.events.rows ++ [row]) := by
  unfold insertEventOrIgnore at ran
  split at ran
  · cases ran
    exact .inl ⟨rfl, rfl⟩
  · next events inserted =>
      split at ran
      · next references =>
          cases ran
          have known := of_decide_eq_true references
          exact .inr ⟨rfl, known.1, events, rfl,
            (Table.insert_eq_some.mp inserted).2⟩
      · cases ran

theorem updateCases_ok {selected : CaseRow → Bool}
    {change : CaseRow → CaseRow}
    {triggers : CaseRow → CaseRow → Option String} {count : Nat}
    (ran : updateCases selected change triggers before =
      .ok (count, after)) :
    ∃ cases, after = { before with cases } ∧
      cases.rows =
        before.cases.rows.map (Table.applyWhere selected change) := by
  unfold updateCases at ran
  split at ran
  · next cases updated =>
      cases ran
      exact ⟨cases, rfl, (Table.updateWhere_eq_ok.mp updated).2.1⟩
  · cases ran

theorem insertActivity_ok {row : ActivityRow} {result : Unit}
    (ran : insertActivity row before = .ok (result, after)) :
    ∃ activity, after = { before with activity } := by
  unfold insertActivity at ran
  split at ran
  · next activity inserted =>
      cases ran
      exact ⟨activity, rfl⟩
  · cases ran

theorem audit_ok {service : Service Log} {principal : SessionPrincipal}
    {action caseId : String} {payload : Dict} {now : Timestamp}
    {result : Unit}
    (ran : audit service principal action caseId payload now before =
      .ok (result, after)) :
    ∃ log, after = { before with audit := log } := by
  unfold audit at ran
  split at ran
  · next log appended =>
      cases ran
      exact ⟨log, rfl⟩
  · cases ran

theorem insertDisposition_ok {row : DispositionRow} {result : Unit}
    (ran : insertDisposition row before = .ok (result, after)) :
    ∃ dispositions, after = { before with dispositions } ∧
      dispositions.rows = before.dispositions.rows ++ [row] := by
  unfold insertDisposition at ran
  split at ran
  · cases ran
  · split at ran
    · next dispositions inserted =>
        cases ran
        exact ⟨dispositions, rfl, (Table.insert_eq_some.mp inserted).2⟩
    · cases ran

theorem requireCase_ok {tenantId caseId : String} {row : CaseRow}
    (ran : requireCase tenantId caseId before = .ok (row, after)) :
    after = before ∧ row ∈ before.cases.rows ∧
      row.hasKey tenantId caseId = true := by
  obtain ⟨read, atRead, got, found⟩ := Transaction.run_bind_ok.mp ran
  cases got
  cases isFound : before.cases.rows.find? (·.hasKey tenantId caseId) with
  | none =>
      rw [isFound] at found
      cases found
  | some stored =>
      rw [isFound] at found
      cases found
      exact ⟨rfl, List.mem_of_find?_eq_some isFound,
        List.find?_some isFound⟩

end Statements

end Processing

end ControlForge
