import ControlForge.Detection.History
import ControlForge.Detection.Streaming
import ControlForge.Foundation.Interleaving
import ControlForge.Processing.Claims

/-!
# Detection workers

A worker leases jobs.  For every lease it loads the event and its history,
evaluates the detections, and persists the alerts; what fails is reported with
`fail_job`.  Every call of the store is one step, any call may raise, and a
worker may stop between any two of them.  Collectors and analysts run their
transactions on the same database.
-/

namespace ControlForge

namespace Processing

open Store Cases

/-- `StandaloneSettings`, and the delay of `StandaloneDetectionWorker`. -/
structure WorkerSettings where
  workerLeaseSeconds : Int
  workerMaxAttempts : Int
  retryDelaySeconds : Int
  maxAttemptsPositive : 1 ≤ workerMaxAttempts
  maxAttemptsBounded : workerMaxAttempts ≤ 100

/-- What a worker evaluates events with. -/
structure Detector (F : Type) where
  pipeline : Detection.DetectionPipeline F
  /-- `model_validate_json` of a stored payload. -/
  modelValidateJson : String → SecurityEvent
  /-- Where `julianday` rounds in a millisecond. -/
  julianOffset : Int
  /-- The versions, digests and snapshots of the rules. -/
  decision : Decision

/-- The arguments of `run_once`. -/
structure RunOnce where
  tenantId : String
  workerId : String
  now : Timestamp

/-- Where a client of the store is. -/
inductive Client where
  | idle
  | call (operation : Operation)
  | leasing (run : RunOnce) (limit : Int)
  | loading (run : RunOnce) (lease : JobLease) (rest : List JobLease)
  | correlating (run : RunOnce) (event : SecurityEvent) (lease : JobLease)
      (rest : List JobLease)
  | persisting (run : RunOnce) (alerts : List DetectionAlert)
      (lease : JobLease) (rest : List JobLease)
  | failing (run : RunOnce) (error : String) (lease : JobLease)
      (rest : List JobLease)

/-- The next turn of the loop over the leases. -/
def Client.proceed (run : RunOnce) : List JobLease → Client
  | [] => .idle
  | lease :: rest => .loading run lease rest

/-- `str` of an exception of the detections. -/
def detectionErrorText : Detection.DetectionError → String
  | .value message | .runtime message => message

/-- `str` of an exception of the store. -/
def storeErrorText : StoreError → String
  | .leaseOwnership message | .identityConflict message
  | .invalidValue message | .runtime message | .authorization message
  | .caseNotFound message | .caseTransition message
  | .caseValidation message | .integrity message | .trigger message
  | .audit (.invalid message) | .audit (.integrity message) => message

/-- The delay before the next attempt. -/
def retryDelay (settings : WorkerSettings) (attempts : Nat) : Int :=
  min (settings.retryDelaySeconds * 2 ^ min (attempts - 1) 10) 86400

section Programs

variable {F Log : Type} (service : Service Log) (detector : Detector F)
  (settings : WorkerSettings)

/-! ## What a worker reads -/

/-- The event a row holds; its payload has the identifier of the row. -/
def readEvent (row : EventRow) : SecurityEvent :=
  { detector.modelValidateJson row.payloadJson with eventId := row.eventId }

def storedEvents (database : Database Log) :
    Table Detection.StoredEvent Detection.StoredEvent.clash where
  rows := database.events.rows.map fun row =>
    ⟨row.tenantId, readEvent detector row⟩
  unique := by
    rw [List.pairwise_map]
    exact database.events.unique

/-- `load_event`. -/
def loadEvent (tenantId eventId : String) (database : Database Log) :
    Option SecurityEvent :=
  (database.events.rows.find? (·.hasKey tenantId eventId)).map
    (readEvent detector)

/-- The alerts for an event with its stored history. -/
def evaluateStored (tenantId : String) (event : SecurityEvent)
    (database : Database Log) :
    Except Detection.DetectionError (List DetectionAlert) := do
  let history ← Detection.loadDetectionHistory detector.julianOffset
    (storedEvents detector database) tenantId event 10000
  detector.pipeline.evaluateWithHistory event history

/-! ## One call of the store -/

/-- A transaction and its record. -/
def execute (operation : Operation) (database : Database Log) :
    Event × Database Log :=
  let (outcome, next) := (program service operation).commit database
  (⟨operation, outcome⟩, next)

/-- One call; the input is the message of an exception that it raises. -/
def Client.resume (raised : Option String) (client : Client)
    (database : Database Log) : Client × Database Log × Option Event :=
  match client, raised with
  | .idle, _ | .call _, some _ | .leasing _ _, some _
  | .failing _ _ _ _, some _ => (.idle, database, none)
  | .loading run lease rest, some message
  | .correlating run _ lease rest, some message
  | .persisting run _ lease rest, some message =>
      (.failing run message lease rest, database, none)
  | .call operation, none =>
      let (event, next) := execute service operation database
      (.idle, next, some event)
  | .leasing run limit, none =>
      let (event, next) := execute service (.lease run.tenantId run.workerId
        limit run.now settings.workerLeaseSeconds) database
      match event.outcome with
      | .ok (.leased leases) => (.proceed run leases, next, some event)
      | _ => (.idle, next, some event)
  | .loading run lease rest, none =>
      match loadEvent detector run.tenantId lease.eventId database with
      | none => (.failing run "leased detection event is missing" lease rest,
          database, none)
      | some event => (.correlating run event lease rest, database, none)
  | .correlating run event lease rest, none =>
      match evaluateStored detector run.tenantId event database with
      | .error failure => (.failing run (detectionErrorText failure) lease rest,
          database, none)
      | .ok alerts => (.persisting run alerts lease rest, database, none)
  | .persisting run alerts lease rest, none =>
      let (event, next) := execute service (.persist run.tenantId lease.jobId
        run.workerId alerts run.now detector.decision) database
      match event.outcome with
      | .ok _ => (.proceed run rest, next, some event)
      | .error failure =>
          (.failing run (storeErrorText failure) lease rest, next, some event)
  | .failing run error lease rest, none =>
      let (event, next) := execute service (.fail run.tenantId lease.jobId
        run.workerId run.now error settings.workerMaxAttempts
        (retryDelay settings lease.attempts)) database
      match event.outcome with
      | .ok _ => (.proceed run rest, next, some event)
      | .error _ => (.idle, next, some event)

/-- What begins: a run of a worker, or a transaction of someone else. -/
inductive Client.Starts : Client → Prop
  | runOnce (run : RunOnce) (limit : Int) : Starts (.leasing run limit)
  | other {operation : Operation}
      (kind : operation.kind = .ingestion ∨ operation.kind = .analysis) :
      Starts (.call operation)

def workers :
    Procedure (Database Log) Client (Option String) (Option Event) where
  idle := .idle
  starts := Client.Starts
  resume := Client.resume service detector settings
  outside _ _ := False

end Programs

/-- A lease that is read back is that of a stored job of the tenant. -/
theorem mem_readLeases {Log : Type} {tenantId : String} {jobIds : List String}
    {database : Database Log} {lease : JobLease}
    (member : lease ∈ readLeases tenantId jobIds database) :
    ∃ job ∈ database.jobs.rows, job.tenantId = tenantId ∧
      lease.tenantId = job.tenantId ∧ lease.jobId = job.jobId ∧
      lease.eventId = job.eventId ∧ lease.attempts = job.attempts := by
  obtain ⟨jobId, -, found⟩ := List.mem_filterMap.mp member
  obtain ⟨job, isFound, isLease⟩ := Option.bind_eq_some_iff.mp found
  obtain ⟨tenant, -⟩ := jobHasKey_iff.mp (List.find?_some isFound)
  unfold JobRow.lease? at isLease
  obtain ⟨owner, -, afterOwner⟩ := Option.bind_eq_some_iff.mp isLease
  obtain ⟨expires, -, made⟩ := Option.bind_eq_some_iff.mp afterOwner
  cases made
  exact ⟨job, List.mem_of_find?_eq_some isFound, tenant, rfl, rfl, rfl, rfl⟩

/-! ## Transactions of a run -/

/-- The label of a step of the pool. -/
abbrev WorkerLabel : Type := PoolLabel (Option String) (Option Event)

def transactionOf : WorkerLabel → Option Event
  | .resume _ _ event => event
  | _ => none

/-- The transactions of a run, in their order. -/
def transactions (labels : List WorkerLabel) : List Event :=
  labels.filterMap transactionOf

theorem transactions_concat (labels : List WorkerLabel)
    (label : WorkerLabel) :
    transactions (labels ++ [label]) =
      transactions labels ++ (transactionOf label).toList := by
  unfold transactions
  rw [List.filterMap_append]
  cases found : transactionOf label with
  | none => simp [found]
  | some event => simp [found]

section Runs

variable {F Log : Type} (service : Service Log) (detector : Detector F)
  (settings : WorkerSettings)

/-- The transaction a client runs next. -/
def Client.transaction : Client → Option Operation
  | .call operation => some operation
  | .leasing run limit => some (.lease run.tenantId run.workerId limit run.now
      settings.workerLeaseSeconds)
  | .persisting run alerts lease _ => some (.persist run.tenantId lease.jobId
      run.workerId alerts run.now detector.decision)
  | .failing run error lease _ => some (.fail run.tenantId lease.jobId
      run.workerId run.now error settings.workerMaxAttempts
      (retryDelay settings lease.attempts))
  | .idle | .loading _ _ _ | .correlating _ _ _ _ => none

/-- Where a call may leave a client, by what it did. -/
inductive Resumed (database : Database Log) :
    Client → Client → Option Event → Prop
  | ended (client : Client) : Resumed database client .idle none
  | raisedLoading {run : RunOnce} {lease : JobLease} {rest : List JobLease}
      (message : String) : Resumed database (.loading run lease rest)
        (.failing run message lease rest) none
  | raisedCorrelating {run : RunOnce} {event : SecurityEvent}
      {lease : JobLease} {rest : List JobLease} (message : String) :
      Resumed database (.correlating run event lease rest)
        (.failing run message lease rest) none
  | raisedPersisting {run : RunOnce} {alerts : List DetectionAlert}
      {lease : JobLease} {rest : List JobLease} (message : String) :
      Resumed database (.persisting run alerts lease rest)
        (.failing run message lease rest) none
  | loaded {run : RunOnce} {lease : JobLease} {rest : List JobLease}
      {event : SecurityEvent}
      (found : loadEvent detector run.tenantId lease.eventId database =
        some event) : Resumed database (.loading run lease rest)
          (.correlating run event lease rest) none
  | evaluated {run : RunOnce} {event : SecurityEvent} {lease : JobLease}
      {rest : List JobLease} {alerts : List DetectionAlert}
      (evaluates : evaluateStored detector run.tenantId event database =
        .ok alerts) : Resumed database (.correlating run event lease rest)
          (.persisting run alerts lease rest) none
  | stopped (client : Client) (event : Event) :
      Resumed database client .idle (some event)
  | leased {run : RunOnce} {limit : Int} {leases : List JobLease}
      {event : Event} (replyIs : event.outcome = .ok (.leased leases)) :
      Resumed database (.leasing run limit) (.proceed run leases) (some event)
  | persisted {run : RunOnce} {alerts : List DetectionAlert}
      {lease : JobLease} {rest : List JobLease} {reply : Reply}
      {event : Event} (replyIs : event.outcome = .ok reply) :
      Resumed database (.persisting run alerts lease rest)
        (.proceed run rest) (some event)
  | refused {run : RunOnce} {alerts : List DetectionAlert}
      {lease : JobLease} {rest : List JobLease} {failure : StoreError}
      {event : Event} (outcomeIs : event.outcome = .error failure) :
      Resumed database (.persisting run alerts lease rest)
        (.failing run (storeErrorText failure) lease rest) (some event)
  | reported {run : RunOnce} {error : String} {lease : JobLease}
      {rest : List JobLease} (event : Event) :
      Resumed database (.failing run error lease rest) (.proceed run rest)
        (some event)

/-- A call without a transaction leaves the database alone; otherwise it is the
step of one transaction. -/
def Steps (client : Client) (database next : Database Log) :
    Option Event → Prop
  | none => next = database
  | some event => client.transaction detector settings =
      some event.operation ∧ (system service).step database event next

variable {service detector settings}

theorem resumed {raised : Option String} {client point : Client}
    {database next : Database Log} {effect : Option Event}
    (moved : client.resume service detector settings raised database =
      (point, next, effect)) :
    Resumed detector database client point effect ∧
      Steps service detector settings client database next effect := by
  cases client with
  | idle =>
      cases moved
      exact ⟨.ended _, rfl⟩
  | call operation =>
      cases raised with
      | some message =>
          cases moved
          exact ⟨.ended _, rfl⟩
      | none =>
          cases moved
          exact ⟨.stopped _ _, rfl, rfl⟩
  | leasing run limit =>
      cases raised with
      | some message =>
          cases moved
          exact ⟨.ended _, rfl⟩
      | none =>
          dsimp only [Client.resume] at moved
          split at moved
          · next leases replyIs =>
              cases moved
              exact ⟨.leased replyIs, rfl, rfl⟩
          · cases moved
            exact ⟨.stopped _ _, rfl, rfl⟩
  | loading run lease rest =>
      cases raised with
      | some message =>
          cases moved
          exact ⟨.raisedLoading message, rfl⟩
      | none =>
          dsimp only [Client.resume] at moved
          split at moved
          · cases moved
            exact ⟨.raisedLoading _, rfl⟩
          · next event found =>
              cases moved
              exact ⟨.loaded found, rfl⟩
  | correlating run event lease rest =>
      cases raised with
      | some message =>
          cases moved
          exact ⟨.raisedCorrelating message, rfl⟩
      | none =>
          dsimp only [Client.resume] at moved
          split at moved
          · cases moved
            exact ⟨.raisedCorrelating _, rfl⟩
          · next alerts evaluates =>
              cases moved
              exact ⟨.evaluated evaluates, rfl⟩
  | persisting run alerts lease rest =>
      cases raised with
      | some message =>
          cases moved
          exact ⟨.raisedPersisting message, rfl⟩
      | none =>
          dsimp only [Client.resume] at moved
          split at moved
          · next reply replyIs =>
              cases moved
              exact ⟨.persisted replyIs, rfl, rfl⟩
          · next failure outcomeIs =>
              cases moved
              exact ⟨.refused outcomeIs, rfl, rfl⟩
  | failing run error lease rest =>
      cases raised with
      | some message =>
          cases moved
          exact ⟨.ended _, rfl⟩
      | none =>
          dsimp only [Client.resume] at moved
          split at moved
          · cases moved
            exact ⟨.reported _, rfl, rfl⟩
          · cases moved
            exact ⟨.stopped _ _, rfl, rfl⟩

/-! ## Runs of the system -/

/-- A condition on the transactions of a run. -/
def OnTransactions (condition : Database Log → Event → Prop)
    (pool : Pool (Database Log) Client) (label : WorkerLabel) : Prop :=
  ∀ event, transactionOf label = some event → condition pool.shared event

theorem onTransactions_of_check {check : Database Log → Event → Bool}
    {pool : Pool (Database Log) Client} {label : WorkerLabel}
    (checked : (transactionOf label).all (check pool.shared) = true) :
    OnTransactions (fun database event => check database event = true) pool
      label := by
  intro event isEvent
  rw [isEvent] at checked
  exact checked

variable (detector settings) in
/-- The transactions of workers, collectors and analysts. -/
inductive Permitted : Operation → Prop
  | other {operation : Operation}
      (kind : operation.kind = .ingestion ∨ operation.kind = .analysis) :
      Permitted operation
  | lease (run : RunOnce) (limit : Int) : Permitted (.lease run.tenantId
      run.workerId limit run.now settings.workerLeaseSeconds)
  | persist (run : RunOnce) (jobId : String) (alerts : List DetectionAlert) :
      Permitted (.persist run.tenantId jobId run.workerId alerts run.now
        detector.decision)
  | fail (run : RunOnce) (jobId error : String) (delay : Int) :
      Permitted (.fail run.tenantId jobId run.workerId run.now error
        settings.workerMaxAttempts delay)

/-! ### Local invariants -/

variable (detector) in
/-- A property of clients that no call loses. -/
structure LocalInvariant (property : Client → Prop) : Prop where
  idle : property .idle
  starts : ∀ {client : Client}, client.Starts → property client
  resumes : ∀ {Log : Type} {database : Database Log} {client point : Client}
    {effect : Option Event}, property client →
    Resumed detector database client point effect → property point

theorem LocalInvariant.and {left right : Client → Prop}
    (holdsLeft : LocalInvariant detector left)
    (holdsRight : LocalInvariant detector right) :
    LocalInvariant detector fun client => left client ∧ right client where
  idle := ⟨holdsLeft.idle, holdsRight.idle⟩
  starts isStart := ⟨holdsLeft.starts isStart, holdsRight.starts isStart⟩
  resumes holds resumed := ⟨holdsLeft.resumes holds.1 resumed,
    holdsRight.resumes holds.2 resumed⟩

theorem LocalInvariant.step {property : Client → Prop}
    (invariant : LocalInvariant detector property)
    {pool next : Pool (Database Log) Client} {label : WorkerLabel}
    (holds : ∀ index, property (pool.process index))
    (step : (workers service detector settings).Step pool label next) :
    ∀ index, property (next.process index) := by
  have replaced {index : Nat} {point : Client} (new : property point)
      (other : Nat) :
      property (Function.update pool.process index point other) := by
    by_cases same : other = index
    · rw [same, Function.update_self]
      exact new
    · rw [Function.update_of_ne same]
      exact holds other
  cases step with
  | begin free isStart => exact replaced (invariant.starts isStart)
  | @resume index input point shared effect moved =>
      exact replaced (invariant.resumes (holds index) (resumed moved).1)
  | drop index => exact replaced invariant.idle
  | outside changed => exact absurd changed id

/-- The transactions of a run are a run of the processing system, each of them
that of a client with the local properties. -/
theorem run_transactions {property : Client → Prop}
    (invariant : LocalInvariant detector property)
    {condition : Database Log → Event → Prop}
    {initial : Database Log → Prop} {start pool : Pool (Database Log) Client}
    {labels : List WorkerLabel}
    (isInitial :
      ((workers service detector settings).system initial).initial start)
    (run : ((workers service detector settings).system initial).RunWhere
      (OnTransactions condition) start labels pool) :
    (system service).RunWhere (fun database event =>
        condition database event ∧ ∃ client : Client, property client ∧
          client.transaction detector settings = some event.operation)
      start.shared (transactions labels) pool.shared := by
  have everywhere : (∀ index, property (pool.process index)) ∧
      (system service).RunWhere (fun database event =>
          condition database event ∧ ∃ client : Client, property client ∧
            client.transaction detector settings = some event.operation)
        start.shared (transactions labels) pool.shared := by
    induction run with
    | nil =>
        refine ⟨fun index => ?_, .nil⟩
        rw [isInitial.2 index]
        exact invariant.idle
    | @snoc labels middle finish label before holds step induction =>
        obtain ⟨properties, earlier⟩ := induction
        refine ⟨invariant.step properties step, ?_⟩
        rw [transactions_concat]
        cases step with
        | begin | drop =>
            rw [show transactionOf _ = none from rfl, Option.toList_none,
              List.append_nil]
            exact earlier
        | outside changed => exact absurd changed id
        | @resume index input point shared effect moved =>
            have steps := (resumed moved).2
            cases effect with
            | none =>
                cases steps
                rw [show transactionOf _ = none from rfl, Option.toList_none,
                  List.append_nil]
                exact earlier
            | some event =>
                obtain ⟨transacts, step⟩ := steps
                exact .snoc earlier ⟨holds event rfl, middle.process index,
                  properties index, transacts⟩ step
  exact everywhere.2

/-- A client calls only what others may call. -/
def Client.CallsOthers (client : Client) : Prop :=
  ∀ operation, client = .call operation →
    operation.kind = .ingestion ∨ operation.kind = .analysis

theorem Client.proceed_ne_call (run : RunOnce) (leases : List JobLease)
    (operation : Operation) : Client.proceed run leases ≠ .call operation := by
  cases leases with
  | nil => nofun
  | cons lease rest => nofun

theorem callsOthers_invariant :
    LocalInvariant detector Client.CallsOthers where
  idle := nofun
  starts isStart := by
    rintro operation rfl
    cases isStart with
    | other kind => exact kind
  resumes _ resumed := by
    intro operation isCall
    cases resumed with
    | leased => exact absurd isCall (Client.proceed_ne_call _ _ _)
    | persisted => exact absurd isCall (Client.proceed_ne_call _ _ _)
    | reported => exact absurd isCall (Client.proceed_ne_call _ _ _)
    | ended | raisedLoading | raisedCorrelating | raisedPersisting | loaded
    | evaluated | stopped | refused => cases isCall

/-- A transaction of a client is permitted. -/
theorem permitted_of_transaction {client : Client}
    (callsOthers : client.CallsOthers) {operation : Operation}
    (transacts : client.transaction detector settings = some operation) :
    Permitted detector settings operation := by
  cases client with
  | idle | loading | correlating => cases transacts
  | call other =>
      cases transacts
      exact .other (callsOthers operation rfl)
  | leasing run limit =>
      cases transacts
      exact .lease run limit
  | persisting run alerts lease rest =>
      cases transacts
      exact .persist run lease.jobId alerts
  | failing run error lease rest =>
      cases transacts
      exact .fail run lease.jobId error _

end Runs

end Processing

end ControlForge
