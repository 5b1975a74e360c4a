import ControlForge.Processing.Leases
import ControlForge.Processing.Worker

/-!
# The number of attempts

Every lease counts one attempt of its job, and a reported failure of the last
attempt ends the job.  A lease that runs out unreported is not counted against
the maximum: the job is leased again.
-/

namespace ControlForge

namespace Processing

open Store Cases

/-! ## Leases of a job -/

/-- How often the transactions leased a job. -/
def leaseCount (tenantId jobId : String) (trace : List Event) : Nat :=
  trace.countP fun event => (event.claimant tenantId jobId).isSome

theorem leaseCount_append (tenantId jobId : String)
    (first second : List Event) :
    leaseCount tenantId jobId (first ++ second) =
      leaseCount tenantId jobId first + leaseCount tenantId jobId second :=
  List.countP_append

theorem leaseCount_of_none {tenantId jobId : String} {event : Event}
    (noClaim : event.claimant tenantId jobId = none) :
    leaseCount tenantId jobId [event] = 0 := by
  simp [leaseCount, noClaim]

/-- No lease of a last attempt has run out when jobs of its tenant are
leased. -/
def lastAttemptsHeld {Log : Type} (maxAttempts : Int)
    (database : Database Log) (event : Event) : Bool :=
  match event.operation with
  | .lease tenantId _ _ now _ => database.jobs.rows.all fun job =>
      ¬(job.tenantId = tenantId ∧ job.status = .leased ∧
        maxAttempts ≤ job.attempts ∧ job.ready now = true)
  | _ => true

/-- The job is out, or it is finished. -/
def OutOrFinished (job : JobRow) : Prop :=
  job.status = .leased ∨ isFinished job = true

/-- The attempts of the jobs are the leases in the trace, and a job that has
used them up is not offered again. -/
structure Counted {Log : Type} (maxAttempts : Int) (trace : List Event)
    (database : Database Log) : Prop where
  counts : ∀ job ∈ database.jobs.rows,
    leaseCount job.tenantId job.jobId trace = job.attempts
  absent : ∀ tenantId jobId,
    (∀ job ∈ database.jobs.rows, job.hasKey tenantId jobId = false) →
      leaseCount tenantId jobId trace = 0
  bounded : ∀ job ∈ database.jobs.rows, (job.attempts : Int) ≤ maxAttempts
  spent : ∀ job ∈ database.jobs.rows, maxAttempts ≤ job.attempts →
    OutOrFinished job

section Steps

variable {Log : Type} {before after : Database Log} {maxAttempts : Int}
  {trace : List Event} {event : Event}

/-- A transaction that changes jobs in place. -/
theorem Counted.map (holds : Counted maxAttempts trace before)
    {update : JobRow → JobRow}
    (rows : after.jobs.rows = before.jobs.rows.map update)
    (key : ∀ job, (update job).tenantId = job.tenantId ∧
      (update job).jobId = job.jobId)
    (counted : ∀ job ∈ before.jobs.rows, (update job).attempts =
      job.attempts + leaseCount job.tenantId job.jobId [event])
    (unnamed : ∀ tenantId jobId,
      (∀ job ∈ before.jobs.rows, job.hasKey tenantId jobId = false) →
        leaseCount tenantId jobId [event] = 0)
    (allowed : ∀ job ∈ before.jobs.rows,
      (update job).attempts ≤ maxAttempts ∧
        (maxAttempts ≤ (update job).attempts → OutOrFinished (update job))) :
    Counted maxAttempts (trace ++ [event]) after := by
  have keyed (job : JobRow) (tenantId jobId : String) :
      (update job).hasKey tenantId jobId = job.hasKey tenantId jobId := by
    rw [JobRow.hasKey, JobRow.hasKey, (key job).1, (key job).2]
  refine ⟨?_, fun tenantId jobId isAbsent => ?_, ?_, ?_⟩
  · intro job stored
    rw [rows] at stored
    obtain ⟨old, oldStored, rfl⟩ := List.mem_map.mp stored
    rw [leaseCount_append, (key old).1, (key old).2,
      holds.counts old oldStored, counted old oldStored]
  · have wasAbsent : ∀ job ∈ before.jobs.rows,
        job.hasKey tenantId jobId = false := by
      intro job stored
      rw [← keyed]
      apply isAbsent
      rw [rows]
      exact List.mem_map_of_mem stored
    rw [leaseCount_append, holds.absent tenantId jobId wasAbsent,
      unnamed tenantId jobId wasAbsent]
  · intro job stored
    rw [rows] at stored
    obtain ⟨old, oldStored, rfl⟩ := List.mem_map.mp stored
    exact (allowed old oldStored).1
  · intro job stored
    rw [rows] at stored
    obtain ⟨old, oldStored, rfl⟩ := List.mem_map.mp stored
    exact (allowed old oldStored).2

/-- A transaction that leases no job and changes one job at most. -/
theorem Counted.one (holds : Counted maxAttempts trace before)
    (noClaim : event.operation.kind ≠ .claim) {selected : JobRow → Bool}
    {change : JobRow → JobRow}
    (rows : after.jobs.rows =
      before.jobs.rows.map (Table.applyWhere selected change))
    (keeps : ∀ job, (change job).tenantId = job.tenantId ∧
      (change job).jobId = job.jobId ∧ (change job).attempts = job.attempts)
    (ends : ∀ job ∈ before.jobs.rows, selected job = true →
      maxAttempts ≤ job.attempts → OutOrFinished (change job)) :
    Counted maxAttempts (trace ++ [event]) after := by
  have kept (job : JobRow) :
      (Table.applyWhere selected change job).tenantId = job.tenantId ∧
        (Table.applyWhere selected change job).jobId = job.jobId ∧
        (Table.applyWhere selected change job).attempts = job.attempts := by
    unfold Table.applyWhere
    split
    · exact keeps job
    · exact ⟨rfl, rfl, rfl⟩
  have none (tenantId jobId : String) :
      leaseCount tenantId jobId [event] = 0 :=
    leaseCount_of_none (claimant_eq_none noClaim tenantId jobId)
  apply holds.map rows (fun job => ⟨(kept job).1, (kept job).2.1⟩)
  · intro job _
    rw [none, (kept job).2.2, Nat.add_zero]
  · exact fun tenantId jobId _ => none tenantId jobId
  · intro job stored
    rw [(kept job).2.2]
    refine ⟨holds.bounded job stored, fun isSpent => ?_⟩
    cases isSelected : selected job with
    | false =>
        rw [Table.applyWhere_unselected isSelected]
        exact holds.spent job stored isSpent
    | true =>
        rw [Table.applyWhere_selected isSelected]
        exact ends job stored isSelected isSpent

/-- Jobs that are queued are new, and have not been leased. -/
theorem Counted.queue (holds : Counted maxAttempts trace before)
    (positive : 1 ≤ maxAttempts) (noClaim : event.operation.kind ≠ .claim)
    {added : List JobRow}
    (rows : after.jobs.rows = before.jobs.rows ++ added)
    (queued : ∀ job ∈ added, Queued job) :
    Counted maxAttempts (trace ++ [event]) after := by
  have count (tenantId jobId : String) :
      leaseCount tenantId jobId (trace ++ [event]) =
        leaseCount tenantId jobId trace := by
    rw [leaseCount_append,
      leaseCount_of_none (claimant_eq_none noClaim tenantId jobId),
      Nat.add_zero]
  have fresh : ∀ job ∈ added, job.attempts = 0 := by
    intro job isAdded
    obtain ⟨_, _, _, _, rfl⟩ := queued job isAdded
    rfl
  have unknown : ∀ job ∈ added, ∀ old ∈ before.jobs.rows,
      old.hasKey job.tenantId job.jobId = false := by
    intro job isAdded old stored
    have unique := after.jobs.unique
    rw [rows] at unique
    have noClash := (List.pairwise_append.mp unique).2.2 old stored job isAdded
    exact (Bool.or_eq_false_iff.mp noClash).1
  refine ⟨?_, fun tenantId jobId isAbsent => ?_, ?_, ?_⟩
  · intro job stored
    rw [count]
    rw [rows] at stored
    rcases List.mem_append.mp stored with old | isAdded
    · exact holds.counts job old
    · rw [holds.absent _ _ (unknown job isAdded), fresh job isAdded]
  · rw [count]
    apply holds.absent
    intro job stored
    apply isAbsent
    rw [rows]
    exact List.mem_append_left _ stored
  · intro job stored
    rw [rows] at stored
    rcases List.mem_append.mp stored with old | isAdded
    · exact holds.bounded job old
    · rw [fresh job isAdded]
      exact Int.le_trans (by decide) positive
  · intro job stored isSpent
    rw [rows] at stored
    rcases List.mem_append.mp stored with old | isAdded
    · exact holds.spent job old isSpent
    · rw [fresh job isAdded] at isSpent
      have contrary := Int.le_trans positive isSpent
      exact absurd contrary (by decide)

/-- Leasing counts an attempt of every claimed job, none of them the last. -/
theorem Counted.claim (holds : Counted maxAttempts trace before)
    {tenantId workerId : String} {expires now : Timestamp}
    {jobIds : List String} {limit leaseSeconds : Int}
    (operationIs : event.operation =
      .lease tenantId workerId limit now leaseSeconds)
    (replyIs : event.outcome = .ok (.leased (readLeases tenantId jobIds after)))
    (change : Claimed tenantId workerId expires now jobIds before after)
    (held : lastAttemptsHeld maxAttempts before event = true) :
    Counted maxAttempts (trace ++ [event]) after := by
  have keeps (job : JobRow) : (Table.applyWhere (claimed tenantId jobIds)
        (·.leaseTo workerId expires now) job).tenantId = job.tenantId ∧
      (Table.applyWhere (claimed tenantId jobIds)
        (·.leaseTo workerId expires now) job).jobId = job.jobId := by
    unfold Table.applyWhere
    split
    · exact ⟨rfl, rfl⟩
    · exact ⟨rfl, rfl⟩
  have claimant (otherTenant jobId : String) :
      event.claimant otherTenant jobId =
        if (readLeases tenantId jobIds after).any fun lease =>
            lease.tenantId = otherTenant ∧ lease.jobId = jobId then
          some workerId
        else none := by
    unfold Event.claimant
    rw [operationIs, replyIs]
  apply holds.map change.jobs keeps
  · intro job stored
    have named := readLeases_any change stored
    unfold leaseCount
    rw [List.countP_singleton, claimant]
    cases isClaimed : claimed tenantId jobIds job with
    | true =>
        rw [Table.applyWhere_selected isClaimed, if_pos (named.mpr isClaimed)]
        rfl
    | false =>
        have unnamed := mt named.mp (Bool.eq_false_iff.mp isClaimed)
        rw [Table.applyWhere_unselected isClaimed, if_neg unnamed]
        rfl
  · intro otherTenant jobId isAbsent
    apply leaseCount_of_none
    rw [claimant, if_neg]
    intro isNamed
    obtain ⟨lease, member, same⟩ := List.any_eq_true.mp isNamed
    obtain ⟨row, stored, -, tenant, identifier, -⟩ := mem_readLeases member
    obtain ⟨leaseTenant, leaseJob⟩ := of_decide_eq_true same
    rw [change.jobs] at stored
    obtain ⟨old, oldStored, rfl⟩ := List.mem_map.mp stored
    have keyed : old.hasKey otherTenant jobId = true := by
      apply jobHasKey_iff.mpr
      rw [← (keeps old).1, ← (keeps old).2, ← tenant, ← identifier]
      exact ⟨leaseTenant, leaseJob⟩
    rw [isAbsent old oldStored] at keyed
    cases keyed
  · intro job stored
    cases isClaimed : claimed tenantId jobIds job with
    | false =>
        rw [Table.applyWhere_unselected isClaimed]
        exact ⟨holds.bounded job stored, holds.spent job stored⟩
    | true =>
        rw [Table.applyWhere_selected isClaimed]
        have ready := change.ready job stored isClaimed
        refine ⟨?_, fun _ => .inl rfl⟩
        change ((job.attempts + 1 : Nat) : Int) ≤ maxAttempts
        suffices notSpent : ¬ maxAttempts ≤ job.attempts by omega
        -- a job without attempts left is out and held, or finished
        intro isSpent
        rcases holds.spent job stored isSpent with isOut | isFinal
        · have tenant := (of_decide_eq_true isClaimed).1
          unfold lastAttemptsHeld at held
          rw [operationIs] at held
          have isHeld := List.all_eq_true.mp held job stored
          exact of_decide_eq_true isHeld ⟨tenant, isOut, isSpent, ready⟩
        · rw [not_finished_of_ready ready] at isFinal
          cases isFinal

/-- A failure report of the last attempt ends the job. -/
theorem failJob_ended {tenantId jobId workerId : String} {now : Timestamp}
    {error : String} {retryDelaySeconds : Int} {transition : JobTransition}
    (ran : failJob tenantId jobId workerId now error maxAttempts
      retryDelaySeconds before = .ok (transition, after)) :
    after = before ∨ ∃ job recorded, Ended workerId job
      (failedEnd job.attempts now recorded maxAttempts retryDelaySeconds) now
        before after := by
  unfold failJob at ran
  obtain ⟨_, first, checkedAttempts, afterAttempts⟩ :=
    Transaction.run_bind_ok.mp ran
  obtain ⟨_, second, checkedDelay, moved⟩ :=
    Transaction.run_bind_ok.mp afterAttempts
  have isFirst := (Transaction.run_require_ok.mp checkedAttempts).2
  have isSecond := (Transaction.run_require_ok.mp checkedDelay).2
  rw [isSecond, isFirst] at moved
  rcases transitionOwnedJob_ok moved with same | ⟨job, -, ended⟩
  · exact .inl same
  · exact .inr ⟨job, _, ended⟩

theorem Counted.same (holds : Counted maxAttempts trace before)
    (none : ∀ tenantId jobId, event.claimant tenantId jobId = none)
    (rows : after.jobs.rows = before.jobs.rows) :
    Counted maxAttempts (trace ++ [event]) after := by
  have isMap : after.jobs.rows = before.jobs.rows.map id := by
    rw [rows, List.map_id]
  apply holds.map isMap fun _ => ⟨rfl, rfl⟩
  · intro job _
    rw [leaseCount_of_none (none _ _)]
    rfl
  · exact fun tenantId jobId _ => leaseCount_of_none (none _ _)
  · exact fun job stored =>
      ⟨holds.bounded job stored, holds.spent job stored⟩

theorem counted_step {F : Type} {service : Service Log}
    {detector : Detector F} {settings : WorkerSettings}
    (holds : Counted settings.workerMaxAttempts trace before)
    (held : lastAttemptsHeld settings.workerMaxAttempts before event = true)
    (permitted : Permitted detector settings event.operation)
    (step : (system service).step before event after) :
    Counted settings.workerMaxAttempts (trace ++ [event]) after := by
  rcases step_cases service step with
    ⟨failure, refused, same⟩ | ⟨reply, accepted, ran⟩
  · apply holds.same _ (by rw [same])
    intro tenantId jobId
    simp [Event.claimant, refused]
  have change := change_of_ok ran
  have unclaimed (kind : event.operation.kind ≠ .claim)
      (tenantId jobId : String) : event.claimant tenantId jobId = none :=
    claimant_eq_none kind tenantId jobId
  cases change with
  | ingested kind change =>
      obtain ⟨added, rows, queued⟩ := change.jobs
      exact holds.queue settings.maxAttemptsPositive (by rw [kind]; exact OperationKind.noConfusion) rows
        queued
  | claimed kind workerIs replyIs change =>
      obtain ⟨limit, leaseSeconds, operationIs⟩ := workerIs
      rw [replyIs] at accepted
      exact holds.claim operationIs accepted change held
  | unchanged kind same =>
      exact holds.same (unclaimed (by rw [kind]; exact OperationKind.noConfusion)) (by rw [same])
  | analysed kind change =>
      obtain ⟨cases, activity, dispositions, log, isAfter⟩ := change.frame
      exact holds.same (unclaimed (by rw [kind]; exact OperationKind.noConfusion)) (by rw [isAfter])
  | completed operationIs change =>
      apply holds.one (by rw [operationIs]; exact OperationKind.noConfusion) change.jobs
        fun _ => ⟨rfl, rfl, rfl⟩
      exact fun _ _ _ _ => .inr rfl
  | ended kind _ _ _ =>
      generalize operationIs : event.operation = operation at *
      cases permitted with
      | other others =>
          rw [kind] at others
          rcases others with contrary | contrary
          · cases contrary
          · cases contrary
      | lease run limit => cases kind
      | persist run jobId alerts => cases kind
      | fail run jobId error delay =>
          obtain ⟨transition, failed, -⟩ := bind_pure_ok ran
          rcases failJob_ended failed with same | ⟨job, recorded, ended⟩
          · apply holds.same _ (by rw [same])
            exact unclaimed OperationKind.noConfusion
          · apply holds.one (by rw [operationIs]; exact OperationKind.noConfusion) ended.jobs
              fun _ => ⟨rfl, rfl, rfl⟩
            intro other stored selected isSpent
            have isJob := job_eq_of_key stored ended.stored selected
            subst isJob
            right
            change isFinished ⟨_, _, _, (failedEnd _ _ _ _ _).status, _, _, _,
              _, _, _, _⟩ = true
            rw [failedEnd, if_pos isSpent]
            rfl

/-! ## Runs -/

theorem counted_initial {database : Database Log} (empty : Empty database) :
    Counted maxAttempts [] database := by
  have noJob : ∀ job, job ∉ database.jobs.rows := by
    intro job stored
    rw [empty.jobs] at stored
    cases stored
  exact ⟨fun job stored => absurd stored (noJob job), fun _ _ _ => rfl,
    fun job stored => absurd stored (noJob job),
    fun job stored => absurd stored (noJob job)⟩

end Steps

def sampleDetector : Detector Int where
  pipeline := ⟨Detection.sampleLibrary, fun _ => .ok []⟩
  modelValidateJson _ := sampleEvent
  julianOffset := 500
  decision := sampleDecision

theorem oneAttempt_positive : (1 : Int) ≤ 1 := by
  decide

theorem oneAttempt_bounded : (1 : Int) ≤ 100 := by
  decide

/-- One attempt, for a minute. -/
def oneAttempt : WorkerSettings :=
  ⟨60, 1, 30, oneAttempt_positive, oneAttempt_bounded⟩

abbrev sampleWorkers :
    Procedure (Database Unit) Client (Option String) (Option Event) :=
  workers sampleService sampleDetector oneAttempt

def samplePool : Pool (Database Unit) Client :=
  ⟨sampleStart, fun _ => .idle⟩

theorem samplePool_initial : (sampleWorkers.system Empty).initial samplePool :=
  ⟨sampleStart_initial, fun _ => rfl⟩

/-- An event is ingested, and a worker leases its job. -/
def leaseOnce : List (Procedure.Command Client (Option String)) :=
  [.begin 0 (.call (.ingest "acme" [sampleEvent] (seconds 2))), .resume 0 none,
    .begin 1 (.leasing ⟨"acme", "worker-1", seconds 3⟩ 25), .resume 1 none]

/-- The first worker stops, and another one leases the job again. -/
def leaseTwice : List (Procedure.Command Client (Option String)) :=
  leaseOnce ++
    [.begin 2 (.leasing ⟨"acme", "worker-2", seconds 63⟩ 25), .resume 2 none]

end Processing

end ControlForge
