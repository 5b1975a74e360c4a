import ControlForge.Processing.Changes

/-!
# Claims and ends of leases

The transactions of the workers on the queue, and with them what any
transaction of the system that commits has changed.
-/

namespace ControlForge

namespace Processing

open Store Cases

/-! ## Claims -/

section Programs

variable {Log : Type} {before after : Database Log}

theorem job_eq_of_key {job other : JobRow} (stored : job ∈ before.jobs.rows)
    (otherStored : other ∈ before.jobs.rows)
    (same : job.hasKey other.tenantId other.jobId = true) : job = other := by
  obtain ⟨tenant, identifier⟩ := of_decide_eq_true same
  apply before.jobs.eq_of_clash stored otherStored
  · simp [JobRow.clash, JobRow.hasKey, tenant, identifier]
  · simp [JobRow.clash, JobRow.hasKey, tenant, identifier]

/-- The jobs of a tenant with the listed identifiers. -/
def claimed (tenantId : String) (jobIds : List String) (job : JobRow) : Bool :=
  job.tenantId = tenantId ∧ job.jobId ∈ jobIds

theorem applyWhere_claimed {tenantId first : String} {rest : List String}
    (distinct : (first :: rest).Nodup) {change : JobRow → JobRow}
    (keepsKey : ∀ job, (change job).tenantId = job.tenantId ∧
      (change job).jobId = job.jobId) (job : JobRow) :
    Table.applyWhere (claimed tenantId rest) change
        (Table.applyWhere (·.hasKey tenantId first) change job) =
      Table.applyWhere (claimed tenantId (first :: rest)) change job := by
  have notInRest := (List.nodup_cons.mp distinct).1
  by_cases isFirst : job.hasKey tenantId first = true
  · obtain ⟨tenant, identifier⟩ := of_decide_eq_true isFirst
    have unclaimed : claimed tenantId rest (change job) = false := by
      simp [claimed, (keepsKey job).2, identifier, notInRest]
    have isClaimed : claimed tenantId (first :: rest) job = true := by
      simp [claimed, tenant, identifier]
    rw [Table.applyWhere_selected isFirst,
      Table.applyWhere_unselected unclaimed,
      Table.applyWhere_selected isClaimed]
  · rw [Bool.not_eq_true] at isFirst
    have sameClaim : claimed tenantId (first :: rest) job =
        claimed tenantId rest job := by
      have differs : ¬ (job.tenantId = tenantId ∧ job.jobId = first) :=
        of_decide_eq_false isFirst
      unfold claimed
      rw [decide_eq_decide]
      constructor
      · rintro ⟨tenant, member⟩
        rcases List.mem_cons.mp member with same | later
        · exact absurd ⟨tenant, same⟩ differs
        · exact ⟨tenant, later⟩
      · rintro ⟨tenant, member⟩
        exact ⟨tenant, List.mem_cons_of_mem _ member⟩
    rw [Table.applyWhere_unselected isFirst]
    simp only [Table.applyWhere, sameClaim]

/-- The loop that claims the jobs one by one. -/
theorem claimEach_ok {tenantId : String} {jobIds : List String}
    (distinct : jobIds.Nodup) {change : JobRow → JobRow}
    (keepsKey : ∀ job, (change job).tenantId = job.tenantId ∧
      (change job).jobId = job.jobId) {result : PUnit}
    (ran : (jobIds.forM fun jobId => do
      let _ ← updateJobs (·.hasKey tenantId jobId) change :
        Program Log PUnit) before = .ok (result, after)) :
    ∃ jobs, after = { before with jobs } ∧
      jobs.rows =
        before.jobs.rows.map (Table.applyWhere (claimed tenantId jobIds)
          change) := by
  induction jobIds generalizing before with
  | nil =>
      cases ran
      refine ⟨after.jobs, rfl, ?_⟩
      have same : Table.applyWhere (claimed tenantId []) change = id := by
        funext job
        simp [Table.applyWhere, claimed]
      rw [same, List.map_id]
  | cons first rest induction =>
      obtain ⟨_, middle, updated, continued⟩ := Transaction.run_bind_ok.mp ran
      obtain ⟨count, last, ranFirst, returned⟩ :=
        Transaction.run_bind_ok.mp updated
      cases returned
      obtain ⟨firstJobs, rfl, firstRows⟩ := updateJobs_ok ranFirst
      obtain ⟨jobs, afterEq, rows⟩ :=
        induction (List.nodup_cons.mp distinct).2 continued
      refine ⟨jobs, afterEq, ?_⟩
      rw [rows]
      simp only
      rw [firstRows, List.map_map]
      apply List.map_congr_left
      intro job _
      exact applyWhere_claimed distinct keepsKey job

theorem mem_readyJobIds {tenantId jobId : String} {now : Timestamp}
    {limit : Nat} (member : jobId ∈ readyJobIds before tenantId now limit) :
    ∃ job ∈ before.jobs.rows, job.hasKey tenantId jobId = true ∧
      job.ready now = true := by
  obtain ⟨entry, inQueue, same⟩ := List.mem_map.mp member
  have isReady := mem_orderBy.mp (List.mem_of_mem_take inQueue)
  obtain ⟨job, filtered, paired⟩ := List.mem_filterMap.mp isReady
  obtain ⟨stored, selected⟩ := List.mem_filter.mp filtered
  rw [Option.map_eq_some_iff] at paired
  obtain ⟨event, -, rfl⟩ := paired
  rw [Bool.and_eq_true, decide_eq_true_iff] at selected
  refine ⟨job, stored, ?_, selected.2⟩
  exact decide_eq_true ⟨selected.1, same⟩

theorem readyJobIds_nodup (database : Database Log) (tenantId : String)
    (now : Timestamp) (limit : Nat) :
    (readyJobIds database tenantId now limit).Nodup := by
  apply ((List.take_sublist _ _).map _).nodup
  apply (orderBy_perm.map fun entry : JobRow × EventRow =>
    entry.1.jobId).nodup_iff.mpr
  unfold readyEntries
  rw [List.map_filterMap, List.Nodup, List.pairwise_filterMap]
  rw [List.pairwise_filter]
  refine database.jobs.unique.imp fun {left right} noClash leftReady
    rightReady leftId leftFound rightId rightFound same => ?_
  simp only [Option.map_map, Option.map_eq_some_iff, Function.comp_apply]
    at leftFound rightFound
  obtain ⟨_, -, leftSame⟩ := leftFound
  obtain ⟨_, -, rightSame⟩ := rightFound
  rw [Bool.and_eq_true, decide_eq_true_iff] at leftReady rightReady
  have clash : left.clash right = true := by
    simp [JobRow.clash, JobRow.hasKey, leftReady.1, rightReady.1, leftSame,
      rightSame, same]
  rw [clash] at noClash
  cases noClash

/-- What a claim did: every listed job was ready, and is leased. -/
structure Claimed (tenantId workerId : String) (expires now : Timestamp)
    (jobIds : List String) (before after : Database Log) : Prop where
  frame : ∃ jobs, after = { before with jobs }
  jobs : after.jobs.rows = before.jobs.rows.map
    (Table.applyWhere (claimed tenantId jobIds)
      (·.leaseTo workerId expires now))
  ready : ∀ job ∈ before.jobs.rows, claimed tenantId jobIds job = true →
    job.ready now = true

theorem leaseJobs_ok {tenantId workerId : String} {limit : Int}
    {now : Timestamp} {leaseSeconds : Int} {leases : List JobLease}
    (ran : leaseJobs tenantId workerId limit now leaseSeconds before =
      .ok (leases, after)) :
    ∃ jobIds, Claimed tenantId workerId (now + seconds leaseSeconds) now jobIds
        before after ∧
      leases = readLeases tenantId jobIds after := by
  unfold leaseJobs at ran
  obtain ⟨_, first, checkedName, afterName⟩ := Transaction.run_bind_ok.mp ran
  obtain ⟨_, second, checkedLimit, afterLimit⟩ :=
    Transaction.run_bind_ok.mp afterName
  obtain ⟨_, third, checkedSeconds, afterSeconds⟩ :=
    Transaction.run_bind_ok.mp afterLimit
  obtain ⟨read, fourth, got, afterRead⟩ :=
    Transaction.run_bind_ok.mp afterSeconds
  obtain ⟨_, fifth, claims, afterClaims⟩ :=
    Transaction.run_bind_ok.mp afterRead
  obtain ⟨leased, last, gotAgain, returned⟩ :=
    Transaction.run_bind_ok.mp afterClaims
  have isFirst := (Transaction.run_require_ok.mp checkedName).2
  have isSecond := (Transaction.run_require_ok.mp checkedLimit).2
  have isThird := (Transaction.run_require_ok.mp checkedSeconds).2
  have isStart : third = before := isThird.trans (isSecond.trans isFirst)
  cases got
  cases gotAgain
  cases returned
  rw [isStart] at claims ⊢
  have keepsKey (job : JobRow) :
      (job.leaseTo workerId (now + seconds leaseSeconds) now).tenantId =
          job.tenantId ∧
        (job.leaseTo workerId (now + seconds leaseSeconds) now).jobId =
          job.jobId := ⟨rfl, rfl⟩
  obtain ⟨jobs, afterEq, rows⟩ := claimEach_ok
    (readyJobIds_nodup before tenantId now limit.toNat) keepsKey claims
  refine ⟨_, ⟨⟨jobs, afterEq⟩, ?_, ?_⟩, rfl⟩
  · rw [afterEq]
    exact rows
  · intro job stored isClaimed
    obtain ⟨tenant, member⟩ := of_decide_eq_true isClaimed
    obtain ⟨other, otherStored, keyed, ready⟩ := mem_readyJobIds member
    obtain ⟨otherTenant, otherId⟩ := of_decide_eq_true keyed
    have same : job = other := by
      apply job_eq_of_key stored otherStored
      simp [JobRow.hasKey, tenant, otherTenant, otherId]
    rw [same]
    exact ready

/-! ## Owned transitions -/

/-- The end of the lease of a job by its owner. -/
structure Ended (workerId : String) (job : JobRow) (result : LeaseEnd)
    (now : Timestamp) (before after : Database Log) : Prop where
  stored : job ∈ before.jobs.rows
  owned : job.ownedBy workerId = true
  frame : ∃ jobs, after = { before with jobs }
  jobs : after.jobs.rows = before.jobs.rows.map
    (Table.applyWhere (·.hasKey job.tenantId job.jobId)
      (·.endLease result now))

theorem transitionOwnedJob_ok {tenantId jobId workerId : String}
    {now : Timestamp} {result : JobRow → LeaseEnd}
    {transition : JobTransition}
    (ran : transitionOwnedJob tenantId jobId workerId now result before =
      .ok (transition, after)) :
    after = before ∨
      ∃ job, job.hasKey tenantId jobId = true ∧
        Ended workerId job (result job) now before after := by
  unfold transitionOwnedJob at ran
  obtain ⟨read, atRead, got, found⟩ := Transaction.run_bind_ok.mp ran
  cases got
  cases isFound : before.jobs.rows.find? (·.hasKey tenantId jobId) with
  | none =>
      rw [isFound] at found
      cases found
      exact .inl rfl
  | some job =>
      rw [isFound] at found
      dsimp only at found
      split at found
      · next owned =>
          have stored := List.mem_of_find?_eq_some isFound
          have keyed := List.find?_some isFound
          obtain ⟨tenant, identifier⟩ := jobHasKey_iff.mp keyed
          obtain ⟨_, last, updated, returned⟩ :=
            Transaction.run_bind_ok.mp found
          cases returned
          obtain ⟨jobs, afterEq, rows⟩ := updateJobs_ok updated
          refine .inr ⟨job, keyed, stored, owned, ⟨jobs, afterEq⟩, ?_⟩
          rw [afterEq, tenant, identifier]
          exact rows
      · cases found
        exact .inl rfl

theorem failedEnd_not_leased (attempts : Nat) (now : Timestamp)
    (error : String) (maxAttempts retryDelaySeconds : Int) :
    (failedEnd attempts now error maxAttempts retryDelaySeconds).status ≠
      .leased := by
  unfold failedEnd
  split <;> simp

theorem failJob_ok {tenantId jobId workerId : String} {now : Timestamp}
    {error : String} {maxAttempts retryDelaySeconds : Int}
    {transition : JobTransition}
    (ran : failJob tenantId jobId workerId now error maxAttempts
      retryDelaySeconds before = .ok (transition, after)) :
    ∃ result : JobRow → LeaseEnd, (∀ job, (result job).status ≠ .leased) ∧
      transitionOwnedJob tenantId jobId workerId now result before =
        .ok (transition, after) := by
  unfold failJob at ran
  obtain ⟨_, first, checkedAttempts, afterAttempts⟩ :=
    Transaction.run_bind_ok.mp ran
  obtain ⟨_, second, checkedDelay, moved⟩ :=
    Transaction.run_bind_ok.mp afterAttempts
  have isFirst := (Transaction.run_require_ok.mp checkedAttempts).2
  have isSecond := (Transaction.run_require_ok.mp checkedDelay).2
  rw [isSecond, isFirst] at moved
  exact ⟨_, fun _ => failedEnd_not_leased _ _ _ _ _, moved⟩

/-! ## Any transaction -/

/-- What an operation that commits has changed. -/
inductive Change (library : Library) (before after : Database Log)
    (operation : Operation) (reply : Reply) : Prop
  | ingested (kind : operation.kind = .ingestion)
      (change : Ingested before after)
  | claimed {tenantId workerId : String} {expires now : Timestamp}
      {jobIds : List String} (kind : operation.kind = .claim)
      (workerIs : ∃ limit leaseSeconds,
        operation = .lease tenantId workerId limit now leaseSeconds)
      (replyIs : reply = .leased (readLeases tenantId jobIds after))
      (change : Claimed tenantId workerId expires now jobIds before after)
  | unchanged (kind : operation.kind = .finish) (same : after = before)
  | ended {workerId : String} {job : JobRow} {result : LeaseEnd}
      {now : Timestamp} (kind : operation.kind = .finish)
      (report : operation.report? = some (job.tenantId, job.jobId, workerId))
      (notLeased : result.status ≠ .leased)
      (change : Ended workerId job result now before after)
  | completed {decision : Decision} {workerId : String} {now : Timestamp}
      {job : JobRow} {event : EventRow} {alerts : List DetectionAlert}
      (operationIs : operation =
        .persist job.tenantId job.jobId workerId alerts now decision)
      (change : Completed library decision workerId now alerts job event before
        after)
  | analysed {row : CaseRow} {caseChange : CaseRow → CaseRow}
      {recorded : List DispositionRow} (kind : operation.kind = .analysis)
      (change : Analysed row caseChange recorded before after)

theorem change_of_ok {service : Service Log} {operation : Operation}
    {reply : Reply}
    (ran : program service operation before = .ok (reply, after)) :
    Change service.library before after operation reply := by
  cases operation with
  | ingest tenantId events receivedAt =>
      obtain ⟨results, ingested, -⟩ := bind_pure_ok ran
      exact .ingested rfl (ingestEvents_follows service.library tenantId
        events receivedAt _ _ _ ingested)
  | ingestOne tenantId event receivedAt =>
      obtain ⟨result, ingested, -⟩ := bind_pure_ok ran
      exact .ingested rfl (ingestOnConnection_follows service.library tenantId
        receivedAt event _ _ _ ingested)
  | lease tenantId workerId limit now leaseSeconds =>
      obtain ⟨leases, leased, isReply⟩ := bind_pure_ok ran
      obtain ⟨jobIds, change, isRead⟩ := leaseJobs_ok leased
      rw [isRead] at isReply
      exact .claimed rfl ⟨limit, leaseSeconds, rfl⟩ isReply change
  | persist tenantId jobId workerId alerts now decision =>
      obtain ⟨result, persisted, -⟩ := bind_pure_ok ran
      obtain ⟨job, event, keyed, change⟩ :=
        persistAlertsAndCompleteJob_ok persisted
      obtain ⟨rfl, rfl⟩ := jobHasKey_iff.mp keyed
      exact .completed rfl change
  | complete tenantId jobId workerId now =>
      obtain ⟨transition, moved, -⟩ := bind_pure_ok ran
      rcases transitionOwnedJob_ok moved with same | ⟨job, keyed, change⟩
      · exact .unchanged rfl same
      · obtain ⟨rfl, rfl⟩ := jobHasKey_iff.mp keyed
        exact .ended rfl rfl JobStatus.noConfusion change
  | fail tenantId jobId workerId now error maxAttempts retryDelaySeconds =>
      obtain ⟨transition, failed, -⟩ := bind_pure_ok ran
      obtain ⟨result, notLeased, moved⟩ := failJob_ok failed
      rcases transitionOwnedJob_ok moved with same | ⟨job, keyed, change⟩
      · exact .unchanged rfl same
      · obtain ⟨rfl, rfl⟩ := jobHasKey_iff.mp keyed
        exact .ended rfl rfl (notLeased job) change
  | addNote principal activityId caseId note now =>
      obtain ⟨result, noted, -⟩ := bind_pure_ok ran
      obtain ⟨row, caseChange, recorded, change⟩ := addNote_ok noted
      exact .analysed rfl change
  | assign principal activityId caseId assigneeUserId now =>
      obtain ⟨result, assigned, -⟩ := bind_pure_ok ran
      obtain ⟨row, caseChange, recorded, change⟩ := assign_ok assigned
      exact .analysed rfl change
  | transition principal activityId caseId target now =>
      obtain ⟨result, moved, -⟩ := bind_pure_ok ran
      obtain ⟨row, status, -, -, -, change⟩ := transition_ok moved
      exact .analysed rfl change
  | recordDisposition principal dispositionId activityId caseId status
      rationale falsePositiveReason now =>
      obtain ⟨disposition, disposed, -⟩ := bind_pure_ok ran
      obtain ⟨row, caseChange, recorded, change⟩ :=
        recordDisposition_ok disposed
      exact .analysed rfl change

/-- A step raises and changes nothing, or changes what its operation may. -/
theorem change_of_step {service : Service Log} {event : Event}
    (step : (system service).step before event after) :
    (∃ failure, event.outcome = .error failure ∧ after = before) ∨
      ∃ reply, event.outcome = .ok reply ∧
        Change service.library before after event.operation reply := by
  rcases step_cases service step with refused | ⟨reply, accepted, ran⟩
  · exact .inl refused
  · exact .inr ⟨reply, accepted, change_of_ok ran⟩

end Programs

end Processing

end ControlForge
