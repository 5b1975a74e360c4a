import ControlForge.Processing.Claims

/-!
# Leases of detection jobs

Every change of a job is a claim of a ready job, the success of an owned and
unexpired lease, or the end of an owned lease; ready and owned jobs are never
finished.  From this follow the shape of the leases, the permanence of
finished jobs, and that nobody but the present owner can end a lease.
-/

namespace ControlForge

namespace Processing

open Store Cases

/-! ## How jobs change -/

inductive JobChange : JobRow → JobRow → Prop
  | claim {job : JobRow} (workerId : String) (expires now : Timestamp)
      (ready : job.ready now = true) :
      JobChange job (job.leaseTo workerId expires now)
  | succeed {job : JobRow} (workerId : String) (now : Timestamp)
      (owned : job.ownedUntil workerId now = true) :
      JobChange job (job.succeed now)
  | finish {job : JobRow} (workerId : String) (result : LeaseEnd)
      (now : Timestamp) (owned : job.ownedBy workerId = true)
      (ended : result.status ≠ .leased) :
      JobChange job (job.endLease result now)

/-- A job as it is queued. -/
def Queued (job : JobRow) : Prop :=
  ∃ library tenantId eventId receivedAt,
    job = pendingJob library tenantId eventId receivedAt

def JobsEvolve : List JobRow → List JobRow → Prop :=
  Evolves Queued JobChange

instance : Std.Refl JobsEvolve where
  refl rows := Evolves.refl rows

instance : IsTrans (List JobRow) JobsEvolve where
  trans _ _ _ first second := Evolves.trans first second

/-- The lease columns are set exactly while the job is leased. -/
def LeaseShape (job : JobRow) : Prop :=
  match job.status with
  | .leased => job.leaseOwner.isSome ∧ job.leaseExpiresAt.isSome
  | _ => job.leaseOwner = none ∧ job.leaseExpiresAt = none

def isFinished (job : JobRow) : Bool :=
  job.status = .succeeded ∨ job.status = .dead

theorem leaseShape_queued {job : JobRow} (queued : Queued job) :
    LeaseShape job := by
  obtain ⟨library, tenantId, eventId, receivedAt, rfl⟩ := queued
  exact ⟨rfl, rfl⟩

theorem leaseShape_change {old new : JobRow} (change : JobChange old new) :
    LeaseShape new := by
  cases change with
  | claim => exact ⟨rfl, rfl⟩
  | succeed => exact ⟨rfl, rfl⟩
  | finish workerId result now owned ended =>
      cases status : result.status with
      | leased => exact absurd status ended
      | pending | retry | succeeded | dead =>
          simp [LeaseShape, JobRow.endLease, status]

theorem not_finished_of_ready {job : JobRow} {now : Timestamp}
    (ready : job.ready now = true) : isFinished job = false := by
  unfold JobRow.ready at ready
  unfold isFinished
  cases status : job.status <;> simp_all

theorem not_finished_of_owned {job : JobRow} {workerId : String}
    (owned : job.ownedBy workerId = true) : isFinished job = false := by
  have leased := (of_decide_eq_true owned).1
  simp [isFinished, leased]

theorem owned_of_ownedUntil {job : JobRow} {workerId : String}
    {now : Timestamp} (owned : job.ownedUntil workerId now = true) :
    job.ownedBy workerId = true :=
  (Bool.and_eq_true _ _ ▸ owned : _ ∧ _).1

/-- A finished job does not change. -/
theorem not_finished_of_change {old new : JobRow}
    (change : JobChange old new) : isFinished old = false := by
  cases change with
  | claim workerId expires now ready => exact not_finished_of_ready ready
  | succeed workerId now owned =>
      exact not_finished_of_owned (owned_of_ownedUntil owned)
  | finish workerId result now owned => exact not_finished_of_owned owned

theorem finished_unchanged {old new : JobRow}
    (changes : Relation.ReflTransGen JobChange old new)
    (finished : isFinished old = true) : new = old := by
  induction changes with
  | refl => rfl
  | tail _ change induction =>
      rw [induction] at change
      rw [not_finished_of_change change] at finished
      cases finished

/-- Finished jobs stay in the table as they are. -/
theorem JobsEvolve.keeps_finished {before after : List JobRow}
    (evolves : JobsEvolve before after) {job : JobRow}
    (stored : job ∈ before) (finished : isFinished job = true) :
    job ∈ after := by
  obtain ⟨next, member, changes⟩ := Evolves.descendant evolves stored
  rw [finished_unchanged changes finished] at member
  exact member

theorem JobsEvolve.keeps_shape {before after : List JobRow}
    (evolves : JobsEvolve before after)
    (shaped : ∀ job ∈ before, LeaseShape job) :
    ∀ job ∈ after, LeaseShape job := by
  refine Evolves.forall_mem ?_ ?_ evolves shaped
  · exact fun job queued => leaseShape_queued queued
  · exact fun old new _ change => leaseShape_change change

/-! ## One step -/

section Steps

variable {Log : Type} {before after : Database Log} {library : Library}
  {operation : Operation} {reply : Reply}

/-- An update of one job by its key changes only that job. -/
theorem evolve_one {job : JobRow} (stored : job ∈ before.jobs.rows)
    {change : JobRow → JobRow} (changed : JobChange job (change job)) :
    JobsEvolve before.jobs.rows (before.jobs.rows.map
      (Table.applyWhere (·.hasKey job.tenantId job.jobId) change)) := by
  apply Evolves.update
  intro other otherStored
  by_cases keyed : other.hasKey job.tenantId job.jobId = true
  · have same := job_eq_of_key otherStored stored keyed
    rw [Table.applyWhere_selected keyed, same]
    exact .inr changed
  · rw [Bool.not_eq_true] at keyed
    exact .inl (Table.applyWhere_unselected keyed)

theorem jobs_evolve (change : Change library before after operation reply) :
    JobsEvolve before.jobs.rows after.jobs.rows := by
  cases change with
  | ingested _ change =>
      obtain ⟨added, rows, queued⟩ := change.jobs
      rw [rows]
      exact Evolves.append queued
  | @claimed tenantId workerId expires now jobIds _ _ _ change =>
      rw [change.jobs]
      apply Evolves.update
      intro job stored
      by_cases isClaimed : claimed tenantId jobIds job = true
      · rw [Table.applyWhere_selected isClaimed]
        exact .inr (.claim workerId expires now
          (change.ready job stored isClaimed))
      · rw [Bool.not_eq_true] at isClaimed
        exact .inl (Table.applyWhere_unselected isClaimed)
  | unchanged _ same =>
      rw [same]
      exact Std.Refl.refl _
  | ended _ _ notLeased change =>
      rw [change.jobs]
      exact evolve_one change.stored (.finish _ _ _ change.owned notLeased)
  | completed _ change =>
      rw [change.jobs]
      exact evolve_one change.stored (.succeed _ _ change.owned)
  | analysed _ change =>
      obtain ⟨cases, activity, dispositions, log, isAfter⟩ := change.frame
      rw [isAfter]
      exact Std.Refl.refl _

/-- The completion of a job by the worker that holds its current lease. -/
structure CompletedByOwner (tenantId jobId workerId : String)
    (now : Timestamp) (before after : Database Log) : Prop where
  owned : ∃ job ∈ before.jobs.rows,
    job.tenantId = tenantId ∧ job.jobId = jobId ∧ job.status = .leased ∧
      job.leaseOwner = some workerId ∧
      (∃ expires, job.leaseExpiresAt = some expires ∧ now < expires) ∧
      ∀ alert ∈ after.alerts.rows, alert ∉ before.alerts.rows →
        alert.tenantId = tenantId ∧ alert.eventId = job.eventId
  succeeded : ∃ job ∈ after.jobs.rows,
    job.tenantId = tenantId ∧ job.jobId = jobId ∧ job.status = .succeeded

theorem ownedBy_iff {job : JobRow} {workerId : String} :
    job.ownedBy workerId = true ↔
      job.status = .leased ∧ job.leaseOwner = some workerId := by
  simp [JobRow.ownedBy]

theorem ownedUntil_iff {job : JobRow} {workerId : String} {now : Timestamp} :
    job.ownedUntil workerId now = true ↔
      job.ownedBy workerId = true ∧
        ∃ expires, job.leaseExpiresAt = some expires ∧ now < expires := by
  unfold JobRow.ownedUntil
  rw [Bool.and_eq_true, Option.any_eq_true]
  simp

theorem AlertsStored.alertsOfEvent {decision : Decision} {event : EventRow}
    {now : Timestamp} {alerts : List DetectionAlert}
    (stored : AlertsStored library decision event now alerts before after)
    {alert : AlertRow} (member : alert ∈ after.alerts.rows)
    (isNew : alert ∉ before.alerts.rows) :
    alert.tenantId = event.tenantId ∧ alert.eventId = event.eventId := by
  induction stored with
  | refl => exact absurd member isNew
  | tail _ step induction =>
      obtain ⟨source, -, step⟩ := step
      rw [step.alerts] at member
      rcases List.mem_append.mp member with old | added
      · exact induction old
      · rw [List.mem_singleton.mp added]
        exact ⟨rfl, rfl⟩

theorem completedByOwner {decision : Decision} {workerId : String}
    {now : Timestamp} {alerts : List DetectionAlert} {job : JobRow}
    {event : EventRow}
    (change : Completed library decision workerId now alerts job event before
      after) :
    CompletedByOwner job.tenantId job.jobId workerId now before after := by
  obtain ⟨middle, jobs, work, isAfter⟩ := change.work
  obtain ⟨owned, current⟩ := ownedUntil_iff.mp change.owned
  obtain ⟨leased, owner⟩ := ownedBy_iff.mp owned
  have ofJob : event.tenantId = job.tenantId ∧ event.eventId = job.eventId :=
    of_decide_eq_true change.ofJob
  constructor
  · refine ⟨job, change.stored, rfl, rfl, leased, owner, current, ?_⟩
    intro alert member isNew
    rw [isAfter] at member
    have source := work.alertsOfEvent member isNew
    exact ⟨source.1.trans ofJob.1, source.2.trans ofJob.2⟩
  · refine ⟨job.succeed now, ?_, rfl, rfl, rfl⟩
    have keyed : job.hasKey job.tenantId job.jobId = true :=
      jobHasKey_iff.mpr ⟨rfl, rfl⟩
    rw [change.jobs]
    exact List.mem_map.mpr ⟨job, change.stored,
      Table.applyWhere_selected keyed⟩

/-- Alerts and links change only with a completion, and cases only with one or
by an analyst. -/
theorem alerts_kept (change : Change library before after operation reply) :
    (after.alerts = before.alerts ∧ after.caseAlerts = before.caseAlerts ∧
      (after.cases = before.cases ∨ operation.kind = .analysis)) ∨
    ∃ tenantId jobId workerId alerts now decision,
      operation = .persist tenantId jobId workerId alerts now decision ∧
        CompletedByOwner tenantId jobId workerId now before after := by
  cases change with
  | ingested _ change =>
      obtain ⟨events, jobs, isAfter⟩ := change.frame
      rw [isAfter]
      exact .inl ⟨rfl, rfl, .inl rfl⟩
  | claimed _ _ _ change =>
      obtain ⟨jobs, isAfter⟩ := change.frame
      rw [isAfter]
      exact .inl ⟨rfl, rfl, .inl rfl⟩
  | unchanged _ same =>
      rw [same]
      exact .inl ⟨rfl, rfl, .inl rfl⟩
  | ended _ _ _ change =>
      obtain ⟨jobs, isAfter⟩ := change.frame
      rw [isAfter]
      exact .inl ⟨rfl, rfl, .inl rfl⟩
  | completed operationIs change =>
      exact .inr ⟨_, _, _, _, _, _, operationIs, completedByOwner change⟩
  | analysed kind change =>
      obtain ⟨cases, activity, dispositions, log, isAfter⟩ := change.frame
      rw [isAfter]
      exact .inl ⟨rfl, rfl, .inr kind⟩

end Steps

/-! ## Histories -/

/-- The worker to which an event leased a job. -/
def Event.claimant (tenantId jobId : String) (event : Event) :
    Option String :=
  match event.operation, event.outcome with
  | .lease _ workerId _ _ _, .ok (.leased leases) =>
      if leases.any fun lease =>
          lease.tenantId = tenantId ∧ lease.jobId = jobId then
        some workerId
      else none
  | _, _ => none

/-- The worker that leased a job last. -/
def lastClaimant (tenantId jobId : String) : List Event → Option String :=
  List.foldl (fun last event => (event.claimant tenantId jobId).or last) none

/-- The event completed a job with its alerts. -/
def Event.completes (tenantId jobId : String) (event : Event) : Bool :=
  match event.operation, event.outcome with
  | .persist eventTenant eventJob _ _ _ _, .ok _ =>
      eventTenant = tenantId ∧ eventJob = jobId
  | _, _ => false

section Histories

variable {Log : Type} {before after : Database Log} {library : Library}
  {operation : Operation} {reply : Reply}

theorem lastClaimant_concat (tenantId jobId : String) (trace : List Event)
    (event : Event) :
    lastClaimant tenantId jobId (trace ++ [event]) =
      (event.claimant tenantId jobId).or
        (lastClaimant tenantId jobId trace) := by
  simp [lastClaimant]

theorem claimant_eq_none {event : Event}
    (notClaim : event.operation.kind ≠ .claim) (tenantId jobId : String) :
    event.claimant tenantId jobId = none := by
  unfold Event.claimant
  split
  · next isLease _ =>
      rw [isLease] at notClaim
      exact absurd rfl notClaim
  · rfl

/-- A job that somebody owns has not changed, unless it has been claimed. -/
theorem owned_unchanged (change : Change library before after operation reply)
    (notClaim : operation.kind ≠ .claim) {job : JobRow}
    (stored : job ∈ after.jobs.rows) {workerId : String}
    (owner : job.leaseOwner = some workerId) : job ∈ before.jobs.rows := by
  have keptByUpdate : ∀ {selected : JobRow → Bool} {update : JobRow → JobRow},
      (∀ old, (update old).leaseOwner = none) →
      after.jobs.rows = before.jobs.rows.map
        (Table.applyWhere selected update) → job ∈ before.jobs.rows := by
    intro selected update cleared rows
    rw [rows] at stored
    obtain ⟨old, oldStored, rfl⟩ := List.mem_map.mp stored
    by_cases isSelected : selected old = true
    · rw [Table.applyWhere_selected isSelected, cleared] at owner
      cases owner
    · rw [Bool.not_eq_true] at isSelected
      rw [Table.applyWhere_unselected isSelected]
      exact oldStored
  cases change with
  | ingested _ change =>
      obtain ⟨added, rows, queued⟩ := change.jobs
      rw [rows] at stored
      rcases List.mem_append.mp stored with old | isNew
      · exact old
      · obtain ⟨_, _, _, _, rfl⟩ := queued job isNew
        cases owner
  | claimed kind => exact absurd kind notClaim
  | unchanged _ same =>
      rw [← same]
      exact stored
  | ended _ _ _ change => exact keptByUpdate (fun _ => rfl) change.jobs
  | completed _ change => exact keptByUpdate (fun _ => rfl) change.jobs
  | analysed _ change =>
      obtain ⟨cases, activity, dispositions, log, isAfter⟩ := change.frame
      rw [isAfter] at stored
      exact stored

/-- The reply of a claim names exactly the claimed jobs. -/
theorem readLeases_any {tenantId workerId : String} {expires now : Timestamp}
    {jobIds : List String}
    (change : Claimed tenantId workerId expires now jobIds before after)
    {job : JobRow} (stored : job ∈ before.jobs.rows) :
    ((readLeases tenantId jobIds after).any fun lease =>
        lease.tenantId = job.tenantId ∧ lease.jobId = job.jobId) = true ↔
      claimed tenantId jobIds job = true := by
  constructor
  · intro named
    obtain ⟨lease, member, same⟩ := List.any_eq_true.mp named
    obtain ⟨jobId, listed, found⟩ := List.mem_filterMap.mp member
    obtain ⟨row, isFound, isLease⟩ := Option.bind_eq_some_iff.mp found
    obtain ⟨tenant, identifier⟩ := jobHasKey_iff.mp (List.find?_some isFound)
    have ofRow : lease.tenantId = row.tenantId ∧ lease.jobId = row.jobId := by
      unfold JobRow.lease? at isLease
      obtain ⟨owner, -, afterOwner⟩ := Option.bind_eq_some_iff.mp isLease
      obtain ⟨expiry, -, made⟩ := Option.bind_eq_some_iff.mp afterOwner
      cases made
      exact ⟨rfl, rfl⟩
    obtain ⟨leaseTenant, leaseJob⟩ := of_decide_eq_true same
    apply decide_eq_true
    constructor
    · rw [← leaseTenant, ofRow.1, tenant]
    · rw [← leaseJob, ofRow.2, identifier]
      exact listed
  · intro isClaimed
    obtain ⟨tenant, listed⟩ := of_decide_eq_true isClaimed
    have leased : job.leaseTo workerId expires now ∈ after.jobs.rows := by
      rw [change.jobs]
      exact List.mem_map.mpr ⟨job, stored,
        Table.applyWhere_selected isClaimed⟩
    have found : after.jobs.rows.find? (·.hasKey tenantId job.jobId) =
        some (job.leaseTo workerId expires now) := by
      apply Table.find?_eq_some_of_clash leased
      · exact jobHasKey_iff.mpr ⟨tenant, rfl⟩
      · intro other keyed
        obtain ⟨otherTenant, otherId⟩ := jobHasKey_iff.mp keyed
        simp [JobRow.clash, JobRow.hasKey, JobRow.leaseTo, tenant, otherTenant,
          otherId]
    rw [List.any_eq_true]
    refine ⟨⟨job.tenantId, job.jobId, job.eventId, job.attempts + 1, workerId,
      expires⟩, ?_, by simp⟩
    apply List.mem_filterMap.mpr
    exact ⟨job.jobId, listed, by rw [found]; rfl⟩

/-- Whoever owns the lease of a job claimed it last. -/
def OwnersClaimed (trace : List Event) (database : Database Log) : Prop :=
  ∀ job ∈ database.jobs.rows, ∀ workerId, job.leaseOwner = some workerId →
    lastClaimant job.tenantId job.jobId trace = some workerId

theorem ownersClaimed_step {service : Service Log} {trace : List Event}
    {event : Event} (holds : OwnersClaimed trace before)
    (step : (system service).step before event after) :
    OwnersClaimed (trace ++ [event]) after := by
  intro job stored workerId owner
  rw [lastClaimant_concat]
  rcases change_of_step step with
    ⟨failure, refused, same⟩ | ⟨reply, accepted, change⟩
  · rw [same] at stored
    have none : event.claimant job.tenantId job.jobId = none := by
      simp [Event.claimant, refused]
    rw [none, Option.none_or]
    exact holds job stored workerId owner
  · by_cases isClaim : event.operation.kind = .claim
    · cases change with
      | @claimed tenantId claimant expires now jobIds _ workerIs replyIs
          change =>
          obtain ⟨limit, leaseSeconds, operationIs⟩ := workerIs
          rw [change.jobs] at stored
          obtain ⟨old, oldStored, rfl⟩ := List.mem_map.mp stored
          have named := readLeases_any change oldStored
          by_cases isClaimed : claimed tenantId jobIds old = true
          · rw [Table.applyWhere_selected isClaimed] at owner ⊢
            have isClaimant : workerId = claimant :=
              (Option.some.inj owner).symm
            have claims : event.claimant old.tenantId old.jobId =
                some claimant := by
              simp only [Event.claimant, operationIs, accepted, replyIs]
              rw [if_pos (named.mpr isClaimed)]
            rw [isClaimant]
            change (event.claimant old.tenantId old.jobId).or _ = _
            rw [claims, Option.some_or]
          · have unclaimed := isClaimed
            rw [Bool.not_eq_true] at unclaimed
            rw [Table.applyWhere_unselected unclaimed] at owner ⊢
            have none : event.claimant old.tenantId old.jobId = none := by
              simp only [Event.claimant, operationIs, accepted, replyIs]
              rw [if_neg fun isNamed => isClaimed (named.mp isNamed)]
            rw [none, Option.none_or]
            exact holds old oldStored workerId owner
      | ingested kind => rw [kind] at isClaim; cases isClaim
      | unchanged kind => rw [kind] at isClaim; cases isClaim
      | ended kind => rw [kind] at isClaim; cases isClaim
      | completed operationIs => rw [operationIs] at isClaim; cases isClaim
      | analysed kind => rw [kind] at isClaim; cases isClaim
    · rw [claimant_eq_none isClaim, Option.none_or]
      exact holds job (owned_unchanged change isClaim stored owner) workerId
        owner

/-- A report of a worker that did not claim the job last changes nothing. -/
theorem stale_report {service : Service Log} {trace : List Event}
    {event : Event} (holds : OwnersClaimed trace before)
    (step : (system service).step before event after)
    {tenantId jobId workerId : String}
    (report : event.operation.report? = some (tenantId, jobId, workerId))
    (stale : lastClaimant tenantId jobId trace ≠ some workerId) :
    after = before := by
  have notOwned : ∀ job ∈ before.jobs.rows, ∀ owner,
      job.ownedBy owner = true →
      event.operation.report? = some (job.tenantId, job.jobId, owner) →
      False := by
    intro job stored owner owned isReport
    rw [isReport] at report
    obtain ⟨rfl, rfl, rfl⟩ : job.tenantId = tenantId ∧ job.jobId = jobId ∧
        owner = workerId := by simpa using report
    exact stale (holds job stored owner (ownedBy_iff.mp owned).2)
  rcases change_of_step step with
    ⟨failure, refused, same⟩ | ⟨reply, accepted, change⟩
  · exact same
  · cases change with
    | unchanged kind same => exact same
    | ended kind isReport notLeased change =>
        exact (notOwned _ change.stored _ change.owned isReport).elim
    | completed operationIs change =>
        refine (notOwned _ change.stored _
          (ownedUntil_iff.mp change.owned).1 ?_).elim
        rw [operationIs]
        rfl
    | ingested kind =>
        cases operation : event.operation <;>
          simp_all [Operation.kind, Operation.report?]
    | claimed kind =>
        cases operation : event.operation <;>
          simp_all [Operation.kind, Operation.report?]
    | analysed kind =>
        cases operation : event.operation <;>
          simp_all [Operation.kind, Operation.report?]

theorem succeeded_of_completes {service : Service Log} {event : Event}
    (step : (system service).step before event after)
    {tenantId jobId : String}
    (completes : event.completes tenantId jobId = true) :
    ∃ workerId now, CompletedByOwner tenantId jobId workerId now before
      after := by
  unfold Event.completes at completes
  split at completes
  · next eventTenant eventJob workerId alerts now decision reply operationIs
      accepted =>
      obtain ⟨rfl, rfl⟩ := of_decide_eq_true completes
      rcases change_of_step step with
        ⟨failure, refused, same⟩ | ⟨_, _, change⟩
      · rw [refused] at accepted
        cases accepted
      · rw [operationIs] at change
        cases change with
        | completed same change =>
            cases same
            exact ⟨workerId, now, completedByOwner change⟩
        | ingested kind => cases kind
        | claimed kind => cases kind
        | unchanged kind => cases kind
        | ended kind => cases kind
        | analysed kind => cases kind
  · cases completes

theorem jobs_step {service : Service Log} {event : Event}
    (step : (system service).step before event after) :
    JobsEvolve before.jobs.rows after.jobs.rows := by
  rcases change_of_step step with
    ⟨failure, refused, same⟩ | ⟨reply, accepted, change⟩
  · rw [same]
    exact Std.Refl.refl _
  · exact jobs_evolve change

/-- A job that was completed has succeeded, and was completed once. -/
def CompletedOnce (tenantId jobId : String) (trace : List Event)
    (database : Database Log) : Prop :=
  trace.countP (Event.completes tenantId jobId) ≤ 1 ∧
    (trace.countP (Event.completes tenantId jobId) ≠ 0 →
      ∃ job ∈ database.jobs.rows, job.tenantId = tenantId ∧
        job.jobId = jobId ∧ job.status = .succeeded)

theorem completedOnce_step {service : Service Log} {trace : List Event}
    {event : Event} {tenantId jobId : String}
    (holds : CompletedOnce tenantId jobId trace before)
    (step : (system service).step before event after) :
    CompletedOnce tenantId jobId (trace ++ [event]) after := by
  obtain ⟨once, succeeded⟩ := holds
  unfold CompletedOnce
  rw [List.countP_append, List.countP_singleton]
  by_cases completes : event.completes tenantId jobId = true
  · obtain ⟨workerId, now, completed⟩ := succeeded_of_completes step completes
    obtain ⟨job, stored, tenant, identifier, leased, -⟩ := completed.owned
    -- A job completed before has succeeded and is not leased.
    have notBefore : trace.countP (Event.completes tenantId jobId) = 0 := by
      by_contra before
      obtain ⟨other, otherStored, otherTenant, otherId, finished⟩ :=
        succeeded before
      have same : other = job := job_eq_of_key otherStored stored
        (jobHasKey_iff.mpr ⟨otherTenant.trans tenant.symm,
          otherId.trans identifier.symm⟩)
      rw [same, leased] at finished
      cases finished
    rw [notBefore, if_pos completes]
    exact ⟨Nat.le_refl 1, fun _ => completed.succeeded⟩
  · rw [if_neg completes, Nat.add_zero]
    refine ⟨once, fun positive => ?_⟩
    obtain ⟨job, stored, tenant, identifier, finished⟩ := succeeded positive
    have isFinished : isFinished job = true := by
      simp [Processing.isFinished, finished]
    exact ⟨job, (jobs_step step).keeps_finished stored isFinished, tenant,
      identifier, finished⟩

theorem jobs_run {service : Service Log} {start database : Database Log}
    {trace : List Event} (isInitial : (system service).initial start)
    (run : (system service).Run start trace database) :
    ∀ job ∈ database.jobs.rows, LeaseShape job := by
  apply run.invariant
  · intro state event next shaped _ step
    exact (jobs_step step).keeps_shape shaped
  · simp [isInitial.jobs]

theorem ownersClaimed_run {service : Service Log}
    {start database : Database Log} {trace : List Event}
    (isInitial : (system service).initial start)
    (run : (system service).Run start trace database) :
    OwnersClaimed trace database := by
  apply run.historyInvariant
  · simp [OwnersClaimed, isInitial.jobs]
  · intro labels state event next holds _ step
    exact ownersClaimed_step holds step

theorem completedOnce_run {service : Service Log}
    {start database : Database Log} {trace : List Event}
    (run : (system service).Run start trace database)
    (tenantId jobId : String) : CompletedOnce tenantId jobId trace database := by
  apply run.historyInvariant
  · simp [CompletedOnce]
  · intro labels state event next holds _ step
    exact completedOnce_step holds step

/-- Lease safety, for any workers and clocks: the lease columns belong to
leased jobs, a job is completed at most once, finished jobs stay as they are,
alerts and cases are committed by the owner of an unexpired lease together
with the success of the job, and a report of a worker that another has
replaced changes nothing. -/
theorem lease_safety {service : Service Log} {start database : Database Log}
    {trace : List Event} (isInitial : (system service).initial start)
    (run : (system service).Run start trace database) :
    (∀ job ∈ database.jobs.rows,
      (job.status = .leased ↔ job.leaseOwner.isSome) ∧
        (job.status = .leased ↔ job.leaseExpiresAt.isSome)) ∧
    (∀ tenantId jobId,
      trace.countP (Event.completes tenantId jobId) ≤ 1) ∧
    ∀ event next, (system service).step database event next →
      (∀ job ∈ database.jobs.rows,
        job.status = .succeeded ∨ job.status = .dead →
          job ∈ next.jobs.rows) ∧
      ((next.alerts = database.alerts ∧
          next.caseAlerts = database.caseAlerts ∧
          (next.cases = database.cases ∨ event.operation.kind = .analysis)) ∨
        ∃ tenantId jobId workerId alerts now decision,
          event.operation =
              .persist tenantId jobId workerId alerts now decision ∧
            CompletedByOwner tenantId jobId workerId now database next) ∧
      ∀ tenantId jobId workerId,
        event.operation.report? = some (tenantId, jobId, workerId) →
        lastClaimant tenantId jobId trace ≠ some workerId →
        next = database := by
  refine ⟨?_, ?_, ?_⟩
  · intro job stored
    have shaped := jobs_run isInitial run job stored
    unfold LeaseShape at shaped
    cases status : job.status <;> simp_all
  · intro tenantId jobId
    exact (completedOnce_run run tenantId jobId).1
  · intro event next step
    refine ⟨?_, ?_, ?_⟩
    · intro job stored finished
      exact (jobs_step step).keeps_finished stored (decide_eq_true finished)
    · rcases change_of_step step with
        ⟨failure, refused, same⟩ | ⟨reply, accepted, change⟩
      · rw [same]
        exact .inl ⟨rfl, rfl, .inl rfl⟩
      · exact alerts_kept change
    · intro tenantId jobId workerId report stale
      exact stale_report (ownersClaimed_run isInitial run) step report stale

end Histories

/-! ## A lease that is taken over -/

def sampleEvent : SecurityEvent where
  eventId := "event-1"
  eventType := "authentication_success"
  timestamp := ⟨seconds 1, "1970-01-01T00:00:01Z"⟩
  actor := "Ana"
  sourceIp := none
  target := none
  deviceId := some "mac-1"
  attributes := { members := [] }

def sampleAlert : DetectionAlert where
  alertId := "alert-1"
  ruleId := "rule-1"
  title := "Sign-in"
  severity := .high
  eventId := "event-1"
  actor := "Ana"
  reasons := ["event_type matched"]
  tags := []
  createdAt := seconds 70

/-- The SHA-256 of the texts that the transactions below hash. -/
def sampleDigests : List (String × String) :=
  [(canonicalEvent sampleEvent,
      "514929d02d372cfb84c2d86805a3a21463c5539950839895e95405a9477c817e"),
    ("acme:detect:event-1:v1",
      "56639582914bcb23116e60344db32671fb2295b1b9a399bab524327e0ce8d38b"),
    ("acme:case:alert-1",
      "dbfd445890856013e54fefd23f06848ee3accc0b637e9e3912067d0a3f888e39"),
    ("[\"controlforge-case\",1,\"acme\",\"rule-1\",[\"device\",\"mac-1\"]]",
      "e90408d72f71b8525f19880ddd603ef08c481d6aea5e1a7a099f8f6a4e7f572b")]

def sampleJobId : String :=
  "56639582914bcb23116e60344db32671fb2295b1b9a399bab524327e0ce8d38b"

/-- A service without an audit log, on the texts below. -/
def sampleService : Service Unit where
  append _ := pure ()
  library := {
    sha256 := fun text => (sampleDigests.lookup text).getD text
    casefold := fun text => String.ofList (text.toList.map Char.toLower) }

def sampleStart : Database Unit where
  tenants := ["acme"]
  devices := [("acme", "mac-1")]
  users := []
  events := .empty
  jobs := .empty
  alerts := .empty
  cases := .empty
  caseAlerts := .empty
  activity := .empty
  dispositions := .empty
  audit := ()

theorem sampleStart_initial : (system sampleService).initial sampleStart := by
  constructor <;> rfl

def sampleDecision : Decision :=
  ⟨[("rule-1", "1")], "detector-1", [], []⟩

/-- The second worker takes over a lease that has run out; then both report. -/
def takeover : List Operation :=
  [.ingest "acme" [sampleEvent] (seconds 2),
    .lease "acme" "worker-1" 25 (seconds 3) 60,
    .lease "acme" "worker-2" 25 (seconds 70) 60,
    .persist "acme" sampleJobId "worker-1" [sampleAlert] (seconds 71)
      sampleDecision,
    .persist "acme" sampleJobId "worker-2" [sampleAlert] (seconds 72)
      sampleDecision]

theorem lease_safety_takeover :
    (∀ tenantId jobId,
      (runOperations sampleService sampleStart takeover).1.countP
        (Event.completes tenantId jobId) ≤ 1) ∧
    (∀ job ∈ (runOperations sampleService sampleStart takeover).2.jobs.rows,
      (job.status = .leased ↔ job.leaseOwner.isSome) ∧
        (job.status = .leased ↔ job.leaseExpiresAt.isSome)) ∧
    (runOperations sampleService sampleStart takeover).1.map
      (·.outcome.isOk) = [true, true, true, false, true] := by
  have safe := lease_safety sampleStart_initial
    (run_runOperations sampleService sampleStart takeover)
  have outcomes : (runOperations sampleService sampleStart takeover).1.map
      (·.outcome.isOk) = [true, true, true, false, true] := by
    decide +kernel
  exact ⟨safe.2.1, safe.1, outcomes⟩

end Processing

end ControlForge
