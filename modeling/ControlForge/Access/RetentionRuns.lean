import ControlForge.Access.Requests

/-!
# What a retention run deletes

The preview counts jobs and events before anything is deleted, and the
statements of `apply` delete the jobs first.  Both select the same rows, and no
job or alert is left without its event.
-/

namespace ControlForge

namespace Access

variable {Log : Type}

/-- What `apply` checks before its transaction begins. -/
def checkApply (deployment : Deployment Log) (principal : SessionPrincipal)
    (appliance : Appliance Log) : Except AccessError Unit := do
  requireCapability principal .manage
  refuseUnless (deployment.verifyAudit appliance.audit principal.tenantId)
    (.retention "retention refused because audit verification failed")

/-- `apply`.  The log is verified as it is then; the transaction begins
later. -/
def apply (deployment : Deployment Log) (principal : SessionPrincipal)
    (draw : Draw) (verified appliance : Appliance Log) :
    Except AccessError Unit × Appliance Log :=
  match checkApply deployment principal verified with
  | .error failure => (.error failure, appliance)
  | .ok () => (applyRetention deployment principal draw).commit appliance

/-- The cutoff of a run. -/
def cutoffOf (appliance : Appliance Log) (tenantId : String) (now : Timestamp) :
    Timestamp :=
  now - Devices.days (policyDays appliance tenantId)

/-- A run deletes what the preview counts, writes itself down with these counts,
and touches no other table but the log. -/
structure DeletesPreviewed (before after : Appliance Log)
    (principal : SessionPrincipal) (draw : Draw) (cutoff : Timestamp) :
    Prop where
  jobs : after.jobs.rows = before.jobs.rows.filter fun job =>
    !terminalJob principal.tenantId cutoff job
  events : after.events.rows = before.events.rows.filter fun event =>
    !previewedEvent principal.tenantId cutoff before.jobs.rows
      before.alerts.rows event
  runs : after.retentionRuns.rows = before.retentionRuns.rows ++
    [⟨principal.tenantId, draw.id, cutoff,
      (preview before principal.tenantId cutoff).1,
      (preview before principal.tenantId cutoff).2, principal.userId, draw.now⟩]
  others : after = { before with
    jobs := after.jobs
    events := after.events
    retentionRuns := after.retentionRuns
    audit := after.audit }

/-- Deleted rows are of the tenant and old, nothing that is kept refers to them,
and no row of another tenant goes. -/
structure KeepsEvidence (before after : Appliance Log) (tenantId : String)
    (cutoff : Timestamp) : Prop where
  job : ∀ job ∈ before.jobs.rows, job ∉ after.jobs.rows →
    job.tenantId = tenantId ∧ (job.status = .succeeded ∨ job.status = .dead) ∧
      job.updatedAt < cutoff
  event : ∀ event ∈ before.events.rows, event ∉ after.events.rows →
    event.tenantId = tenantId ∧ event.receivedAt < cutoff ∧
      (∀ alert ∈ before.alerts.rows,
        event.hasKey alert.tenantId alert.eventId = false) ∧
      ∀ job ∈ before.jobs.rows, event.hasKey job.tenantId job.eventId = true →
        (job.status = .succeeded ∨ job.status = .dead) ∧ job.updatedAt < cutoff
  jobEvents : (∀ job ∈ before.jobs.rows, ∃ event ∈ before.events.rows,
      event.hasKey job.tenantId job.eventId = true) →
    ∀ job ∈ after.jobs.rows, ∃ event ∈ after.events.rows,
      event.hasKey job.tenantId job.eventId = true
  added : (∀ job ∈ after.jobs.rows, job ∈ before.jobs.rows) ∧
    ∀ event ∈ after.events.rows, event ∈ before.events.rows

/-! ## The selections agree -/

section Selections

variable {tenantId : String} {cutoff : Timestamp} {jobs : List Store.JobRow}
  {alerts : List Store.AlertRow} {event : Store.EventRow}

theorem terminalJob_iff {job : Store.JobRow} :
    terminalJob tenantId cutoff job = true ↔ job.tenantId = tenantId ∧
      (job.status = .succeeded ∨ job.status = .dead) ∧ job.updatedAt < cutoff := by
  simp [terminalJob]

theorem refers_iff {row : Store.EventRow} {owner identifier : String} :
    row.hasKey owner identifier = true ↔
      owner = row.tenantId ∧ identifier = row.eventId := by
  simp only [Store.EventRow.hasKey, decide_eq_true_eq]
  exact and_congr eq_comm eq_comm

theorem refers_eq_false {row : Store.EventRow} {owner identifier : String} :
    row.hasKey owner identifier = false ↔
      ¬ (owner = row.tenantId ∧ identifier = row.eventId) := by
  rw [← refers_iff, Bool.not_eq_true]

theorem previewedEvent_iff :
    previewedEvent tenantId cutoff jobs alerts event = true ↔
      event.tenantId = tenantId ∧ event.receivedAt < cutoff ∧
        (∀ alert ∈ alerts, event.hasKey alert.tenantId alert.eventId = false) ∧
        ∀ job ∈ jobs, event.hasKey job.tenantId job.eventId = true →
          (job.status = .succeeded ∨ job.status = .dead) ∧
            job.updatedAt < cutoff := by
  simp only [previewedEvent, Bool.and_eq_true, decide_eq_true_eq,
    Bool.not_eq_true', List.any_eq_false, refers_iff, refers_eq_false, and_assoc,
    not_and, Classical.not_imp, not_not, and_imp]

theorem unreferencedEvent_iff :
    unreferencedEvent tenantId cutoff jobs alerts event = true ↔
      event.tenantId = tenantId ∧ event.receivedAt < cutoff ∧
        (∀ job ∈ jobs, event.hasKey job.tenantId job.eventId = false) ∧
        ∀ alert ∈ alerts, event.hasKey alert.tenantId alert.eventId = false := by
  simp only [unreferencedEvent, Bool.and_eq_true, decide_eq_true_eq,
    Bool.not_eq_true', List.any_eq_false, refers_eq_false, and_assoc]

/-- A job of the tenant stays exactly when it is not terminal, or not old. -/
theorem mem_remaining {job : Store.JobRow} :
    job ∈ jobs.filter (fun job => !terminalJob tenantId cutoff job) ↔
      job ∈ jobs ∧ (job.tenantId = tenantId →
        ¬ ((job.status = .succeeded ∨ job.status = .dead) ∧
          job.updatedAt < cutoff)) := by
  rw [List.mem_filter, Bool.not_eq_true', ← Bool.not_eq_true, terminalJob_iff,
    not_and]

/-- What is unreferenced once the terminal jobs are gone has been counted
before. -/
theorem unreferencedEvent_remaining :
    unreferencedEvent tenantId cutoff
        (jobs.filter fun job => !terminalJob tenantId cutoff job) alerts event =
      previewedEvent tenantId cutoff jobs alerts event := by
  rw [Bool.eq_iff_iff, unreferencedEvent_iff, previewedEvent_iff]
  constructor
  · rintro ⟨owned, old, noJob, noAlert⟩
    refine ⟨owned, old, noAlert, fun job member refers => ?_⟩
    by_contra stays
    have remaining := noJob job (mem_remaining.mpr ⟨member, fun _ => stays⟩)
    rw [refers] at remaining
    cases remaining
  · rintro ⟨owned, old, noAlert, ended⟩
    refine ⟨owned, old, fun job member => ?_, noAlert⟩
    obtain ⟨stored, stays⟩ := mem_remaining.mp member
    rw [← Bool.not_eq_true]
    intro refers
    have sameTenant : job.tenantId = tenantId := (refers_iff.mp refers).1.trans owned
    exact stays sameTenant (ended job stored refers)

/-- The jobs that go do not count. -/
theorem previewedEvent_remaining :
    previewedEvent tenantId cutoff
        (jobs.filter fun job => !terminalJob tenantId cutoff job) alerts event =
      previewedEvent tenantId cutoff jobs alerts event := by
  rw [Bool.eq_iff_iff, previewedEvent_iff, previewedEvent_iff]
  refine and_congr_right fun owned => and_congr_right fun _ => ?_
  refine and_congr_right fun _ => forall_congr' fun job => ?_
  constructor
  · intro ended member refers
    by_contra stays
    exact stays (ended (mem_remaining.mpr ⟨member, fun _ => stays⟩) refers)
  · intro ended member refers
    exact ended (mem_remaining.mp member).1 refers

/-- The foreign keys have no objection. -/
theorem dangles_eq_false {events : List Store.EventRow} :
    dangles (unreferencedEvent tenantId cutoff jobs alerts) events jobs alerts =
      false := by
  refine List.any_eq_false.mpr fun event _ => ?_
  rw [Bool.and_eq_true, Bool.or_eq_true, not_and, unreferencedEvent_iff]
  rintro ⟨_, _, noJob, noAlert⟩ (refers | refers)
  · obtain ⟨job, member, refers⟩ := List.any_eq_true.mp refers
    rw [noJob job member] at refers
    cases refers
  · obtain ⟨alert, member, refers⟩ := List.any_eq_true.mp refers
    rw [noAlert alert member] at refers
    cases refers

end Selections

/-! ## A run -/

/-- The statements delete what the preview has counted. -/
theorem purge_eq (tenantId : String) (cutoff : Timestamp)
    (appliance : Appliance Log) :
    purge tenantId cutoff appliance =
      .ok (preview appliance tenantId cutoff, { appliance with
        jobs := appliance.jobs.deleteWhere (terminalJob tenantId cutoff)
        events := appliance.events.deleteWhere (previewedEvent tenantId cutoff
          appliance.jobs.rows appliance.alerts.rows) }) := by
  have selected : unreferencedEvent tenantId cutoff
        (appliance.jobs.deleteWhere (terminalJob tenantId cutoff)).rows
        appliance.alerts.rows =
      previewedEvent tenantId cutoff appliance.jobs.rows appliance.alerts.rows :=
    funext fun _ => unreferencedEvent_remaining
  dsimp only [purge]
  rw [if_neg (Bool.not_eq_true _ ▸ dangles_eq_false), selected]
  rfl

section Runs

variable {deployment : Deployment Log} {principal : SessionPrincipal}
  {draw : Draw} {verified before after : Appliance Log}

theorem insertRun_ok {row : RetentionRunRow}
    (inserted : insertRun row before = .ok ((), after)) :
    after.retentionRuns.rows = before.retentionRuns.rows ++ [row] ∧
      after = { before with retentionRuns := after.retentionRuns } := by
  unfold insertRun at inserted
  cases added : before.retentionRuns.insert row with
  | none =>
      rw [added] at inserted
      cases inserted
  | some retentionRuns =>
      rw [added] at inserted
      cases inserted
      exact ⟨(Table.insert_eq_some.mp added).2, rfl⟩

theorem insertRun_raises {row : RetentionRunRow} {failure : AccessError}
    (raised : insertRun row before = .error failure) :
    failure = .integrity "UNIQUE constraint failed: retention_runs" := by
  unfold insertRun at raised
  split at raised
  · cases raised
  · cases raised
    rfl

theorem audit_ok {append : AuditAppend Log} {entry : AuditRecord}
    (logged : audit append entry before = .ok ((), after)) :
    after = { before with audit := after.audit } := by
  unfold audit at logged
  split at logged
  · cases logged
    rfl
  · cases logged

theorem audit_raises {append : AuditAppend Log} {entry : AuditRecord}
    {failure : AccessError}
    (raised : audit append entry before = .error failure) :
    ∃ cause, failure = .audit cause := by
  unfold audit at raised
  split at raised
  · cases raised
  · cases raised
    exact ⟨_, rfl⟩

theorem applyRetention_deletes
    (ran : applyRetention deployment principal draw before = .ok ((), after)) :
    DeletesPreviewed before after principal draw
      (cutoffOf before principal.tenantId draw.now) := by
  obtain ⟨appliance, middle, got, ran⟩ := Transaction.run_bind_ok.mp ran
  cases got
  obtain ⟨_, middle, checked, ran⟩ := Transaction.run_bind_ok.mp ran
  obtain ⟨_, rfl⟩ := Transaction.run_ofExcept_eq_ok.mp checked
  obtain ⟨deleted, middle, purged, ran⟩ := Transaction.run_bind_ok.mp ran
  rw [purge_eq] at purged
  cases purged
  obtain ⟨_, middle, required, ran⟩ := Transaction.run_bind_ok.mp ran
  obtain ⟨_, rfl⟩ := Transaction.run_require_ok.mp required
  obtain ⟨_, middle, inserted, logged⟩ := Transaction.run_bind_ok.mp ran
  obtain ⟨runs, isInserted⟩ := insertRun_ok inserted
  have isLogged := audit_ok logged
  rw [isInserted] at isLogged
  rw [isLogged]
  exact { jobs := rfl, events := rfl, runs, others := rfl }

/-- The counts agree, and no foreign key objects. -/
theorem applyRetention_raises {failure : AccessError}
    (raised : applyRetention deployment principal draw before = .error failure) :
    failure ≠ .retention "retention counts changed inside the locked transaction" ∧
      failure ≠ .integrity "FOREIGN KEY constraint failed" := by
  rcases Transaction.run_bind_error.mp raised with got | ⟨_, _, got, raised⟩
  · cases got
  cases got
  rcases Transaction.run_bind_error.mp raised with
    refused | ⟨_, _, checked, raised⟩
  · unfold validateDays at refused
    split at refused
    · cases refused
    · cases refused
      simp
  obtain ⟨_, rfl⟩ := Transaction.run_ofExcept_eq_ok.mp checked
  rcases Transaction.run_bind_error.mp raised with
    failed | ⟨deleted, _, purged, raised⟩
  · rw [purge_eq] at failed
    cases failed
  rw [purge_eq] at purged
  cases purged
  rcases Transaction.run_bind_error.mp raised with
    changed | ⟨_, _, required, raised⟩
  · rw [Transaction.run_require_of rfl] at changed
    cases changed
  obtain ⟨_, rfl⟩ := Transaction.run_require_ok.mp required
  rcases Transaction.run_bind_error.mp raised with
    clashed | ⟨_, _, _, unlogged⟩
  · simp [insertRun_raises clashed]
  · obtain ⟨cause, rfl⟩ := audit_raises unlogged
    exact ⟨nofun, nofun⟩

/-- What a run that deletes what is counted leaves. -/
theorem DeletesPreviewed.keepsEvidence {cutoff : Timestamp}
    (deletes : DeletesPreviewed before after principal draw cutoff) :
    KeepsEvidence before after principal.tenantId cutoff where
  job := by
    intro job member gone
    rw [deletes.jobs, List.mem_filter, not_and] at gone
    have selected := gone member
    rw [Bool.not_eq_true', Bool.not_eq_false] at selected
    exact terminalJob_iff.mp selected
  event := by
    intro event member gone
    rw [deletes.events, List.mem_filter, not_and] at gone
    have selected := gone member
    rw [Bool.not_eq_true', Bool.not_eq_false] at selected
    exact previewedEvent_iff.mp selected
  jobEvents := by
    intro hasEvents job member
    rw [deletes.jobs] at member
    obtain ⟨stored, stays⟩ := mem_remaining.mp member
    obtain ⟨event, isEvent, refers⟩ := hasEvents job stored
    refine ⟨event, ?_, refers⟩
    rw [deletes.events, List.mem_filter]
    refine ⟨isEvent, ?_⟩
    rw [Bool.not_eq_true', ← Bool.not_eq_true, previewedEvent_iff]
    rintro ⟨owned, _, _, ended⟩
    have sameTenant := (refers_iff.mp refers).1.trans owned
    exact stays sameTenant (ended job stored refers)
  added := by
    rw [deletes.jobs, deletes.events]
    exact ⟨fun job member => (List.mem_filter.mp member).1,
      fun event member => (List.mem_filter.mp member).1⟩

theorem checkApply_raises {failure : AccessError}
    (raised : checkApply deployment principal verified = .error failure) :
    failure ≠ .retention "retention counts changed inside the locked transaction" ∧
      failure ≠ .integrity "FOREIGN KEY constraint failed" := by
  unfold checkApply requireCapability authorize at raised
  cases isGranted : Identity.requireCapability principal principal.tenantId
      .manage with
  | error refused =>
      rw [isGranted] at raised
      cases raised
      exact ⟨nofun, nofun⟩
  | ok _ =>
      rw [isGranted] at raised
      simp only [Except.mapError, refuseUnless, bind, Except.bind] at raised
      split_ifs at raised
      cases raised
      simp

/-- What a call of `apply` did: nothing, or a run. -/
theorem apply_cases (deployment : Deployment Log) (principal : SessionPrincipal)
    (draw : Draw) (verified before : Appliance Log) :
    (∃ failure, apply deployment principal draw verified before =
        (.error failure, before) ∧
      failure ≠ .retention "retention counts changed inside the locked transaction" ∧
      failure ≠ .integrity "FOREIGN KEY constraint failed") ∨
    ∃ after, apply deployment principal draw verified before = (.ok (), after) ∧
      DeletesPreviewed before after principal draw
        (cutoffOf before principal.tenantId draw.now) := by
  unfold apply
  cases isChecked : checkApply deployment principal verified with
  | error failure => exact .inl ⟨failure, rfl, checkApply_raises isChecked⟩
  | ok _ =>
      dsimp only
      cases ran : (applyRetention deployment principal draw).commit before with
      | mk outcome after =>
          cases outcome with
          | error failure =>
              rw [Transaction.commit_error ran]
              exact .inl ⟨failure, rfl,
                applyRetention_raises (Transaction.commit_raised ran)⟩
          | ok _ =>
              exact .inr ⟨after, rfl,
                applyRetention_deletes (Transaction.commit_ok ran)⟩

/-- Where a run has been, another one of the same instant finds nothing. -/
theorem DeletesPreviewed.again {next : SessionPrincipal} {later : Draw}
    {final : Appliance Log}
    (deletes : DeletesPreviewed before after principal draw
      (cutoffOf before principal.tenantId draw.now))
    (sameTenant : next.tenantId = principal.tenantId)
    (sameInstant : later.now = draw.now)
    (repeated : DeletesPreviewed after final next later
      (cutoffOf after next.tenantId later.now)) :
    final.jobs.rows = after.jobs.rows ∧ final.events.rows = after.events.rows := by
  have sameCutoff : cutoffOf after next.tenantId later.now =
      cutoffOf before principal.tenantId draw.now := by
    rw [cutoffOf, policyDays, deletes.others, sameTenant, sameInstant]
    rfl
  have sameAlerts : after.alerts = before.alerts := by rw [deletes.others]
  rw [sameCutoff] at repeated
  constructor
  · rw [repeated.jobs, sameTenant, List.filter_eq_self]
    intro job member
    rw [deletes.jobs] at member
    exact (List.mem_filter.mp member).2
  · rw [repeated.events, sameTenant, List.filter_eq_self]
    intro event member
    rw [deletes.jobs, sameAlerts, previewedEvent_remaining]
    rw [deletes.events] at member
    exact (List.mem_filter.mp member).2

end Runs

/-- A run deletes what its preview counts, keeps all evidence and leaves nothing
for another one; a run that fails leaves everything as it was, and never fails
over its counts. -/
theorem retention_exact (deployment : Deployment Log)
    (principal : SessionPrincipal) (draw : Draw)
    (verified before : Appliance Log) :
    match apply deployment principal draw verified before with
    | (.ok (), after) =>
        DeletesPreviewed before after principal draw
          (cutoffOf before principal.tenantId draw.now) ∧
        KeepsEvidence before after principal.tenantId
          (cutoffOf before principal.tenantId draw.now) ∧
        ∀ (next : SessionPrincipal) (later : Draw) (verifiedLater : Appliance Log),
          next.tenantId = principal.tenantId → later.now = draw.now →
            (apply deployment next later verifiedLater after).2.jobs.rows =
              after.jobs.rows ∧
            (apply deployment next later verifiedLater after).2.events.rows =
              after.events.rows
    | (.error failure, after) =>
        after = before ∧
        failure ≠
          .retention "retention counts changed inside the locked transaction" ∧
        failure ≠ .integrity "FOREIGN KEY constraint failed" := by
  rcases apply_cases deployment principal draw verified before with
    ⟨failure, ran, known⟩ | ⟨after, ran, deletes⟩
  · rw [ran]
    exact ⟨rfl, known⟩
  · rw [ran]
    refine ⟨deletes, deletes.keepsEvidence, ?_⟩
    intro next later verifiedLater sameTenant sameInstant
    rcases apply_cases deployment next later verifiedLater after with
      ⟨_, ranAgain, _⟩ | ⟨final, ranAgain, repeated⟩
    · rw [ranAgain]
      exact ⟨rfl, rfl⟩
    · rw [ranAgain]
      exact deletes.again sameTenant sameInstant repeated

end Access

end ControlForge
