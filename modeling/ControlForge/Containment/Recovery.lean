import ControlForge.Containment.Outcomes

/-!
# Recovery from a partial failure

A release gives the recorded reference back before it deletes the record.  A
retry repeats both, and PF refuses a reference that is not held: once a
reference is given back and its record stays, no retry gets past it.
-/

namespace ControlForge

namespace Containment

open Effect

/-- PF and the state store work. -/
structure Surroundings.Work (surroundings : Surroundings) : Prop where
  pfctl : ∀ phase command, surroundings.pfctl phase command = .done
  store : ∀ phase operation call,
    surroundings.store phase operation call = .done

/-- Requests that recover: a release, the release of the recovery console, and
a reconciliation after the deadline. -/
inductive Request.Recovers (adapter : Adapter) (host : Host)
    (now : Timestamp) : Request → Prop
  | release {action : MacOSResponseAction}
      (isRelease : action.actionType = .releaseEndpoint)
      (isTarget : action.targetId = adapter.deviceId)
      (isLive : now < action.expiresAt) : Recovers adapter host now
        (.execute action)
  | console : Recovers adapter host now .releaseOwnedStateForRecovery
  | expiry (isDue : ∀ state, host.stateFile = some state →
      state.expiresAt ≤ now) : Recovers adapter host now .reconcile

/-- An attempt to recover while PF and the state store work. -/
structure Recovers (host : Host) (attempt : Attempt) : Prop where
  work : attempt.surroundings.Work
  system : attempt.surroundings.system = "Darwin"
  euid : attempt.surroundings.euid = 0
  request : ∃ now, attempt.surroundings.clock = some now ∧
    attempt.request.Recovers attempt.adapter host now

/-- The record names the one reference that is held, or there is nothing. -/
def Recoverable (host : Host) : Prop :=
  match host.stateFile with
  | none => host = .clean
  | some state => state.pfToken ∈ host.held ∧
      ∀ token ∈ host.held, token = state.pfToken

instance (host : Host) : Decidable (Recoverable host) := by
  unfold Recoverable
  split <;> infer_instance

/-! ## Calls that work -/

section Works

variable {surroundings : Surroundings} {phase : Phase}
  {operation : StoreOperation} {before : Progress} {host : Host}

theorem storeCall_works (work : surroundings.Work) (call : StoreCall)
    (failure : Failure) (effect : Host → Host) :
    Ensures (At before host)
      (storeCall surroundings phase operation call failure effect)
      fun outcome after => outcome = .ok () ∧
        At before (effect host) after := by
  refine ⟨fun world reached => ?_⟩
  obtain ⟨rfl, obtained, rolledBack, journal⟩ := reached
  unfold storeCall
  rw [work.store]
  exact ⟨rfl, rfl, obtained, rolledBack,
    fun _ member => List.mem_append_left _ (journal member)⟩

theorem storeCheck_works (work : surroundings.Work) (call : StoreCall)
    (failure : Failure) :
    Ensures (At before host)
      (storeCheck surroundings phase operation call failure)
      fun outcome after => outcome = .ok () ∧ At before host after :=
  storeCall_works work call failure id

theorem trustedFile_works (work : surroundings.Work) :
    Ensures (At before host) (trustedFile surroundings phase operation)
      fun outcome after => outcome = .ok () ∧ At before host after := by
  apply (storeCheck_works work _ _).followed
  apply (storeCheck_works work _ _).followed
  exact storeCheck_works work _ _

theorem metadata_works (work : surroundings.Work) :
    Ensures (At before host) (metadata surroundings phase operation)
      fun outcome after => outcome = .ok host.stateFile ∧
        At before host after := by
  apply (storeCheck_works work _ _).followed
  exact Ensures.reads fun world reached => ⟨by rw [reached.host], reached⟩

theorem read_works (work : surroundings.Work) :
    Ensures (At before host) (read surroundings phase)
      fun outcome after => outcome = .ok host.stateFile ∧
        At before host after := by
  apply (metadata_works work).followed
  cases host.stateFile with
  | none => exact Ensures.returns fun _ reached => ⟨rfl, reached⟩
  | some state =>
      apply (trustedFile_works work).followed
      apply (storeCheck_works work _ _).followed
      exact Ensures.returns fun _ reached => ⟨rfl, reached⟩

theorem delete_works (work : surroundings.Work) :
    Ensures (At before host) (delete surroundings phase)
      fun outcome after => outcome = .ok () ∧
        At before (host.withFile none) after := by
  apply (metadata_works work).followed
  cases isFile : host.stateFile with
  | none =>
      have same : host.withFile none = host := by
        rw [← isFile]
        rfl
      rw [same]
      exact Ensures.returns fun _ reached => ⟨rfl, reached⟩
  | some state =>
      apply (trustedFile_works work).followed
      apply (storeCall_works work _ _ Host.unlink).followed
      apply Ensures.catches (storeCheck_works work _ _)
      · exact fun _ _ holds => holds
      · exact fun _ => ⟨fun _ holds => nomatch holds.1⟩

/-- A working command succeeds, but for a reference that is not held. -/
theorem run_works (work : surroundings.Work) {command : PfctlCommand}
    (notEmpty : command.rules ≠ some "")
    (isHeld : ∀ token, command = .release token → token ∈ host.held)
    {reached : Host}
    (performs : ∀ output, host.perform output command = reached) :
    Ensures (At before host) (run surroundings phase command)
      fun outcome after => ∃ output, outcome = .ok output ∧
        At before reached after := by
  have answered : surroundings.answers phase command host = .done := by
    cases command with
    | release token =>
        rw [Surroundings.answers, if_pos (isHeld token rfl)]
        exact work.pfctl _ _
    | enable | load _ _ | flush => exact work.pfctl _ _
  apply (run_ensures notEmpty).implies
  intro outcome after holds
  cases outcome with
  | ok output =>
      have performed := holds.1
      rw [performs] at performed
      exact ⟨output, rfl, performed⟩
  | error failure =>
      obtain ⟨_, _, _, _, notDone⟩ := holds
      exact absurd answered notDone

/-- PF refuses a reference that is not held. -/
theorem run_refused {token : PfToken} (notHeld : token ∉ host.held) :
    Ensures (At before host) (run surroundings phase (.release token))
      fun outcome after => outcome = .error .command ∧
        At before host after := by
  have answered : surroundings.answers phase (.release token) host =
      .failed false :=
    if_neg notHeld
  have unchanged (output : Option String) :
      host.perform output (.release token) = host := by
    have same : host.held.filter (· ≠ token) = host.held := by
      apply List.filter_eq_self.mpr
      intro other member
      exact decide_eq_true fun isToken => notHeld (isToken ▸ member)
    simp only [Host.perform, same]
  apply (run_ensures (by simp [PfctlCommand.rules])).implies
  intro outcome after holds
  cases outcome with
  | ok output => cases answered.symm.trans holds.2
  | error failure =>
      obtain ⟨rfl, left, rfl | isLeft, reached, _⟩ := holds
      · exact ⟨rfl, reached⟩
      · rw [isLeft, unchanged] at reached
        exact ⟨rfl, reached⟩

/-- What a recovery makes of a host: past a reference that is not held there is
only the flushed anchor. -/
def Host.recovered (host : Host) : Host :=
  match host.stateFile with
  | none => host
  | some state =>
      if state.pfToken ∈ host.held then
        (host.freed state.pfToken).withFile none
      else
        { host with anchor := none }

theorem releaseState_works (work : surroundings.Work) {state : MacOSPfState}
    (isFile : host.stateFile = some state) :
    Ensures (At before host) (releaseState surroundings state)
      fun outcome after => At before host.recovered after ∧
        (outcome = .ok () ∨ outcome = .error (.response "release_failed")) := by
  have body : Ensures (At before host) (do
      let _ ← run surroundings .releasing .flush
      let _ ← run surroundings .releasing (.release state.pfToken)
      delete surroundings .releasing)
      fun outcome after => At before host.recovered after ∧
        (outcome = .ok () ∨ outcome = .error .command) := by
    apply Ensures.bind (run_works work (by decide) (by rintro _ ⟨⟩)
      fun _ => rfl)
    · intro output
      apply Ensures.chosen
      intro value
      apply Ensures.given
      intro _
      by_cases isHeld : state.pfToken ∈ host.held
      · have recovered : host.recovered =
            (host.freed state.pfToken).withFile none := by
          simp only [Host.recovered, isFile, if_pos isHeld]
        apply Ensures.bind (run_works work (by simp [PfctlCommand.rules])
          (by rintro token ⟨rfl⟩; exact isHeld) fun _ => rfl)
        · intro output
          apply Ensures.chosen
          intro value
          apply Ensures.given
          intro _
          apply (delete_works work).implies
          rintro outcome after ⟨rfl, reached⟩
          rw [recovered]
          exact ⟨reached, .inl rfl⟩
        · rintro _ _ ⟨_, ⟨⟩, _⟩
      · have recovered : host.recovered = { host with anchor := none } := by
          simp only [Host.recovered, isFile, if_neg isHeld]
        have refused := @run_refused surroundings .releasing before
          { host with anchor := none } state.pfToken isHeld
        apply Ensures.bind refused
        · intro _
          constructor
          intro _ holds
          cases holds.1
        · rintro failure world ⟨⟨rfl⟩, reached⟩
          rw [recovered]
          exact ⟨reached, .inr rfl⟩
    · rintro _ _ ⟨_, ⟨⟩, _⟩
  apply Ensures.catches body
  · exact fun _ _ holds => ⟨holds.1, .inl rfl⟩
  · intro failure
    cases failure with
    | command => exact Ensures.throws fun _ holds => ⟨holds.1, .inr rfl⟩
    | response _ | os | value =>
        exact Ensures.throws fun _ holds => by simp at holds

theorem release_works (work : surroundings.Work) :
    Ensures (At before host) (release surroundings)
      fun _ after => At before host.recovered after := by
  apply (read_works work).followed
  cases isFile : host.stateFile with
  | none =>
      have recovered : host.recovered = host := by
        simp only [Host.recovered, isFile]
      rw [recovered]
      exact Ensures.returns fun _ reached => reached
  | some state =>
      apply Ensures.bind (releaseState_works work isFile)
      · exact fun _ => Ensures.returns fun _ holds => holds.1
      · exact fun _ _ holds => holds.1

theorem utcNow_works {now : Timestamp}
    (clock : surroundings.clock = some now) :
    Ensures (At before host) (utcNow surroundings)
      fun outcome after => outcome = .ok now ∧ At before host after := by
  unfold utcNow
  rw [clock]
  exact Ensures.returns fun _ reached => ⟨rfl, reached⟩

theorem requireEnvironment_works {adapter : Adapter}
    (isDarwin : surroundings.system = "Darwin") (isRoot : surroundings.euid = 0) :
    Ensures (At before host) (requireEnvironment adapter surroundings true)
      fun outcome after => outcome = .ok () ∧ At before host after := by
  unfold requireEnvironment
  rw [if_neg (by simp), if_neg (by simp [isDarwin]), if_neg (by simp [isRoot])]
  exact Ensures.returns fun _ reached => ⟨rfl, reached⟩

end Works

/-! ## Recoveries -/

section Recoveries

variable {library : AddressLibrary} {attempt : Attempt} {host : Host}

theorem caught_works {Value : Type} {program : Program Value} {value : Value}
    {start middle : Progress → Prop}
    (body : Ensures start program fun outcome after =>
      outcome = .ok value ∧ middle after) :
    Ensures start (caught program) fun outcome after =>
      outcome = .ok (.ok value) ∧ middle after := by
  apply (caught_ensures body).implies
  intro outcome after holds
  rcases outcome with _ | _ | found
  · exact nomatch holds.1
  · exact nomatch holds.1
  · obtain ⟨⟨rfl⟩, reached⟩ := holds
    exact ⟨rfl, reached⟩

theorem reconcile_works (recovers : Recovers host attempt) {now : Timestamp}
    (clock : attempt.surroundings.clock = some now)
    (isDue : ∀ state, host.stateFile = some state → state.expiresAt ≤ now)
    {before : Progress} :
    Ensures (At before host)
      (reconcile attempt.adapter attempt.surroundings)
      fun _ after => At before host.recovered after := by
  apply (utcNow_works clock).followed
  apply (caught_works (read_works recovers.work)).followed
  cases isFile : host.stateFile with
  | none =>
      have recovered : host.recovered = host := by
        simp only [Host.recovered, isFile]
      rw [recovered]
      exact Ensures.returns fun _ reached => reached
  | some state =>
      dsimp only
      rw [if_neg (not_lt.mpr (isDue state isFile))]
      have releasing : Ensures (At before host) (do
          requireEnvironment attempt.adapter attempt.surroundings true
          releaseState attempt.surroundings state)
          fun _ after => At before host.recovered after := by
        apply (requireEnvironment_works recovers.system
          recovers.euid).followed
        exact (releaseState_works recovers.work isFile).implies
          fun _ _ holds => holds.1
      apply Ensures.bind (caught_ensures releasing)
      · intro value
        cases value with
        | ok _ => exact Ensures.returns fun _ reached => reached
        | error _ => exact Ensures.returns fun _ reached => reached
      · exact fun _ _ reached => reached

theorem run_recovers (recovers : Recovers host attempt) :
    (attempt.run library host).2.host = host.recovered := by
  have start : At (.start host) host (.start host) :=
    ⟨rfl, rfl, rfl, fun _ member => member⟩
  have checked {Value : Type} {next : Program Value}
      (nextEnsures : Ensures (At (.start host) host) next
        fun _ after => At (.start host) host.recovered after) :
      Ensures (At (.start host) host) (do
        requireEnvironment attempt.adapter attempt.surroundings true
        next) fun _ after => At (.start host) host.recovered after :=
    (requireEnvironment_works recovers.system recovers.euid).followed
      nextEnsures
  obtain ⟨now, clock, isRequest⟩ := recovers.request
  have ensures : Ensures (At (.start host) host) (attempt.program library)
      fun _ after => At (.start host) host.recovered after := by
    unfold Attempt.program
    generalize attempt.request = request at isRequest
    cases isRequest with
    | @release action isRelease isTarget isLive =>
        have executed : Ensures (At (.start host) host)
            (execute library attempt.adapter attempt.surroundings action)
            fun _ after => At (.start host) host.recovered after := by
          apply (utcNow_works clock).followed
          rw [if_neg (not_not.mpr isTarget), if_neg (not_le.mpr isLive),
            isRelease]
          exact checked (release_works recovers.work)
        apply Ensures.bind executed
        · exact fun _ => Ensures.returns fun _ reached => reached
        · exact fun _ _ reached => reached
    | console =>
        apply Ensures.bind (checked (release_works recovers.work))
        · exact fun _ => Ensures.returns fun _ reached => reached
        · exact fun _ _ reached => reached
    | expiry isDue =>
        apply Ensures.bind (reconcile_works recovers clock isDue)
        · exact fun _ => Ensures.returns fun _ reached => reached
        · exact fun _ _ reached => reached
  exact (ensures.ends _ start).host

theorem recovered_clean_iff :
    host.recovered = .clean ↔ Recoverable host := by
  unfold Host.recovered Recoverable
  cases isFile : host.stateFile with
  | none => rfl
  | some state =>
      dsimp only
      by_cases isHeld : state.pfToken ∈ host.held
      · rw [if_pos isHeld]
        simp [Host.freed, Host.withFile, Host.clean, isHeld,
          List.filter_eq_nil_iff]
      · rw [if_neg isHeld]
        simp [Host.clean, isHeld]

/-- A retry from what a recovery left is as hopeful as the recovery was. -/
theorem recovered_recoverable_iff :
    Recoverable host.recovered ↔ Recoverable host := by
  cases isFile : host.stateFile with
  | none =>
      have recovered : host.recovered = host := by
        simp only [Host.recovered, isFile]
      rw [recovered]
  | some state =>
      by_cases isHeld : state.pfToken ∈ host.held
      · have noFile : host.recovered.stateFile = none := by
          simp [Host.recovered, isFile, isHeld, Host.withFile]
        have again : Recoverable host.recovered ↔ host.recovered = .clean := by
          simp only [Recoverable, noFile]
        exact again.trans recovered_clean_iff
      · have recovered : host.recovered = { host with anchor := none } := by
          simp only [Host.recovered, isFile, if_neg isHeld]
        rw [recovered]
        simp [Recoverable, isFile, isHeld]

/-- After any number of recoveries, the last one has cleaned up if the first
one could. -/
theorem recoveries {start finish : Host} {trials : List Trial}
    (run : (system library).RunWhere
      (fun host trial => Recovers host trial.attempt) start trials finish) :
    (Recoverable finish ↔ Recoverable start) ∧
      (trials ≠ [] → (finish = .clean ↔ Recoverable start)) := by
  induction run with
  | nil => exact ⟨Iff.rfl, fun tried => absurd rfl tried⟩
  | snoc before recovers step induction =>
      obtain ⟨ran, rfl⟩ := step
      have recovered := @run_recovers library _ _ recovers
      rw [ran] at recovered
      dsimp only at recovered
      rw [recovered, recovered_recoverable_iff, recovered_clean_iff]
      exact ⟨induction.1, fun _ => induction.1⟩

end Recoveries

/-- From any host, however often the recovery is tried, it ends with nothing
held, loaded or recorded if and only if the record was in step with PF. -/
theorem recovery_cleans_iff {library : AddressLibrary}
    {start finish : Host} {trials : List Trial} (tried : trials ≠ [])
    (run : (system library).RunWhere
      (fun host trial => Recovers host trial.attempt) start trials finish) :
    finish = .clean ↔ Recoverable start :=
  (recoveries run).2 tried

/-! ## Samples -/

def isolated : Trial :=
  (sampleAttempt .isolateEndpoint fun _ _ => false).trial sampleLibrary .clean

/-- The state file cannot be deleted. -/
def unreleased : Trial :=
  (sampleAttempt .releaseEndpoint fun _ call => call = .unlink).trial
    sampleLibrary isolated.progress.host

theorem sample_recovers (host : Host) :
    Recovers host (sampleAttempt .releaseEndpoint fun _ _ => false) where
  work := ⟨fun _ _ => rfl, fun _ _ _ => rfl⟩
  system := rfl
  euid := rfl
  request := ⟨_, rfl, .release rfl rfl (by decide)⟩

theorem recovery_cleans_iff_isolated :
    ((sampleAttempt .releaseEndpoint fun _ _ => false).run sampleLibrary
      isolated.progress.host).2.host = .clean := by
  have run : (system sampleLibrary).RunWhere
      (fun host trial => Recovers host trial.attempt) isolated.progress.host
      [(sampleAttempt .releaseEndpoint fun _ _ => false).trial sampleLibrary
        isolated.progress.host] _ :=
    .snoc .nil (sample_recovers _) (trial_step _ _ _)
  apply (recovery_cleans_iff (by simp) run).mpr
  decide +kernel

/-- The reference is given back and its record stays: no retry succeeds. -/
theorem released_record_stays :
    ∃ trials host, (system sampleLibrary).Run .clean trials host ∧
      (∃ attempt, Recovers host attempt) ∧
      ∀ attempts finish, (system sampleLibrary).RunWhere
        (fun host trial => Recovers host trial.attempt) host attempts finish →
        finish ≠ .clean := by
  have started : (system sampleLibrary).Run .clean [isolated]
      isolated.progress.host :=
    run_concat .nil _ trivial
  refine ⟨_, _, run_concat started
    (sampleAttempt .releaseEndpoint fun _ call => call = .unlink) trivial,
    ⟨_, sample_recovers _⟩, fun attempts finish run isClean => ?_⟩
  have stuck : ¬ Recoverable unreleased.progress.host := by
    decide +kernel
  apply stuck
  apply (recoveries run).1.mp
  rw [isClean]
  decide

end Containment

end ControlForge
