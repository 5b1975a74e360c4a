import ControlForge.Access.Requests
import ControlForge.Devices.History
import ControlForge.Response.Governance

/-!
# What has ended is never usable again

`Settles` says what every transaction does to sessions, invitations, grants,
response actions and rotations: rows are added and changed, and none that has
ended is revived.  `Quiet` adds that nobody's role or network is touched; it
holds of every transaction but those of members and networks.
-/

namespace ControlForge

namespace Access

open Devices (AuthenticatedDevice RotationRow SignedCollectorRequest)
open Response (ActionRow)
open Transaction (Follows)

variable {Log : Type}

/-! ## What may end -/

abbrev SessionsKept : List SessionRecord → List SessionRecord → Prop :=
  Kept (fun row => row.sessionId) fun row => row.revokedAt.isSome

abbrev InvitesKept : List InviteRow → List InviteRow → Prop :=
  Kept InviteRow.inviteId fun row => !row.isOpen

abbrev GrantsKept : List GrantRow → List GrantRow → Prop :=
  Kept GrantRow.tokenId fun row => row.revokedAt.isSome

abbrev ActionsKept : List ActionRow → List ActionRow → Prop :=
  Kept (fun row => (row.tenantId, row.actionId)) fun row => row.status.terminal

abbrev RotationsKept : List RotationRow → List RotationRow → Prop :=
  Kept RotationRow.rotationId fun row => !row.status.live

structure Settles (before after : Appliance Log) : Prop where
  sessions : SessionsKept before.sessions.rows after.sessions.rows
  invites : InvitesKept before.invites.rows after.invites.rows
  grants : GrantsKept before.grants.rows after.grants.rows
  actions : ActionsKept before.actions.rows after.actions.rows
  rotations : RotationsKept before.rotations.rows after.rotations.rows

theorem Settles.refl (appliance : Appliance Log) :
    Settles appliance appliance :=
  ⟨.refl _, .refl _, .refl _, .refl _, .refl _⟩

theorem Settles.trans {first second third : Appliance Log}
    (left : Settles first second) (right : Settles second third) :
    Settles first third where
  sessions := Relation.ReflTransGen.trans left.sessions right.sessions
  invites := Relation.ReflTransGen.trans left.invites right.invites
  grants := Relation.ReflTransGen.trans left.grants right.grants
  actions := Relation.ReflTransGen.trans left.actions right.actions
  rotations := Relation.ReflTransGen.trans left.rotations right.rotations

structure Quiet (before after : Appliance Log) : Prop
    extends Settles before after where
  users : before.users.rows <+: after.users.rows
  tenants : before.tenants.rows <+: after.tenants.rows

instance : Std.Refl (Quiet : Appliance Log → Appliance Log → Prop) where
  refl appliance :=
    ⟨.refl appliance, List.prefix_refl _, List.prefix_refl _⟩

instance : IsTrans (Appliance Log) Quiet where
  trans _ _ _ left right :=
    ⟨left.toSettles.trans right.toSettles, left.users.trans right.users,
      left.tenants.trans right.tenants⟩

/-! ## The parts of the services -/

theorem quiet_inStore {Value : Type} (program : Store.Program Log Value) :
    Follows Quiet (inStore program) := by
  intro before value after ran
  unfold inStore at ran
  split at ran
  · cases ran
    exact ⟨⟨.refl _, .refl _, .refl _, .refl _, .refl _⟩, List.prefix_refl _,
      List.prefix_refl _⟩
  · cases ran

theorem quiet_inResponse {Value : Type}
    {program : Response.Program Log Value}
    (kept : Follows (fun before after =>
      ActionsKept before.actions.rows after.actions.rows) program) :
    Follows Quiet (inResponse program) := by
  intro before value after ran
  unfold inResponse at ran
  split at ran
  · next inner =>
      cases ran
      exact ⟨⟨.refl _, .refl _, .refl _, kept _ _ _ inner, .refl _⟩,
        List.prefix_refl _, List.prefix_refl _⟩
  · cases ran

theorem quiet_inCollectors {Value : Type}
    {program : Devices.RotationProgram Value}
    (kept : Follows (fun before after =>
      RotationsKept before.rotations.rows after.rotations.rows) program) :
    Follows Quiet (inCollectors program : Program Log Value) := by
  intro before value after ran
  unfold inCollectors at ran
  split at ran
  · next inner =>
      cases ran
      exact ⟨⟨.refl _, .refl _, .refl _, .refl _, kept _ _ _ inner⟩,
        List.prefix_refl _, List.prefix_refl _⟩
  · cases ran

/-! ## Response actions -/

section Actions

variable {service : Response.Service Log}

theorem retains_change {operation : Response.Operation Log}
    {handedOut : List String} {old new : ActionRow}
    (change : Response.Change service operation handedOut old new) :
    Retains (fun row : ActionRow => (row.tenantId, row.actionId))
      (fun row => row.status.terminal) old new := by
  constructor
  · have same := change.sameIdentity
    simp only [ActionRow.sameIdentity, decide_eq_true_eq] at same
    rw [same.1, same.2.1]
  · intro terminal
    simp [Response.ActionStatus.terminal, change.live] at terminal

theorem kept_of_advances {operation : Response.Operation Log}
    {handedOut : List String} {before after : Response.Database Log}
    (advances : Response.Advances service operation handedOut before after) :
    ActionsKept before.actions.rows after.actions.rows :=
  advances.mono (fun _ _ => trivial) fun _ _ => retains_change

theorem kept_of_follows {Value : Type} {operation : Response.Operation Log}
    {handedOut : List String} {program : Response.Program Log Value}
    (follows : Follows (Response.Advances service operation handedOut)
      program) :
    Follows (fun before after =>
      ActionsKept before.actions.rows after.actions.rows) program :=
  fun _ _ _ ran => kept_of_advances (follows _ _ _ ran)

/-- No update of an action lets it out of a terminal status. -/
theorem kept_updateActions {setsStatus : Bool} {selected : ActionRow → Bool}
    {change : ActionRow → ActionRow} :
    Follows (fun before after : Response.Database Log =>
        ActionsKept before.actions.rows after.actions.rows)
      (Response.updateActions setsStatus selected change) := by
  intro before count after ran
  unfold Response.updateActions at ran
  split at ran
  · next updated =>
      cases ran
      obtain ⟨-, rows, passed⟩ := Table.updateWhere_eq_ok.mp updated
      rw [rows]
      refine Kept.applyWhere fun row member isSelected => ?_
      obtain ⟨same, -, isLive, -⟩ :=
        Response.updateGuard_eq_none.mp (passed row member isSelected)
      simp only [ActionRow.sameIdentity, decide_eq_true_eq] at same
      refine ⟨by rw [same.1, same.2.1], fun terminal => ?_⟩
      simp [Response.ActionStatus.terminal, isLive] at terminal
  · cases ran

end Actions

/-! ## Credential rotations -/

section Rotations

open Devices.RotationService

/-- The rotations of a device database are kept. -/
def KeepsRotations (before after : Devices.Database) : Prop :=
  RotationsKept before.rotations.rows after.rotations.rows

instance : Std.Refl KeepsRotations where
  refl database := .refl database.rotations.rows

instance : IsTrans Devices.Database KeepsRotations where
  trans _ _ _ left right := Relation.ReflTransGen.trans left right

theorem rotations_updateRotations {selected : RotationRow → Bool}
    {change : RotationRow → RotationRow} :
    Follows KeepsRotations (Devices.updateRotations selected change) := by
  intro before count after ran
  unfold Devices.updateRotations at ran
  split at ran
  · next updated =>
      cases ran
      obtain ⟨-, rows, passed⟩ := Table.updateWhere_eq_ok.mp updated
      unfold KeepsRotations
      rw [rows]
      refine Kept.applyWhere fun row member isSelected => ?_
      have guarded := passed row member isSelected
      simp only [Devices.rotationGuard, Option.map_eq_none_iff,
        firstRaised_cons_eq_none, Bool.not_eq_false'] at guarded
      obtain ⟨same, allowed, -⟩ := guarded
      simp only [RotationRow.sameIdentity, decide_eq_true_eq] at same
      refine ⟨same.1, fun notLive => ?_⟩
      revert allowed notLive
      cases row.status <;> cases (change row).status <;>
        simp [Devices.RotationStatus.mayBecome, Devices.RotationStatus.live]
  · cases ran

theorem rotations_insertRotation (row : RotationRow) :
    Follows KeepsRotations (Devices.insertRotation row) := by
  intro before count after ran
  unfold Devices.insertRotation at ran
  split at ran
  · next inserted =>
      cases ran
      unfold KeepsRotations
      rw [(Table.insert_eq_some.mp inserted).2]
      exact Evolves.insert trivial
  · cases ran

theorem rotations_updateCredentials {selected : Devices.CredentialRow → Bool}
    {change : Devices.CredentialRow → Devices.CredentialRow} :
    Follows KeepsRotations (Devices.updateCredentials selected change) := by
  intro before count after ran
  unfold Devices.updateCredentials at ran
  split at ran
  · cases ran
    exact Evolves.refl _
  · cases ran

theorem rotations_insertCredential (row : Devices.CredentialRow) :
    Follows KeepsRotations (Devices.insertCredential row) := by
  intro before count after ran
  unfold Devices.insertCredential at ran
  split at ran
  · cases ran
    exact Evolves.refl _
  · cases ran

theorem rotations_statements : Devices.Respects KeepsRotations where
  updateCredentials _ _ _ := rotations_updateCredentials
  insertCredential := rotations_insertCredential
  updateRotations _ _ := rotations_updateRotations
  insertRotation := rotations_insertRotation

/-- The authentication of a collector touches no rotation. -/
theorem authenticate_rotations (authenticator : Devices.Authenticator)
    (request : SignedCollectorRequest) (now : Timestamp)
    (database : Devices.Database) :
    (authenticator.authenticate request now database).2.rotations =
      database.rotations := by
  unfold Devices.Authenticator.authenticate
  split
  · rfl
  · unfold Transaction.commit
    split
    · next ran =>
        obtain ⟨_, _, read, authorizing⟩ := Transaction.run_bind_ok.mp ran
        cases read
        obtain ⟨_, _, checked, consuming⟩ :=
          Transaction.run_bind_ok.mp authorizing
        obtain ⟨-, rfl⟩ := Transaction.run_ofExcept_eq_ok.mp checked
        obtain ⟨_, consumed, nonce, recorded⟩ :=
          Transaction.run_bind_ok.mp consuming
        cases recorded
        unfold Devices.Authenticator.consumeNonce at nonce
        split at nonce
        · cases nonce
          rfl
        · cases nonce
    · rfl

end Rotations

/-! ## Statements -/

section Statements

theorem quiet_same {before after : Appliance Log}
    (sessions : after.sessions = before.sessions)
    (invites : after.invites = before.invites)
    (grants : after.grants = before.grants)
    (actions : after.actions = before.actions)
    (rotations : after.rotations = before.rotations)
    (users : after.users = before.users)
    (tenants : after.tenants = before.tenants) : Quiet before after := by
  constructor
  · cases before
    cases after
    cases sessions
    cases invites
    cases grants
    cases actions
    cases rotations
    exact ⟨.refl _, .refl _, .refl _, .refl _, .refl _⟩
  · rewrite [users]
    exact List.prefix_refl _
  · rewrite [tenants]
    exact List.prefix_refl _

theorem quiet_modify {change : Appliance Log → Appliance Log}
    (quiet : ∀ appliance, Quiet appliance (change appliance)) :
    Follows Quiet (modify change : Program Log PUnit) := by
  intro before value after ran
  cases ran
  exact quiet before

theorem quiet_audit (append : AuditAppend Log) (entry : AuditRecord) :
    Follows Quiet (audit append entry) := by
  intro before value after ran
  unfold audit at ran
  split at ran
  · cases ran
    exact quiet_same rfl rfl rfl rfl rfl rfl rfl
  · cases ran

theorem quiet_requireCurrentCapability (principal : SessionPrincipal)
    (capability : Capability) (now : Timestamp) :
    Follows (Quiet : Appliance Log → Appliance Log → Prop)
      (requireCurrentCapability principal capability now) :=
  Follows.bind Follows.get fun _ => Follows.ofExcept _

theorem quiet_insertUser (row : UserRecord) :
    Follows (Quiet : Appliance Log → Appliance Log → Prop)
      (insertUser row) := by
  intro before value after ran
  unfold insertUser at ran
  split at ran
  · next inserted =>
      cases ran
      refine ⟨⟨.refl _, .refl _, .refl _, .refl _, .refl _⟩, ?_,
        List.prefix_refl _⟩
      rw [(Table.insert_eq_some.mp inserted).2]
      exact List.prefix_append _ _
  · cases ran

theorem quiet_insertSession (row : SessionRecord) :
    Follows (Quiet : Appliance Log → Appliance Log → Prop)
      (insertSession row) := by
  intro before value after ran
  unfold insertSession at ran
  split at ran
  · next inserted =>
      cases ran
      refine ⟨⟨?_, .refl _, .refl _, .refl _, .refl _⟩, List.prefix_refl _,
        List.prefix_refl _⟩
      rw [(Table.insert_eq_some.mp inserted).2]
      exact Evolves.insert trivial
  · cases ran

theorem quiet_insertInvite (row : InviteRow) :
    Follows (Quiet : Appliance Log → Appliance Log → Prop)
      (insertInvite row) := by
  intro before value after ran
  unfold insertInvite at ran
  split at ran
  · next inserted =>
      cases ran
      refine ⟨⟨.refl _, ?_, .refl _, .refl _, .refl _⟩, List.prefix_refl _,
        List.prefix_refl _⟩
      rw [(Table.insert_eq_some.mp inserted).2]
      exact Evolves.insert trivial
  · cases ran

theorem quiet_insertGrant (row : GrantRow) :
    Follows (Quiet : Appliance Log → Appliance Log → Prop)
      (insertGrant row) := by
  intro before value after ran
  unfold insertGrant at ran
  split at ran
  · next inserted =>
      cases ran
      refine ⟨⟨.refl _, .refl _, ?_, .refl _, .refl _⟩, List.prefix_refl _,
        List.prefix_refl _⟩
      rw [(Table.insert_eq_some.mp inserted).2]
      exact Evolves.insert trivial
  · cases ran

/-- What `revokeSessions` leaves. -/
theorem revokeSessions_rows {selected : SessionRecord → Bool} {now : Timestamp}
    {before after : Appliance Log} {count : Nat}
    (ran : revokeSessions selected now before = .ok (count, after)) :
    after = { before with sessions := after.sessions } ∧
      after.sessions.rows = before.sessions.rows.map (Table.applyWhere
        (fun row => selected row && row.revokedAt.isNone)
        fun row => { row with revokedAt := some now }) := by
  unfold revokeSessions at ran
  split at ran
  · next updated =>
      cases ran
      exact ⟨rfl, (Table.updateWhere_eq_ok.mp updated).2.1⟩
  · cases ran

theorem closeInvites_rows {selected : InviteRow → Bool}
    {change : InviteRow → InviteRow} {before after : Appliance Log}
    {count : Nat}
    (ran : closeInvites selected change before = .ok (count, after)) :
    after = { before with invites := after.invites } ∧
      after.invites.rows = before.invites.rows.map
        (Table.applyWhere (fun row => selected row && row.isOpen) change) := by
  unfold closeInvites at ran
  split at ran
  · next updated =>
      cases ran
      exact ⟨rfl, (Table.updateWhere_eq_ok.mp updated).2.1⟩
  · cases ran

theorem updateGrants_rows {selected : GrantRow → Bool}
    {change : GrantRow → GrantRow} {before after : Appliance Log}
    {count : Nat}
    (ran : updateGrants selected change before = .ok (count, after)) :
    after = { before with grants := after.grants } ∧
      after.grants.rows = before.grants.rows.map
        (Table.applyWhere (fun row => selected row && row.revokedAt.isNone)
          change) := by
  unfold updateGrants at ran
  split at ran
  · next updated =>
      cases ran
      exact ⟨rfl, (Table.updateWhere_eq_ok.mp updated).2.1⟩
  · cases ran

theorem quiet_revokeSessions (selected : SessionRecord → Bool)
    (now : Timestamp) :
    Follows (Quiet : Appliance Log → Appliance Log → Prop)
      (revokeSessions selected now) := by
  intro before count after ran
  obtain ⟨others, rows⟩ := revokeSessions_rows ran
  rw [others]
  refine ⟨⟨?_, .refl _, .refl _, .refl _, .refl _⟩, List.prefix_refl _,
    List.prefix_refl _⟩
  dsimp only
  rw [rows]
  exact Kept.applyWhere fun _ _ _ => ⟨rfl, fun _ => rfl⟩

theorem quiet_closeInvites {selected : InviteRow → Bool}
    {change : InviteRow → InviteRow}
    (sameId : ∀ row, (change row).inviteId = row.inviteId) :
    Follows (Quiet : Appliance Log → Appliance Log → Prop)
      (closeInvites selected change) := by
  intro before count after ran
  obtain ⟨others, rows⟩ := closeInvites_rows ran
  rw [others]
  refine ⟨⟨.refl _, ?_, .refl _, .refl _, .refl _⟩, List.prefix_refl _,
    List.prefix_refl _⟩
  dsimp only
  rw [rows]
  refine Kept.applyWhere fun row _ isSelected => ⟨sameId row, fun ended => ?_⟩
  -- Only open rows are selected.
  simp [(Bool.and_eq_true_iff.mp isSelected).2] at ended

theorem quiet_updateGrants {selected : GrantRow → Bool}
    {change : GrantRow → GrantRow}
    (sameId : ∀ row, (change row).tokenId = row.tokenId) :
    Follows (Quiet : Appliance Log → Appliance Log → Prop)
      (updateGrants selected change) := by
  intro before count after ran
  obtain ⟨others, rows⟩ := updateGrants_rows ran
  rw [others]
  refine ⟨⟨.refl _, .refl _, ?_, .refl _, .refl _⟩, List.prefix_refl _,
    List.prefix_refl _⟩
  dsimp only
  rw [rows]
  refine Kept.applyWhere fun row _ isSelected => ⟨sameId row, fun ended => ?_⟩
  have unrevoked := (Bool.and_eq_true_iff.mp isSelected).2
  rw [Option.isNone_iff_eq_none] at unrevoked
  simp [unrevoked] at ended

theorem quiet_consumeChallenges (selected : ChallengeRow → Bool)
    (now : Timestamp) :
    Follows (Quiet : Appliance Log → Appliance Log → Prop)
      (consumeChallenges selected now) := by
  intro before count after ran
  cases ran
  exact quiet_same rfl rfl rfl rfl rfl rfl rfl

end Statements

/-! ## Operations -/

section Operations

variable {deployment : Deployment Log}

theorem quiet_issueSession (tenantId userId : String) (draw : Draw) :
    Follows Quiet (issueSession deployment tenantId userId draw) := by
  refine Follows.bind Follows.get fun _ => ?_
  exact Follows.bind (Follows.require _ _) fun _ => quiet_insertSession _

theorem quiet_completeAuthentication (challengeId tenantId userId : String)
    (draw : Draw) :
    Follows Quiet
      (completeAuthentication deployment challengeId tenantId userId draw) := by
  refine Follows.bind (Follows.require _ _) fun _ => ?_
  refine Follows.bind (quiet_consumeChallenges _ _) fun _ => ?_
  exact Follows.bind (Follows.require _ _) fun _ => quiet_issueSession _ _ _

theorem quiet_recoverSession (tenantSlug email recoveryCode : String)
    (draw : Draw) :
    Follows Quiet
      (recoverSession deployment tenantSlug email recoveryCode draw) := by
  refine Follows.bind (Follows.ofExcept _) fun _ => ?_
  refine Follows.bind Follows.get fun _ => ?_
  split
  · exact Follows.throw _
  · refine Follows.bind (quiet_modify fun _ => ?_) fun _ => ?_
    · exact quiet_same rfl rfl rfl rfl rfl rfl rfl
    · exact Follows.bind (quiet_issueSession _ _ _) fun _ => Follows.pure _

theorem quiet_revokeSession (principal : SessionPrincipal) (now : Timestamp) :
    Follows (Quiet : Appliance Log → Appliance Log → Prop)
      (revokeSession principal now) :=
  Follows.bind (quiet_revokeSessions _ _) fun _ => Follows.pure _

theorem quiet_issueHumanInvite (principal : SessionPrincipal)
    (input : InviteInput) (email : String) (draw : Draw) :
    Follows Quiet (issueHumanInvite deployment principal input email draw) := by
  refine Follows.bind (quiet_requireCurrentCapability _ _ _) fun _ => ?_
  refine Follows.bind Follows.get fun _ => ?_
  refine Follows.bind (Follows.require _ _) fun _ => ?_
  exact Follows.bind (quiet_insertInvite _) fun _ => quiet_audit _ _

theorem quiet_requireIssuer (tenantId inviteId : String) :
    Follows (Quiet : Appliance Log → Appliance Log → Prop)
      (requireIssuer tenantId inviteId) := by
  refine Follows.bind Follows.get fun _ => ?_
  split
  · exact Follows.throw _
  · exact Follows.bind (Follows.require _ _) fun _ => Follows.pure _

theorem quiet_consumeInviteChallenge (challengeId : String)
    (now : Timestamp) :
    Follows (Quiet : Appliance Log → Appliance Log → Prop)
      (consumeInviteChallenge challengeId now) := by
  intro before count after ran
  cases ran
  exact quiet_same rfl rfl rfl rfl rfl rfl rfl

theorem quiet_completeHumanInvite (invitation : Invitation) (draw : Draw) :
    Follows Quiet (completeHumanInvite deployment invitation draw) := by
  refine Follows.bind (Follows.require _ _) fun _ => ?_
  refine Follows.bind (quiet_consumeInviteChallenge _ _) fun _ => ?_
  refine Follows.bind (quiet_closeInvites fun _ => rfl) fun _ => ?_
  refine Follows.bind (Follows.require _ _) fun _ => ?_
  refine Follows.bind (quiet_requireIssuer _ _) fun _ => ?_
  refine Follows.bind (quiet_insertUser _) fun _ => ?_
  refine Follows.bind (quiet_modify fun _ => ?_) fun _ => ?_
  · exact quiet_same rfl rfl rfl rfl rfl rfl rfl
  · refine Follows.bind (quiet_audit _ _) fun _ => ?_
    exact Follows.bind (quiet_issueSession _ _ _) fun _ => Follows.pure _

theorem quiet_claimGrant (input : ClaimInput) (draw : Draw) :
    Follows Quiet (claimGrant deployment input draw) := by
  refine Follows.bind Follows.get fun _ => ?_
  split
  · exact Follows.throw _
  · refine Follows.bind (Follows.require _ _) fun _ => ?_
    refine Follows.ite (fun _ => Follows.require _ _) fun _ => ?_
    refine Follows.bind (Follows.require _ _) fun _ => ?_
    refine Follows.bind (quiet_modify fun _ => ?_) fun _ => ?_
    · exact quiet_same rfl rfl rfl rfl rfl rfl rfl
    · refine Follows.bind (quiet_inCollectors
        (rotations_insertCredential _)) fun _ => ?_
      refine Follows.bind (quiet_updateGrants fun _ => rfl) fun _ => ?_
      exact Follows.require _ _

theorem quiet_revokeAccess (tenantId deviceId : String) (now : Timestamp) :
    Follows (Quiet : Appliance Log → Appliance Log → Prop)
      (revokeAccess tenantId deviceId now) := by
  refine Follows.bind (quiet_inCollectors rotations_updateCredentials)
    fun _ => ?_
  refine Follows.bind (quiet_inCollectors rotations_updateRotations)
    fun _ => ?_
  exact Follows.bind (quiet_updateGrants fun _ => rfl) fun _ => Follows.pure _

theorem quiet_revokeDevice (tenantId deviceId : String) (now : Timestamp) :
    Follows (Quiet : Appliance Log → Appliance Log → Prop)
      (revokeDevice tenantId deviceId now) := by
  have retired : Follows (Quiet : Appliance Log → Appliance Log → Prop)
      (retireDevice tenantId deviceId) := by
    intro before count after ran
    cases ran
    exact quiet_same rfl rfl rfl rfl rfl rfl rfl
  refine Follows.bind retired fun _ => ?_
  exact Follows.ite (fun _ => quiet_revokeAccess _ _ _) fun _ => Follows.pure _

theorem quiet_setPolicy (principal : SessionPrincipal) (telemetryDays : Int)
    (now : Timestamp) :
    Follows Quiet (setPolicy deployment principal telemetryDays now) := by
  refine Follows.bind (Follows.ofExcept _) fun _ => ?_
  refine Follows.bind Follows.get fun _ => ?_
  refine Follows.bind (Follows.ofExcept _) fun _ => ?_
  refine Follows.bind (quiet_modify fun _ => ?_) fun _ => quiet_audit _ _
  exact quiet_same rfl rfl rfl rfl rfl rfl rfl

theorem quiet_applyRetention (principal : SessionPrincipal) (draw : Draw) :
    Follows Quiet (applyRetention deployment principal draw) := by
  have purged : ∀ cutoff,
      Follows (Quiet : Appliance Log → Appliance Log → Prop)
        (purge principal.tenantId cutoff) := by
    intro cutoff before count after ran
    dsimp only [purge] at ran
    split at ran
    · cases ran
    · cases ran
      exact quiet_same rfl rfl rfl rfl rfl rfl rfl
  have inserted : ∀ row,
      Follows (Quiet : Appliance Log → Appliance Log → Prop)
        (insertRun row) := by
    intro row before count after ran
    unfold insertRun at ran
    split at ran
    · cases ran
      exact quiet_same rfl rfl rfl rfl rfl rfl rfl
    · cases ran
  refine Follows.bind Follows.get fun _ => ?_
  refine Follows.bind (Follows.ofExcept _) fun _ => ?_
  refine Follows.bind (purged _) fun _ => ?_
  refine Follows.bind (Follows.require _ _) fun _ => ?_
  exact Follows.bind (inserted _) fun _ => quiet_audit _ _

theorem quiet_collectorTransaction (device : AuthenticatedDevice)
    (draw : Draw) (call : CollectorCall) :
    Follows Quiet (collectorTransaction deployment device draw call) := by
  cases call with
  | pollActions deviceId =>
      refine Follows.bind (Follows.require _ _) fun _ => ?_
      refine Follows.bind (quiet_inResponse ?_) fun _ => Follows.pure _
      intro before dispatched after ran
      have advances : Response.Advances deployment.responses
          (.pollDevice (.ok device) deviceId draw.now)
          (dispatched.map (·.actionId)) before after :=
        Response.pollTransaction_advances _ _ _ ran
      exact kept_of_advances advances
  | submitResult actionId status summary evidence =>
      dsimp only [collectorTransaction]
      split
      · exact Follows.throw _
      · next reported =>
          refine Follows.bind (Follows.ofExcept _) fun _ => ?_
          refine Follows.bind (quiet_inResponse ?_) fun _ => Follows.pure _
          exact kept_of_follows (Response.follows_submitTransaction reported)
  | pollRotation deviceId =>
      refine Follows.bind (Follows.require _ _) fun _ => ?_
      exact Follows.bind (quiet_inCollectors (rotations_statements.poll _ _ _ _))
        fun _ => Follows.pure _
  | acknowledgeRotation =>
      exact Follows.bind (quiet_inCollectors (rotations_statements.acknowledge _ _))
        fun _ => Follows.pure _

theorem quiet_unchanging {Value : Type} {program : Program Log Value}
    (quiet : Follows Quiet program) : Follows Quiet (unchanging program) :=
  Follows.bind quiet fun _ => Follows.pure _

/-- Every operation but the changes of members and of networks is quiet. -/
theorem quiet_transaction (principal : SessionPrincipal) (draw : Draw)
    (operation : Operation)
    (notMember : ∀ input, operation ≠ .updateMember input)
    (notNetwork : ∀ input, operation ≠ .updateNetwork input) :
    Follows Quiet (transaction deployment principal draw operation) := by
  cases operation with
  | addNote | assignCase | transitionCase | recordDisposition =>
      exact quiet_unchanging (quiet_inStore _)
  | createEnrollmentGrant => exact quiet_unchanging (quiet_insertGrant _)
  | rotateDeviceCredential =>
      exact quiet_unchanging (quiet_inCollectors
        (rotations_statements.initiate _ _ _ _))
  | revokeDeviceCredential =>
      exact quiet_unchanging
        (quiet_inCollectors (rotations_statements.revokeCredential _ _ _ _))
  | revokeDevice => exact quiet_unchanging (quiet_revokeDevice _ _ _)
  | updateRetentionPolicy => exact quiet_unchanging (quiet_setPolicy _ _ _)
  | applyRetention => exact quiet_unchanging (quiet_applyRetention _ _)
  | issueHumanInvite =>
      exact Follows.bind (Follows.ofExcept _) fun _ =>
        quiet_unchanging (quiet_issueHumanInvite _ _ _ _)
  | proposeResponse =>
      exact quiet_unchanging (quiet_inResponse
        (kept_of_follows (Response.follows_proposeTransaction _ _ _ _ _ _ _ _)))
  | approveResponse =>
      exact quiet_unchanging (quiet_inResponse
        (kept_of_follows (Response.follows_approveTransaction _ _ _)))
  | rejectResponse =>
      exact quiet_unchanging (quiet_inResponse
        (kept_of_follows (Response.follows_rejectTransaction _ _ _ _)))
  | updateMember input => exact absurd rfl (notMember input)
  | updateNetwork input => exact absurd rfl (notNetwork input)
  | logout => exact quiet_unchanging (quiet_revokeSession _ _)

end Operations

end Access

end ControlForge
