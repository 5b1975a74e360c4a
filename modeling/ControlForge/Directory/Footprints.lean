import ControlForge.Devices.History
import ControlForge.Directory.Calls

/-!
# Which tables a call may change

`Touches` lists tables: every other table is as it was.  Beside the tables there
are properties of rows that last unless they are listed.  One lemma for every
statement of the appliance, and for every program made of them, names what it
touches.
-/

namespace ControlForge

namespace Directory

open Access
open Devices (develops_statements)
open Transaction (Follows)

/-! ## Tables -/

inductive Part where
  | tenants
  | users
  | sessions
  | ownerMemberships
  | platformOwners
  | challenges
  | recoveryCodes
  | invites
  | inviteChallenges
  | grants
  | endpointSessions
  | memberRevisions
  | networkRevisions
  | devices
  | credentials
  | rotations
  | nonces
  | actions
  | audit
  /-- The tables of telemetry, cases and retention. -/
  | rest
  | bootstrapTokens
  | passkeys
  | namespaces
  | accounts
  | accountRevisions
  | accountGrants
  | resetRequests
  | deviceProfiles
  | initialCredentials
  /-- The passkeys with their counters. -/
  | counters
  /-- The identifiers of the sessions, and whose they are. -/
  | sessionIds
  | spentChallenges
  | spentInviteChallenges
  | spentInvites
  | spentCodes
  | spentTokens
  /-- What grants and credentials have been. -/
  | grantHistory
  | credentialHistory
  | deviceKeys
  | spentDevices
deriving DecidableEq

variable {Log : Type}

def SessionRecord.identity (row : SessionRecord) : String × String × String :=
  (row.sessionId, row.tenantId, row.userId)

def ChallengeRow.ended (row : ChallengeRow) : Bool :=
  row.consumedAt.isSome

def InviteChallengeRow.ended (row : InviteChallengeRow) : Bool :=
  row.consumedAt.isSome

def InviteRow.ended (row : InviteRow) : Bool :=
  !row.isOpen

def RecoveryCodeRow.key (row : RecoveryCodeRow) : String × String :=
  (row.tenantId, row.codeHash)

def RecoveryCodeRow.ended (row : RecoveryCodeRow) : Bool :=
  row.usedAt.isSome

def BootstrapTokenRow.ended (row : BootstrapTokenRow) : Bool :=
  row.usedAt.isSome || row.revokedAt.isSome

/-- A grant keeps its terms, its use and its revocation. -/
structure GrantRow.Develops (old new : GrantRow) : Prop where
  tokenId : new.tokenId = old.tokenId
  tenantId : new.tenantId = old.tenantId
  expiresAt : new.expiresAt = old.expiresAt
  used : old.usedAt.isSome = true →
    new.usedAt.isSome = true ∧ new.claimedDeviceId = old.claimedDeviceId
  revoked : old.revokedAt.isSome = true → new.revokedAt.isSome = true

instance : Std.Refl GrantRow.Develops where
  refl _ := ⟨rfl, rfl, rfl, fun isUsed => ⟨isUsed, rfl⟩, id⟩

instance : IsTrans GrantRow GrantRow.Develops where
  trans _ _ _ left right := by
    refine ⟨right.tokenId.trans left.tokenId, right.tenantId.trans left.tenantId,
      right.expiresAt.trans left.expiresAt, fun isUsed => ?_,
      right.revoked ∘ left.revoked⟩
    obtain ⟨stillUsed, sameDevice⟩ := left.used isUsed
    exact ⟨(right.used stillUsed).1, (right.used stillUsed).2.trans sameDevice⟩

/-- A revocation of a grant. -/
theorem GrantRow.Develops.revocation (row : GrantRow) (now : Timestamp) :
    GrantRow.Develops row { row with revokedAt := some now } :=
  ⟨rfl, rfl, rfl, fun isUsed => ⟨isUsed, rfl⟩, fun _ => rfl⟩

/-- A table of the appliance is as it was. -/
def Part.SameIn (before after : Appliance Log) : Part → Prop
  | .tenants => after.tenants = before.tenants
  | .users => after.users = before.users
  | .sessions => after.sessions = before.sessions
  | .ownerMemberships => after.ownerMemberships = before.ownerMemberships
  | .platformOwners => after.platformOwners = before.platformOwners
  | .challenges => after.challenges = before.challenges
  | .recoveryCodes => after.recoveryCodes = before.recoveryCodes
  | .invites => after.invites = before.invites
  | .inviteChallenges => after.inviteChallenges = before.inviteChallenges
  | .grants => after.grants = before.grants
  | .endpointSessions => after.endpointSessions = before.endpointSessions
  | .memberRevisions => after.memberRevisions = before.memberRevisions
  | .networkRevisions => after.networkRevisions = before.networkRevisions
  | .devices => after.devices = before.devices
  | .credentials => after.credentials = before.credentials
  | .rotations => after.rotations = before.rotations
  | .nonces => after.nonces = before.nonces
  | .actions => after.actions = before.actions
  | .audit => after.audit = before.audit
  | .rest =>
      (after.retentionPolicies, after.retentionRuns, after.events, after.jobs,
          after.alerts, after.cases, after.caseAlerts, after.activity,
          after.dispositions) =
        (before.retentionPolicies, before.retentionRuns, before.events,
          before.jobs, before.alerts, before.cases, before.caseAlerts,
          before.activity, before.dispositions)
  | .sessionIds =>
      after.sessions.rows.map SessionRecord.identity =
        before.sessions.rows.map SessionRecord.identity
  | .spentChallenges =>
      Retained (·.challengeId) ChallengeRow.ended before.challenges
        after.challenges
  | .spentInviteChallenges =>
      Retained (·.challengeId) InviteChallengeRow.ended
        before.inviteChallenges after.inviteChallenges
  | .spentInvites =>
      Retained (·.tokenHash) InviteRow.ended before.invites.rows
        after.invites.rows
  | .spentCodes =>
      Retained RecoveryCodeRow.key RecoveryCodeRow.ended before.recoveryCodes
        after.recoveryCodes
  | .grantHistory =>
      Developed GrantRow.Develops before.grants.rows after.grants.rows
  | .credentialHistory =>
      Developed Devices.CredentialRow.Develops before.credentials.rows
        after.credentials.rows
  | .deviceKeys =>
      Lasts (fun rows key => key ∈ rows.map Devices.DeviceRow.key)
        before.devices after.devices
  | .spentDevices =>
      Retained Devices.DeviceRow.key Devices.DeviceRow.ended before.devices
        after.devices
  | _ => True

/-- A table is as it was. -/
def Part.Same (before after : Records Log) : Part → Prop
  | .bootstrapTokens => after.bootstrapTokens = before.bootstrapTokens
  | .passkeys => after.passkeys = before.passkeys
  | .namespaces => after.namespaces = before.namespaces
  | .accounts => after.accounts = before.accounts
  | .accountRevisions => after.accountRevisions = before.accountRevisions
  | .accountGrants => after.accountGrants = before.accountGrants
  | .resetRequests => after.resetRequests = before.resetRequests
  | .deviceProfiles => after.deviceProfiles = before.deviceProfiles
  | .initialCredentials =>
      after.initialCredentials = before.initialCredentials
  | .counters =>
      Lasts (fun rows row => row ∈ rows) before.passkeys.rows
        after.passkeys.rows
  | .spentTokens =>
      Retained (·.tokenHash) BootstrapTokenRow.ended
        before.bootstrapTokens.rows after.bootstrapTokens.rows
  | part => part.SameIn before.toAppliance after.toAppliance

def TouchesIn (parts : List Part) (before after : Appliance Log) : Prop :=
  ∀ part, part ∉ parts → part.SameIn before after

/-- Every table that is not listed is as it was. -/
def Touches (parts : List Part) (before after : Records Log) : Prop :=
  ∀ part, part ∉ parts → part.Same before after

variable {parts wider : List Part}

theorem Part.SameIn.refl (appliance : Appliance Log) (part : Part) :
    part.SameIn appliance appliance := by
  cases part <;>
    first | trivial | exact Lasts.refl _ | exact Retained.refl _ _ _

theorem Part.SameIn.trans {first second third : Appliance Log} {part : Part}
    (left : part.SameIn first second) (right : part.SameIn second third) :
    part.SameIn first third := by
  cases part <;>
    first
    | trivial
    | exact Eq.trans right left
    | exact Lasts.trans left right
    | exact Retained.trans left right

theorem Part.Same.refl (records : Records Log) (part : Part) :
    part.Same records records := by
  cases part <;>
    first | trivial | exact Lasts.refl _ | exact Retained.refl _ _ _

theorem Part.Same.trans {first second third : Records Log} {part : Part}
    (left : part.Same first second) (right : part.Same second third) :
    part.Same first third := by
  cases part <;>
    first
    | exact Eq.trans right left
    | exact Lasts.trans left right
    | exact Retained.trans left right

instance : Std.Refl (TouchesIn parts : Appliance Log → Appliance Log → Prop)
    where
  refl appliance part _ := .refl appliance part

instance : IsTrans (Appliance Log) (TouchesIn parts) where
  trans _ _ _ left right part outside :=
    (left part outside).trans (right part outside)

instance : Std.Refl (Touches parts : Records Log → Records Log → Prop) where
  refl records part _ := .refl records part

instance : IsTrans (Records Log) (Touches parts) where
  trans _ _ _ left right part outside :=
    (left part outside).trans (right part outside)

theorem Touches.mono {before after : Records Log}
    (touches : Touches parts before after) (subset : parts ⊆ wider) :
    Touches wider before after :=
  fun part outside => touches part fun member => outside (subset member)

/-- A program that touches fewer tables. -/
theorem touches_mono {Value : Type} {program : Program Log Value}
    (follows : Follows (Touches parts) program) (subset : parts ⊆ wider) :
    Follows (Touches wider) program :=
  fun _ _ _ ran => (follows _ _ _ ran).mono subset

theorem touches_inAppliance {Value : Type} {program : Access.Program Log Value}
    (follows : Follows (TouchesIn parts) program) :
    Follows (Touches parts) (inAppliance program) := by
  intro before value after ran
  unfold inAppliance at ran
  split at ran
  · next returned appliance succeeded =>
      cases ran
      have touched := follows _ _ _ succeeded
      intro part outside
      have same := touched part outside
      cases part <;>
        first
        | exact same
        | trivial
        | exact Lasts.refl _
        | exact Retained.refl _ _ _
  · cases ran

/-! ## Statements of the appliance -/

theorem touchesIn_insertUser (listed : .users ∈ parts)
    (row : UserRecord) :
    Follows (TouchesIn parts)
      (Access.insertUser row : Access.Program Log _) := by
  intro before value after ran
  unfold Access.insertUser at ran
  split at ran
  · cases ran
    intro part outside
    cases part <;> first | trivial | exact Lasts.refl _ | exact Retained.refl _ _ _
  · cases ran

theorem touchesIn_insertSession (listed : .sessions ∈ parts)
    (identified : .sessionIds ∈ parts) (row : SessionRecord) :
    Follows (TouchesIn parts)
      (insertSession row : Access.Program Log _) := by
  intro before value after ran
  unfold insertSession at ran
  split at ran
  · cases ran
    intro part outside
    cases part <;> first | trivial | exact Lasts.refl _ | exact Retained.refl _ _ _
  · cases ran

theorem touchesIn_insertInvite (listed : .invites ∈ parts)
    (row : InviteRow) :
    Follows (TouchesIn parts)
      (insertInvite row : Access.Program Log _) := by
  intro before value after ran
  unfold insertInvite at ran
  split at ran
  · next inserted =>
      cases ran
      intro part outside
      cases part with
      | spentInvites =>
          refine Retained.tableInsert (fun left right same => ?_) inserted
          exact decide_eq_true (.inr same)
      | _ => first | trivial | exact Lasts.refl _ | exact Retained.refl _ _ _
  · cases ran

theorem touchesIn_insertGrant (listed : .grants ∈ parts)
    (row : GrantRow) :
    Follows (TouchesIn parts)
      (insertGrant row : Access.Program Log _) := by
  intro before value after ran
  unfold insertGrant at ran
  split at ran
  · next inserted =>
      cases ran
      intro part outside
      cases part with
      | grantHistory =>
          change Developed _ _ _
          rw [(Table.insert_eq_some.mp inserted).2]
          exact Developed.append _
      | _ =>
          first | trivial | exact Lasts.refl _ | exact Retained.refl _ _ _
  · cases ran

theorem touchesIn_updateTenants (listed : .tenants ∈ parts)
    (selected : TenantRecord → Bool)
    (change : TenantRecord → TenantRecord) :
    Follows (TouchesIn parts)
      (updateTenants selected change : Access.Program Log _) := by
  intro before value after ran
  unfold updateTenants at ran
  split at ran
  · cases ran
    intro part outside
    cases part <;> first | trivial | exact Lasts.refl _ | exact Retained.refl _ _ _
  · cases ran

theorem touchesIn_updateUsers (listed : .users ∈ parts)
    (selected : UserRecord → Bool)
    (change : UserRecord → UserRecord) :
    Follows (TouchesIn parts)
      (updateUsers selected change : Access.Program Log _) := by
  intro before value after ran
  unfold updateUsers at ran
  split at ran
  · cases ran
    intro part outside
    cases part <;> first | trivial | exact Lasts.refl _ | exact Retained.refl _ _ _
  · cases ran

theorem touchesIn_revokeSessions (listed : .sessions ∈ parts)
    (selected : SessionRecord → Bool)
    (now : Timestamp) :
    Follows (TouchesIn parts)
      (revokeSessions selected now : Access.Program Log _) := by
  intro before value after ran
  unfold revokeSessions at ran
  split at ran
  · next updated =>
      cases ran
      intro part outside
      cases part with
      | sessionIds =>
          have rows := (Table.updateWhere_eq_ok.mp updated).2.1
          change List.map _ _ = _
          rw [rows, List.map_map]
          refine List.map_congr_left fun row _ => ?_
          simp only [Function.comp, Table.applyWhere]
          split <;> rfl
      | _ => first | trivial | exact Lasts.refl _ | exact Retained.refl _ _ _
  · cases ran

theorem touchesIn_closeInvites (listed : .invites ∈ parts)
    (selected : InviteRow → Bool)
    (change : InviteRow → InviteRow)
    (keeps : ∀ row, (change row).tokenHash = row.tokenHash) :
    Follows (TouchesIn parts)
      (closeInvites selected change : Access.Program Log _) := by
  intro before value after ran
  unfold closeInvites at ran
  split at ran
  · next updated =>
      cases ran
      intro part outside
      cases part with
      | spentInvites =>
          have rows := (Table.updateWhere_eq_ok.mp updated).2.1
          change Retained _ _ _ _
          rw [rows]
          refine Retained.applyWhere fun row isSelected => ⟨keeps row, ?_⟩
          intro isEnded
          have isOpen := (Bool.and_eq_true_iff.mp isSelected).2
          rw [InviteRow.ended, isOpen] at isEnded
          cases isEnded
      | _ => first | trivial | exact Lasts.refl _ | exact Retained.refl _ _ _
  · cases ran

theorem touchesIn_revokeInvites (listed : .invites ∈ parts)
    (selected : InviteRow → Bool) (now : Timestamp) :
    Follows (TouchesIn parts)
      (revokeInvites selected now : Access.Program Log _) :=
  touchesIn_closeInvites listed _ _ fun _ => rfl

theorem touchesIn_updateGrants (listed : .grants ∈ parts)
    (selected : GrantRow → Bool)
    (change : GrantRow → GrantRow)
    (develops : ∀ row, (selected row && row.revokedAt.isNone) = true →
      GrantRow.Develops row (change row)) :
    Follows (TouchesIn parts)
      (updateGrants selected change : Access.Program Log _) := by
  intro before value after ran
  unfold updateGrants at ran
  split at ran
  · next updated =>
      cases ran
      intro part outside
      cases part with
      | grantHistory =>
          change Developed _ _ _
          rw [(Table.updateWhere_eq_ok.mp updated).2.1]
          exact Developed.applyWhere develops
      | _ =>
          first | trivial | exact Lasts.refl _ | exact Retained.refl _ _ _
  · cases ran

theorem touchesIn_revokeGrants (listed : .grants ∈ parts)
    (selected : GrantRow → Bool) (now : Timestamp) :
    Follows (TouchesIn parts)
      (revokeGrants selected now : Access.Program Log _) :=
  touchesIn_updateGrants listed _ _ fun row _ => .revocation row now

theorem touchesIn_consumeChallenges (listed : .challenges ∈ parts)
    (selected : ChallengeRow → Bool)
    (now : Timestamp) :
    Follows (TouchesIn parts)
      (consumeChallenges selected now : Access.Program Log _) := by
  intro before value after ran
  cases ran
  intro part outside
  cases part with
  | spentChallenges => exact Retained.applyWhere fun _ _ => ⟨rfl, fun _ => rfl⟩
  | _ => first | trivial | exact Lasts.refl _ | exact Retained.refl _ _ _

theorem touchesIn_consumeInviteChallenge (listed : .inviteChallenges ∈ parts)
    (challengeId : String)
    (now : Timestamp) :
    Follows (TouchesIn parts)
      (consumeInviteChallenge challengeId now : Access.Program Log _) := by
  intro before value after ran
  cases ran
  intro part outside
  cases part with
  | spentInviteChallenges =>
      exact Retained.applyWhere fun _ _ => ⟨rfl, fun _ => rfl⟩
  | _ => first | trivial | exact Lasts.refl _ | exact Retained.refl _ _ _

theorem touchesIn_useRecoveryCode (listed : .recoveryCodes ∈ parts)
    (code : RecoveryCodeRow)
    (now : Timestamp) :
    Follows (TouchesIn parts)
      (useRecoveryCode code now : Access.Program Log _) := by
  intro before value after ran
  cases ran
  intro part outside
  cases part with
  | spentCodes => exact Retained.applyWhere fun _ _ => ⟨rfl, fun _ => rfl⟩
  | _ => first | trivial | exact Lasts.refl _ | exact Retained.refl _ _ _

theorem touchesIn_deleteEndpointSessions (listed : .endpointSessions ∈ parts)
    (tenantId : String) :
    Follows (TouchesIn parts)
      (deleteEndpointSessions tenantId : Access.Program Log _) := by
  intro before value after ran
  cases ran
  intro part outside
  cases part <;> first | trivial | exact Lasts.refl _ | exact Retained.refl _ _ _

theorem touchesIn_bumpMember (listed : .memberRevisions ∈ parts)
    (tenantId userId : String)
    (revision : Int) :
    Follows (TouchesIn parts)
      (bumpMember tenantId userId revision : Access.Program Log _) := by
  intro before value after ran
  cases ran
  intro part outside
  cases part <;> first | trivial | exact Lasts.refl _ | exact Retained.refl _ _ _

theorem touchesIn_bumpNetwork (listed : .networkRevisions ∈ parts)
    (tenantId : String)
    (revision : Int) :
    Follows (TouchesIn parts)
      (bumpNetwork tenantId revision : Access.Program Log _) := by
  intro before value after ran
  cases ran
  intro part outside
  cases part <;> first | trivial | exact Lasts.refl _ | exact Retained.refl _ _ _

theorem touchesIn_insertDevice (listed : .devices ∈ parts)
    (spent : .spentDevices ∈ parts) (tenantId deviceId : String) :
    Follows (TouchesIn parts)
      (insertDevice tenantId deviceId : Access.Program Log _) := by
  intro before value after ran
  cases ran
  intro part outside
  cases part with
  | deviceKeys =>
      intro key member
      change key ∈ List.map _ (_ ++ _)
      rw [List.map_append]
      exact List.mem_append_left _ member
  | _ => first | trivial | exact Lasts.refl _ | exact Retained.refl _ _ _

theorem touchesIn_retireDevice (listed : .devices ∈ parts)
    (tenantId deviceId : String) :
    Follows (TouchesIn parts)
      (retireDevice tenantId deviceId : Access.Program Log _) := by
  intro before value after ran
  cases ran
  intro part outside
  cases part with
  | deviceKeys =>
      intro key member
      obtain ⟨row, stored, rfl⟩ := List.mem_map.mp member
      refine List.mem_map.mpr ⟨_, List.mem_map_of_mem stored, ?_⟩
      simp only [Table.applyWhere]
      split <;> rfl
  | spentDevices =>
      refine Retained.applyWhere fun row _ => ⟨rfl, fun _ => ?_⟩
      simp [Devices.DeviceRow.ended]
  | _ => first | trivial | exact Lasts.refl _ | exact Retained.refl _ _ _

theorem touchesIn_audit (listed : .audit ∈ parts) (append : AuditAppend Log)
    (entry : AuditRecord) :
    Follows (TouchesIn parts) (Access.audit append entry) := by
  intro before value after ran
  unfold Access.audit at ran
  split at ran
  · cases ran
    intro part outside
    cases part <;> first | trivial | exact Lasts.refl _ | exact Retained.refl _ _ _
  · cases ran

theorem touchesIn_inResponse {Value : Type} (actions : .actions ∈ parts)
    (audit : .audit ∈ parts) (program : Response.Program Log Value) :
    Follows (TouchesIn parts) (inResponse program) := by
  intro before value after ran
  unfold inResponse at ran
  split at ran
  · cases ran
    intro part outside
    cases part <;> first | trivial | exact Lasts.refl _ | exact Retained.refl _ _ _
  · cases ran

/-- A program of the device services. -/
theorem touchesIn_inCollectors {Value : Type} (devices : .devices ∈ parts)
    (credentials : .credentials ∈ parts) (rotations : .rotations ∈ parts)
    (nonces : .nonces ∈ parts) {program : Devices.RotationProgram Value}
    (develops : Follows Devices.Database.Develops program) :
    Follows (TouchesIn parts) (inCollectors program : Access.Program Log _) := by
  intro before value after ran
  unfold inCollectors at ran
  split at ran
  · next succeeded =>
      cases ran
      have developed := develops _ _ _ succeeded
      intro part outside
      cases part with
      | credentialHistory => exact developed.credentials
      | deviceKeys => exact developed.keys
      | spentDevices => exact developed.devices
      | _ => first | trivial | exact Lasts.refl _ | exact Retained.refl _ _ _
  · cases ran

/-! ## Programs of the appliance -/

section Appliance

variable (deployment : Deployment Log)

theorem touchesIn_requireCurrentCapability (principal : SessionPrincipal)
    (capability : Capability) (now : Timestamp) :
    Follows (TouchesIn parts)
      (requireCurrentCapability principal capability now :
        Access.Program Log _) :=
  Follows.bind Follows.get fun _ => Follows.ofExcept _

theorem touchesIn_issueSession (listed : .sessions ∈ parts)
    (identified : .sessionIds ∈ parts) (tenantId userId : String) (draw : Access.Draw) :
    Follows (TouchesIn parts)
      (Access.issueSession deployment tenantId userId draw) := by
  refine Follows.bind Follows.get fun _ => ?_
  refine Follows.bind (Follows.require _ _) fun _ => ?_
  exact touchesIn_insertSession listed identified _

theorem touchesIn_issueHumanInvite (listed : .invites ∈ parts)
    (audited : .audit ∈ parts) (principal : SessionPrincipal)
    (input : InviteInput) (email : String) (draw : Access.Draw) :
    Follows (TouchesIn parts)
      (issueHumanInvite deployment principal input email draw) := by
  refine Follows.bind
    (touchesIn_requireCurrentCapability principal _ _) fun _ => ?_
  refine Follows.bind Follows.get fun _ => ?_
  refine Follows.bind (Follows.require _ _) fun _ => ?_
  refine Follows.bind (touchesIn_insertInvite listed _) fun _ => ?_
  exact touchesIn_audit audited _ _

theorem touchesIn_requireIssuer (tenantId inviteId : String) :
    Follows (TouchesIn parts)
      (requireIssuer tenantId inviteId : Access.Program Log _) := by
  refine Follows.bind Follows.get fun appliance => ?_
  split
  · exact Follows.throw _
  · exact Follows.bind (Follows.require _ _) fun _ => Follows.pure _

theorem touchesIn_recoverSession (codes : .recoveryCodes ∈ parts)
    (sessions : .sessions ∈ parts) (identified : .sessionIds ∈ parts)
    (tenantSlug email recoveryCode : String)
    (draw : Access.Draw) :
    Follows (TouchesIn parts)
      (recoverSession deployment tenantSlug email recoveryCode draw) := by
  refine Follows.bind (Follows.ofExcept _) fun _ => ?_
  refine Follows.bind Follows.get fun _ => ?_
  split
  · exact Follows.throw _
  · refine Follows.bind (touchesIn_useRecoveryCode codes _ _) fun _ => ?_
    refine Follows.bind
      (touchesIn_issueSession deployment sessions identified _ _ _) fun _ => ?_
    exact Follows.pure _

theorem touchesIn_requireOwner (principal : SessionPrincipal)
    (now : Timestamp) :
    Follows (TouchesIn parts)
      (requireOwner principal now : Access.Program Log _) := by
  refine Follows.bind
    (touchesIn_requireCurrentCapability principal _ _) fun _ => ?_
  exact Follows.bind Follows.get fun _ => Follows.require _ _

theorem touchesIn_suspendNetwork
    (listed : [.sessions, .endpointSessions, .challenges, .invites, .grants,
      .actions, .audit] ⊆ parts) (tenantId : String) (now : Timestamp) :
    Follows (TouchesIn parts)
      (suspendNetwork tenantId now : Access.Program Log _) := by
  simp only [List.cons_subset] at listed
  obtain ⟨sessions, endpointSessions, challenges, invites, grants, actions,
    audit, -⟩ := listed
  refine Follows.bind (touchesIn_revokeSessions sessions _ _) fun _ => ?_
  refine Follows.bind
    (touchesIn_deleteEndpointSessions endpointSessions _) fun _ => ?_
  refine Follows.bind (touchesIn_consumeChallenges challenges _ _) fun _ => ?_
  refine Follows.bind (touchesIn_revokeInvites invites _ _) fun _ => ?_
  refine Follows.bind (touchesIn_revokeGrants grants _ _) fun _ => ?_
  refine Follows.bind (touchesIn_inResponse actions audit _) fun _ => ?_
  exact Follows.pure _

/-- The tables of `update_network`. -/
@[simp] def networkTables : List Part :=
  [.sessions, .endpointSessions, .challenges, .invites, .grants, .actions,
    .audit, .tenants, .networkRevisions]

theorem touchesIn_updateNetwork (principal : SessionPrincipal)
    (input : NetworkUpdate) (now : Timestamp) :
    Follows (TouchesIn networkTables)
      (Access.updateNetwork deployment principal input now) := by
  have audited : Part.audit ∈ networkTables := by simp [networkTables]
  refine Follows.bind (Follows.require _ _) fun _ => ?_
  refine Follows.bind (touchesIn_requireOwner principal now) fun _ => ?_
  refine Follows.bind ?_ fun previous => ?_
  · refine Follows.bind Follows.get fun _ => ?_
    split
    · exact Follows.throw _
    · refine Follows.bind (Follows.require _ _) fun _ => ?_
      exact Follows.bind (Follows.require _ _) fun _ => Follows.pure _
  refine Follows.ite (fun _ => Follows.pure _) fun _ => ?_
  refine Follows.bind ?_ fun revoked => ?_
  · refine Follows.ite (fun _ => ?_) fun _ => Follows.pure _
    exact (touchesIn_suspendNetwork (by simp) _ _).map _
  refine Follows.bind
    (touchesIn_updateTenants (by simp) _ _) fun _ => ?_
  refine Follows.bind
    (touchesIn_bumpNetwork (by simp) _ _) fun _ => ?_
  refine Follows.bind (touchesIn_audit audited _ _) fun _ => ?_
  refine Follows.ite (fun _ => ?_) fun _ => Follows.pure _
  exact Follows.bind (touchesIn_audit audited _ _) fun _ => Follows.pure _

/-- The tables of `update_member`. -/
@[simp] def memberTables : List Part :=
  [.users, .sessions, .invites, .grants, .actions, .audit, .challenges,
    .memberRevisions]

theorem touchesIn_changeMember (tenantId : String) (input : MemberUpdate)
    (now : Timestamp) :
    Follows (TouchesIn memberTables)
      (changeMember tenantId input now : Access.Program Log _) := by
  refine Follows.bind
    (touchesIn_updateUsers (by simp) _ _) fun _ => ?_
  refine Follows.bind
    (touchesIn_revokeSessions (by simp) _ _) fun _ => ?_
  refine Follows.bind
    (touchesIn_revokeInvites (by simp) _ _) fun _ => ?_
  refine Follows.bind
    (touchesIn_revokeGrants (by simp) _ _) fun _ => ?_
  refine Follows.bind (touchesIn_inResponse (by simp)
    (by simp) _) fun _ => ?_
  refine Follows.bind
    (touchesIn_consumeChallenges (by simp) _ _) fun _ => ?_
  exact Follows.pure _

theorem touchesIn_updateMember (principal : SessionPrincipal)
    (input : MemberUpdate) (now : Timestamp) :
    Follows (TouchesIn memberTables)
      (Access.updateMember deployment principal input now) := by
  refine Follows.bind (Follows.require _ _) fun _ => ?_
  refine Follows.bind
    (touchesIn_requireCurrentCapability principal _ _) fun _ => ?_
  refine Follows.bind ?_ fun target => ?_
  · refine Follows.bind Follows.get fun _ => ?_
    refine Follows.bind (Follows.require _ _) fun _ => ?_
    split
    · exact Follows.throw _
    · refine Follows.bind (Follows.require _ _) fun _ => ?_
      exact Follows.bind (Follows.require _ _) fun _ => Follows.pure _
  refine Follows.ite (fun _ => Follows.pure _) fun _ => ?_
  refine Follows.bind (touchesIn_changeMember _ _ _) fun revoked => ?_
  refine Follows.bind
    (touchesIn_bumpMember (by simp) _ _ _) fun _ => ?_
  refine Follows.bind
    (touchesIn_audit (by simp) _ _) fun _ => ?_
  exact Follows.pure _

/-- The tables of the device services. -/
@[simp] def collectorTables : List Part :=
  [.devices, .credentials, .rotations, .nonces]

theorem touchesIn_collectors {Value : Type}
    (listed : collectorTables ⊆ parts)
    {program : Devices.RotationProgram Value}
    (develops : Follows Devices.Database.Develops program) :
    Follows (TouchesIn parts) (inCollectors program : Access.Program Log _) := by
  simp only [collectorTables, List.cons_subset] at listed
  obtain ⟨devices, credentials, rotations, nonces, -⟩ := listed
  exact touchesIn_inCollectors devices credentials rotations nonces develops

theorem touchesIn_revokeAccess (tenantId deviceId : String) (now : Timestamp) :
    Follows (TouchesIn (.grants :: collectorTables))
      (revokeAccess tenantId deviceId now : Access.Program Log _) := by
  refine Follows.bind (touchesIn_collectors (by simp)
    (develops_statements.updateCredentials _ _ fun _ _ => ?_)) fun _ => ?_
  · exact ⟨rfl, rfl, rfl, rfl, rfl, rfl, rfl, fun _ => rfl⟩
  refine Follows.bind (touchesIn_collectors (by simp)
    (develops_statements.updateRotations _ _)) fun _ => ?_
  refine Follows.bind (touchesIn_revokeGrants (by simp) _ _) fun _ => ?_
  exact Follows.pure _

theorem touchesIn_revokeDevice (tenantId deviceId : String) (now : Timestamp) :
    Follows (TouchesIn (.grants :: collectorTables))
      (revokeDevice tenantId deviceId now : Access.Program Log _) := by
  refine Follows.bind (touchesIn_retireDevice (by simp) _ _)
    fun count => ?_
  exact Follows.ite (fun _ => touchesIn_revokeAccess _ _ _)
    fun _ => Follows.pure _

theorem touchesIn_collectorTransaction
    (device : Devices.AuthenticatedDevice) (draw : Access.Draw)
    (call : CollectorCall) :
    Follows (TouchesIn (.actions :: .audit :: collectorTables))
      (collectorTransaction deployment device draw call) := by
  have listed : collectorTables ⊆ .actions :: .audit :: collectorTables := by
    simp
  cases call with
  | pollActions deviceId =>
      refine Follows.bind (Follows.require _ _) fun _ => ?_
      refine Follows.bind (touchesIn_inResponse (by simp) (by simp) _)
        fun _ => ?_
      exact Follows.pure _
  | submitResult actionId status summary evidence =>
      unfold collectorTransaction
      dsimp only
      split
      · exact Follows.throw _
      · refine Follows.bind (Follows.ofExcept _) fun _ => ?_
        refine Follows.bind (touchesIn_inResponse (by simp) (by simp) _)
          fun _ => ?_
        exact Follows.pure _
  | pollRotation deviceId =>
      refine Follows.bind (Follows.require _ _) fun _ => ?_
      refine Follows.bind (touchesIn_collectors listed
        (develops_statements.poll _ _ _ _)) fun _ => ?_
      exact Follows.pure _
  | acknowledgeRotation =>
      refine Follows.bind (touchesIn_collectors listed
        (develops_statements.acknowledge _ _)) fun _ => ?_
      exact Follows.pure _

end Appliance

end Directory

end ControlForge
