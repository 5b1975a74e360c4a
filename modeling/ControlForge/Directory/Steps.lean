import ControlForge.Directory.Footprints

/-!
# The tables the transactions touch

The footprint of every statement of the directory and of every transaction that
is made of them.
-/

namespace ControlForge

namespace Directory

open Access
open Devices (develops_statements)
open Transaction (Follows)

variable {Log : Type} {parts : List Part}

/-! ## Statements -/

theorem touches_require (condition : Prop) [Decidable condition]
    (failure : AccessError) :
    Follows (Touches parts) (require condition failure : Program Log Unit) :=
  Follows.require condition _

theorem touches_audit (listed : .audit ∈ parts) (append : AuditAppend Log)
    (entry : AuditRecord) :
    Follows (Touches parts) (audit append entry) :=
  touches_inAppliance (touchesIn_audit listed append entry)

theorem touches_insertInto {Row : Type} {clash : Row → Row → Bool}
    {table : Records Log → Table Row clash}
    {store : Records Log → Table Row clash → Records Log} {row : Row}
    (stores : ∀ records rows, (table records).insert row = some rows →
      Touches parts records (store records rows))
    (failure : DirectoryError) :
    Follows (Touches parts) (insertInto table store failure row) := by
  intro before value after ran
  unfold insertInto at ran
  split at ran
  · next inserted =>
      cases ran
      exact stores _ _ inserted
  · cases ran

theorem touches_updateIn {Row : Type} {clash : Row → Row → Bool}
    {table : Records Log → Table Row clash}
    {store : Records Log → Table Row clash → Records Log}
    {selected : Row → Bool} {change : Row → Row}
    (stores : ∀ records rows,
      rows.rows = (table records).rows.map (Table.applyWhere selected change) →
      Touches parts records (store records rows))
    (failure : DirectoryError) :
    Follows (Touches parts) (updateIn table store failure selected change) := by
  intro before value after ran
  unfold updateIn at ran
  split at ran
  · next updated =>
      cases ran
      exact stores _ _ (Table.updateWhere_eq_ok.mp updated).2.1
  · cases ran

theorem touches_replaceFailure {Value : Type} {program : Program Log Value}
    (follows : Follows (Touches parts) program) (failure : AccessError) :
    Follows (Touches parts) (replaceFailure program failure) := by
  intro before value after ran
  unfold replaceFailure at ran
  split at ran
  · next result succeeded =>
      cases ran
      exact follows _ _ _ succeeded
  · cases ran

/-- A write to one listed table. -/
theorem touches_set {part : Part} {before after : Records Log}
    (listed : part ∈ parts)
    (others : ∀ other, other ≠ part → other.Same before after) :
    Touches parts before after :=
  fun other outside => others other fun same => outside (same ▸ listed)

theorem touches_updateBootstrapTokens (listed : .bootstrapTokens ∈ parts)
    (selected : BootstrapTokenRow → Bool)
    (change : BootstrapTokenRow → BootstrapTokenRow)
    (retains : ∀ row,
      Retains (·.tokenHash) BootstrapTokenRow.ended row (change row)) :
    Follows (Touches parts)
      (updateBootstrapTokens selected change : Program Log Nat) := by
  refine touches_updateIn (fun records rows updated => ?_) _
  refine touches_set listed fun other different => ?_
  cases other with
  | spentTokens =>
      change Retained _ _ _ rows.rows
      rw [updated]
      exact Retained.applyWhere fun row _ => retains row
  | _ => first | trivial | exact Lasts.refl _ | exact Retained.refl _ _ _

theorem touches_requireUser (tenantId userId : String) :
    Follows (Touches parts)
      (requireUser tenantId userId : Program Log Unit) :=
  Follows.bind Follows.get fun _ => touches_require _ _

theorem touches_requireNoProjection (tenantId userId : String) :
    Follows (Touches parts)
      (requireNoProjection tenantId userId : Program Log Unit) :=
  Follows.bind Follows.get fun _ => touches_require _ _

theorem touches_insertPasskey (listed : .passkeys ∈ parts) (row : PasskeyRow) :
    Follows (Touches parts) (insertPasskey row : Program Log Unit) := by
  refine Follows.bind (touches_requireNoProjection _ _) fun _ => ?_
  refine Follows.bind ?_ fun _ => touches_requireUser _ _
  refine touches_insertInto (fun records rows inserted => ?_) _
  refine touches_set listed fun other different => ?_
  cases other with
  | counters =>
      intro stored member
      change stored ∈ rows.rows
      rw [(Table.insert_eq_some.mp inserted).2]
      exact List.mem_append_left _ member
  | _ => first | trivial | exact Lasts.refl _ | exact Retained.refl _ _ _

theorem touches_updatePasskeys (listed : .passkeys ∈ parts)
    (counted : .counters ∈ parts) (selected : PasskeyRow → Bool)
    (change : PasskeyRow → PasskeyRow) :
    Follows (Touches parts)
      (updatePasskeys selected change : Program Log Nat) := by
  refine touches_updateIn (fun records rows _ => ?_) _
  intro part outside
  cases part <;> first | trivial | exact Lasts.refl _ | exact Retained.refl _ _ _

/-- A write that a condition on the records guards. -/
theorem touches_write {condition : Records Log → Prop}
    [∀ records, Decidable (condition records)] {failure : DirectoryError}
    {write : Records Log → Records Log}
    (writes : ∀ records, condition records →
      Touches parts records (write records)) :
    Follows (Touches parts)
      (do
        let records ← get
        Transaction.require (condition records) failure
        set (write records) : Program Log Unit) := by
  intro before value after ran
  obtain ⟨_, _, read, guarded⟩ := Transaction.run_bind_ok.mp ran
  cases read
  obtain ⟨_, _, required, written⟩ := Transaction.run_bind_ok.mp guarded
  obtain ⟨holds, rfl⟩ := Transaction.run_require_ok.mp required
  cases written
  exact writes _ holds

/-- The same, with what comes after the write. -/
theorem touches_writeThen {condition : Records Log → Prop}
    [∀ records, Decidable (condition records)] {failure : DirectoryError}
    {write : Records Log → Records Log} {Value : Type}
    {rest : Program Log Value}
    (writes : ∀ records, condition records →
      Touches parts records (write records))
    (follows : Follows (Touches parts) rest) :
    Follows (Touches parts)
      (do
        let records ← get
        Transaction.require (condition records) failure
        set (write records)
        rest) := by
  intro before value after ran
  obtain ⟨_, _, read, guarded⟩ := Transaction.run_bind_ok.mp ran
  cases read
  obtain ⟨_, _, required, writing⟩ := Transaction.run_bind_ok.mp guarded
  obtain ⟨holds, rfl⟩ := Transaction.run_require_ok.mp required
  obtain ⟨_, _, written, finished⟩ := Transaction.run_bind_ok.mp writing
  cases written
  exact IsTrans.trans _ _ _ (writes _ holds) (follows _ _ _ finished)

theorem touches_insertChallenge (listed : .challenges ∈ parts)
    (row : ChallengeRow) :
    Follows (Touches parts) (insertChallenge row : Program Log Unit) := by
  refine touches_writeThen (fun records isNew => ?_) ?_
  · refine touches_set listed fun other different => ?_
    cases other with
    | spentChallenges =>
        refine Retained.insert fun stored member same => ?_
        have isOther := List.any_eq_false.mp isNew stored member
        exact isOther (decide_eq_true same)
    | _ => first | trivial | exact Lasts.refl _ | exact Retained.refl _ _ _
  · split
    · exact touches_requireUser _ _
    · exact Follows.pure _

theorem touches_insertInviteChallenge (listed : .inviteChallenges ∈ parts)
    (row : InviteChallengeRow) :
    Follows (Touches parts) (insertInviteChallenge row : Program Log Unit) := by
  refine touches_write fun records isNew => ?_
  refine touches_set listed fun other different => ?_
  cases other with
  | spentInviteChallenges =>
      refine Retained.insert fun stored member same => ?_
      have isOther := List.any_eq_false.mp isNew stored member
      exact isOther (decide_eq_true same)
  | _ => first | trivial | exact Lasts.refl _ | exact Retained.refl _ _ _

theorem touches_insertRecoveryCode (listed : .recoveryCodes ∈ parts)
    (row : RecoveryCodeRow) :
    Follows (Touches parts) (insertRecoveryCode row : Program Log Unit) := by
  refine Follows.bind (touches_requireNoProjection _ _) fun _ => ?_
  refine touches_write fun records isNew => ?_
  refine touches_set listed fun other different => ?_
  cases other with
  | spentCodes =>
      refine Retained.insert fun stored member same => ?_
      have isOther := List.any_eq_false.mp isNew stored member
      exact isOther (decide_eq_true (Prod.mk.inj same))
  | _ => first | trivial | exact Lasts.refl _ | exact Retained.refl _ _ _

theorem touches_insertTenant (listed : .tenants ∈ parts) (row : TenantRecord) :
    Follows (Touches parts) (insertTenant row : Program Log Unit) := by
  refine touches_insertInto (fun records rows _ => ?_) _
  refine touches_set listed fun other different => ?_
  cases other <;>
    first | trivial | exact Lasts.refl _ | exact Retained.refl _ _ _

theorem touches_insertOwner (listed : .platformOwners ∈ parts)
    (row : PlatformOwnerRow) :
    Follows (Touches parts) (insertOwner row : Program Log Unit) := by
  refine touches_writeThen (fun records _ => ?_) (touches_requireUser _ _)
  refine touches_set listed fun other different => ?_
  cases other <;>
    first | trivial | exact Lasts.refl _ | exact Retained.refl _ _ _

theorem touches_insertMembership (listed : .ownerMemberships ∈ parts)
    (row : OwnerMembershipRow) :
    Follows (Touches parts) (insertMembership row : Program Log Unit) := by
  refine touches_writeThen (fun records _ => ?_) ?_
  · refine touches_set listed fun other different => ?_
    cases other <;>
    first | trivial | exact Lasts.refl _ | exact Retained.refl _ _ _
  · exact Follows.bind (touches_requireUser _ _)
      fun _ => touches_requireUser _ _

theorem touches_insertUser (listed : .users ∈ parts) (row : UserRecord) :
    Follows (Touches parts)
      (inAppliance (Access.insertUser row) : Program Log Unit) :=
  touches_inAppliance (touchesIn_insertUser listed row)

theorem touches_insertNamespace (listed : .namespaces ∈ parts)
    (row : NamespaceRow) :
    Follows (Touches parts) (insertNamespace row : Program Log Unit) := by
  refine touches_insertInto (fun records rows _ => ?_) _
  refine touches_set listed fun other different => ?_
  cases other <;>
    first | trivial | exact Lasts.refl _ | exact Retained.refl _ _ _

theorem touches_insertAccount (listed : .accounts ∈ parts) (row : AccountRow) :
    Follows (Touches parts) (insertAccount row : Program Log Unit) := by
  refine touches_insertInto (fun records rows _ => ?_) _
  refine touches_set listed fun other different => ?_
  cases other <;>
    first | trivial | exact Lasts.refl _ | exact Retained.refl _ _ _

theorem touches_updateAccounts (listed : .accounts ∈ parts)
    (selected : AccountRow → Bool) (change : AccountRow → AccountRow) :
    Follows (Touches parts)
      (updateAccounts selected change : Program Log Nat) := by
  refine touches_updateIn (fun records rows _ => ?_) _
  refine touches_set listed fun other different => ?_
  cases other <;>
    first | trivial | exact Lasts.refl _ | exact Retained.refl _ _ _

theorem touches_insertAccountGrant (listed : .accountGrants ∈ parts)
    (row : AccountGrantRow) :
    Follows (Touches parts) (insertAccountGrant row : Program Log Unit) := by
  refine touches_insertInto (fun records rows _ => ?_) _
  refine touches_set listed fun other different => ?_
  cases other <;>
    first | trivial | exact Lasts.refl _ | exact Retained.refl _ _ _

theorem touches_updateResetRequests (listed : .resetRequests ∈ parts)
    (selected : ResetRequestRow → Bool)
    (change : ResetRequestRow → ResetRequestRow) :
    Follows (Touches parts)
      (updateResetRequests selected change : Program Log Nat) := by
  refine touches_updateIn (fun records rows _ => ?_) _
  refine touches_set listed fun other different => ?_
  cases other <;>
    first | trivial | exact Lasts.refl _ | exact Retained.refl _ _ _

theorem touches_deleteSessions (listed : .endpointSessions ∈ parts)
    (selected : EndpointSessionRow → Bool) :
    Follows (Touches parts) (deleteSessions selected : Program Log Nat) := by
  intro before value after ran
  cases ran
  refine touches_set listed fun other different => ?_
  cases other <;>
    first | trivial | exact Lasts.refl _ | exact Retained.refl _ _ _

theorem touches_revokeTokens (listed : .grants ∈ parts)
    (tenantId accountId : String) (selected : GrantRow → Bool)
    (now : Timestamp) :
    Follows (Touches parts)
      (revokeTokens tenantId accountId selected now : Program Log Nat) := by
  refine Follows.bind Follows.get fun records => ?_
  refine touches_updateIn (fun records rows updated => ?_) _
  refine touches_set listed fun other different => ?_
  cases other with
  | grantHistory =>
      change Developed _ _ rows.rows
      rw [updated]
      exact Developed.applyWhere fun row _ => .revocation row now
  | _ => first | trivial | exact Lasts.refl _ | exact Retained.refl _ _ _

theorem touches_modify {write : Records Log → Records Log}
    (writes : ∀ records, Touches parts records (write records)) :
    Follows (Touches parts) (modify write : Program Log Unit) := by
  intro before value after ran
  cases ran
  exact writes _

theorem touches_bumpAccount (listed : .accountRevisions ∈ parts)
    (tenantId accountId : String) (revision : Int) :
    Follows (Touches parts)
      (bumpAccount tenantId accountId revision : Program Log Unit) := by
  refine touches_modify fun records => ?_
  refine touches_set listed fun other different => ?_
  cases other <;>
    first | trivial | exact Lasts.refl _ | exact Retained.refl _ _ _

theorem touches_adminIn (principal : SessionPrincipal) (now : Timestamp) :
    Follows (Touches parts)
      (requireAdminIn principal now : Program Log Unit) :=
  touches_inAppliance (touchesIn_requireCurrentCapability principal _ now)

theorem touches_ofExcept {Value : Type} (result : Except AccessError Value) :
    Follows (Touches parts)
      (inAppliance (Transaction.ofExcept result) : Program Log Value) :=
  touches_inAppliance (Follows.ofExcept result)

section Transactions

variable (services : Services Log)

/-! ## Ceremonies -/

theorem touches_consumeChallenge (listed : .challenges ∈ parts)
    (challengeId : String) (now : Timestamp) :
    Follows (Touches parts)
      (consumeChallenge challengeId now : Program Log Unit) := by
  refine Follows.bind (touches_inAppliance
    (touchesIn_consumeChallenges listed _ _)) fun _ => ?_
  exact touches_require _ _

theorem touches_issueSession (listed : .sessions ∈ parts)
    (identified : .sessionIds ∈ parts) (tenantId userId : String)
    (draw : Draw) :
    Follows (Touches parts) (issueSession services tenantId userId draw) :=
  touches_inAppliance (touchesIn_issueSession _ listed identified _ _ _)

theorem touches_insertRecoveryCodes (listed : .recoveryCodes ∈ parts)
    (tenantId userId : String) (codes : List String) :
    Follows (Touches parts)
      (insertRecoveryCodes services tenantId userId codes) :=
  Follows.forM fun _ _ => touches_insertRecoveryCode listed _

theorem touches_issueBootstrapToken (ttlSeconds : Int) (draw : Draw) :
    Follows (Touches [.bootstrapTokens])
      (issueBootstrapToken services ttlSeconds draw) := by
  refine touches_insertInto (fun records rows inserted => ?_) _
  refine touches_set List.mem_cons_self fun other different => ?_
  cases other with
  | spentTokens =>
      refine Retained.tableInsert (fun left right same => ?_) inserted
      exact decide_eq_true same
  | _ => first | trivial | exact Lasts.refl _ | exact Retained.refl _ _ _

theorem touches_useBootstrapToken (listed : .bootstrapTokens ∈ parts)
    (context : BootstrapContext) (now : Timestamp) :
    Follows (Touches parts)
      (useBootstrapToken context now : Program Log Unit) := by
  refine Follows.bind (touches_updateBootstrapTokens listed _ _ fun row =>
    ⟨rfl, fun _ => rfl⟩) fun _ => ?_
  exact Follows.bind Follows.get fun _ => Follows.require _ _

@[simp] def administratorTables : List Part :=
  [.tenants, .users, .passkeys, .platformOwners, .recoveryCodes]

theorem touches_installAdministrator (context : BootstrapContext)
    (verified : RegistrationVerification) (draw : Draw) :
    Follows (Touches administratorTables)
      (installAdministrator services context verified draw) := by
  refine Follows.bind (touches_insertTenant (by simp) _) fun _ => ?_
  refine Follows.bind (touches_insertUser (by simp) _) fun _ => ?_
  refine Follows.bind (touches_insertPasskey (by simp) _) fun _ => ?_
  refine Follows.bind (touches_insertOwner (by simp) _) fun _ => ?_
  exact touches_insertRecoveryCodes services (by simp) _ _ _

@[simp] def bootstrapTables : List Part :=
  [.challenges, .bootstrapTokens, .sessions, .sessionIds] ++
    administratorTables

theorem touches_completeBootstrap (challengeId : String)
    (context : BootstrapContext) (verified : RegistrationVerification)
    (draw : Draw) :
    Follows (Touches bootstrapTables)
      (completeBootstrap services challengeId context verified draw) := by
  refine Follows.bind (touches_consumeChallenge (by simp) _ _) fun _ => ?_
  refine Follows.bind (touches_useBootstrapToken (by simp) _ _) fun _ => ?_
  refine Follows.bind (touches_mono
    (touches_installAdministrator services _ _ _) (by simp)) fun _ => ?_
  exact touches_issueSession services (by simp) (by simp) _ _ _

theorem touches_completeAuthentication
    (challengeId tenantId userId credentialId : String) (newSignCount : Nat)
    (draw : Draw) :
    Follows
      (Touches [.challenges, .passkeys, .counters, .sessions, .sessionIds])
      (completeAuthentication services challengeId tenantId userId credentialId
        newSignCount draw) := by
  refine Follows.bind (touches_consumeChallenge (by simp) _ _) fun _ => ?_
  refine Follows.bind (touches_updatePasskeys (by simp) (by simp) _ _) fun _ => ?_
  exact touches_issueSession services (by simp) (by simp) _ _ _

theorem touches_completeRegistration (principal : SessionPrincipal)
    (challengeId label : String) (verified : RegistrationVerification)
    (draw : Draw) :
    Follows (Touches [.challenges, .passkeys])
      (completeRegistration principal challengeId label verified draw :
        Program Log Unit) := by
  refine Follows.bind (touches_consumeChallenge (by simp) _ _) fun _ => ?_
  exact touches_insertPasskey (by simp) _

theorem touches_issueInvite (principal : SessionPrincipal) (input : InviteInput)
    (draw : Draw) :
    Follows (Touches [.invites, .audit])
      (issueInvite services principal input draw) := by
  refine touches_inAppliance ?_
  refine Follows.bind (Follows.ofExcept _) fun _ => ?_
  refine Follows.bind (Follows.ofExcept _) fun _ => ?_
  refine Follows.bind (Follows.ofExcept _) fun _ => ?_
  exact touchesIn_issueHumanInvite _ (by simp) (by simp) _ _ _ _

theorem touches_beginInvite (invite : InviteRow) (draw : Draw) :
    Follows (Touches [.inviteChallenges]) (beginInvite services invite draw) :=
  touches_insertInviteChallenge (by simp) _

theorem touches_useInvitation (challenges : .inviteChallenges ∈ parts)
    (invites : .invites ∈ parts) (invitation : Invitation) (now : Timestamp) :
    Follows (Touches parts)
      (useInvitation invitation now : Program Log Unit) := by
  refine Follows.bind (touches_inAppliance
    (touchesIn_consumeInviteChallenge challenges _ _)) fun _ => ?_
  refine Follows.bind (touches_inAppliance
    (touchesIn_closeInvites invites _ _ fun _ => rfl)) fun _ => ?_
  exact touches_require _ _

theorem touches_installMember (invitation : Invitation)
    (verified : RegistrationVerification) (draw : Draw) :
    Follows (Touches [.users, .passkeys, .recoveryCodes, .audit])
      (installMember services invitation verified draw) := by
  refine Follows.bind (touches_inAppliance (touchesIn_requireIssuer _ _))
    fun _ => ?_
  refine Follows.bind (touches_insertUser (by simp) _) fun _ => ?_
  refine Follows.bind (touches_insertPasskey (by simp) _) fun _ => ?_
  refine Follows.bind (touches_insertRecoveryCodes services (by simp) _ _ _)
    fun _ => ?_
  exact touches_audit (by simp) _ _

@[simp] def inviteTables : List Part :=
  [.inviteChallenges, .invites, .sessions, .sessionIds, .users, .passkeys,
    .recoveryCodes, .audit]

theorem touches_completeInvite (invitation : Invitation)
    (verified : RegistrationVerification) (draw : Draw) :
    Follows (Touches inviteTables)
      (completeInvite services invitation verified draw) := by
  refine Follows.bind
    (touches_useInvitation (by simp) (by simp) _ _) fun _ => ?_
  refine Follows.bind (touches_mono (touches_installMember services _ _ _)
    (by simp)) fun _ => ?_
  exact touches_issueSession services (by simp) (by simp) _ _ _

theorem touches_revokeInvite (principal : SessionPrincipal) (inviteId : String)
    (now : Timestamp) :
    Follows (Touches [.invites, .audit])
      (revokeInvite services principal inviteId now) := by
  refine Follows.bind (touches_adminIn _ _) fun _ => ?_
  refine Follows.bind
    (touches_inAppliance (touchesIn_closeInvites (by simp) _ _ fun _ => rfl))
    fun _ => ?_
  refine Follows.bind (touches_require _ _) fun _ => ?_
  exact touches_audit (by simp) _ _

/-! ## Networks -/

theorem touches_createNetwork (principal : SessionPrincipal)
    (input : NetworkInput) (draw : Draw) :
    Follows (Touches [.tenants, .namespaces, .users, .ownerMemberships, .audit])
      (createNetwork services principal input draw) := by
  refine Follows.bind (touches_ofExcept _) fun domain => ?_
  refine Follows.bind (touches_adminIn _ _) fun _ => ?_
  refine Follows.bind Follows.get fun _ => ?_
  refine Follows.bind (touches_require _ _) fun _ => ?_
  refine Follows.bind (touches_require _ _) fun _ => ?_
  refine Follows.bind (touches_replaceFailure ?_ _) fun _ => ?_
  · exact Follows.bind (touches_insertTenant (by simp) _)
      fun _ => touches_insertNamespace (by simp) _
  refine Follows.bind (touches_insertUser (by simp) _) fun _ => ?_
  refine Follows.bind (touches_insertMembership (by simp) _) fun _ => ?_
  refine Follows.bind (touches_audit (by simp) _ _) fun _ => ?_
  exact touches_audit (by simp) _ _

@[simp] def ownerTables : List Part :=
  [.users, .ownerMemberships, .platformOwners, .sessions, .challenges, .audit]

theorem touches_projectOwner (input : Designation) (candidate : UserRecord)
    (now : Timestamp) (target : String) :
    Follows (Touches ownerTables)
      (projectOwner services input candidate now target) := by
  refine Follows.bind Follows.get fun _ => ?_
  refine Follows.bind (Follows.require _ _) fun _ => ?_
  refine Follows.bind
    (touches_insertUser (by simp) _) fun _ => ?_
  refine Follows.bind
    (touches_insertMembership (by simp) _) fun _ => ?_
  exact touches_audit (by simp) _ _

theorem touches_installOwner (input : Designation) (candidate : UserRecord)
    (tenants : List String) (now : Timestamp) :
    Follows (Touches ownerTables)
      (installOwner services input candidate tenants now) := by
  refine Follows.bind
    (Follows.forM fun _ _ => touches_projectOwner services _ _ _ _)
    fun _ => ?_
  refine Follows.bind
    (touches_insertOwner (by simp) _) fun _ => ?_
  refine Follows.bind (touches_inAppliance
    (touchesIn_revokeSessions (by simp) _ _)) fun _ => ?_
  refine Follows.bind (touches_inAppliance
    (touchesIn_consumeChallenges (by simp) _ _)) fun _ => ?_
  exact touches_audit (by simp) _ _

theorem touches_designate (input : Designation) (tenants : List String)
    (now : Timestamp) :
    Follows (Touches ownerTables) (designate services input tenants now) := by
  refine Follows.bind Follows.get fun records => ?_
  split
  · exact Follows.require _ _
  · refine Follows.bind (Follows.require _ _) fun _ => ?_
    split
    · exact Follows.throw _
    · exact touches_installOwner services _ _ _ _

theorem touches_updateNetwork (principal : SessionPrincipal)
    (input : NetworkUpdate) (now : Timestamp) :
    Follows (Touches networkTables)
      (updateNetwork services principal input now) := by
  refine Follows.bind Follows.get fun _ => ?_
  refine Follows.bind
    (touches_inAppliance (touchesIn_updateNetwork _ _ _ _)) fun _ => ?_
  exact Follows.pure _

theorem touches_adoptNamespace (principal : SessionPrincipal)
    (input : NamespaceInput) (now : Timestamp) :
    Follows (Touches [.namespaces, .networkRevisions, .audit])
      (adoptNamespace services principal input now) := by
  refine Follows.bind (touches_ofExcept _) fun _ => ?_
  refine Follows.bind
    (touches_inAppliance (touchesIn_requireOwner _ _)) fun _ => ?_
  refine Follows.bind ?_ fun _ => ?_
  · refine Follows.bind Follows.get fun records => ?_
    split
    · exact Follows.throw _
    · refine Follows.bind (touches_require _ _) fun _ => ?_
      refine Follows.bind (touches_require _ _) fun _ => ?_
      exact touches_require _ _
  refine Follows.bind (touches_replaceFailure
    (touches_insertNamespace (by simp) _) _) fun _ => ?_
  refine Follows.bind
    (touches_inAppliance (touchesIn_bumpNetwork (by simp) _ _)) fun _ => ?_
  exact touches_audit (by simp) _ _

theorem touches_updateMember (principal : SessionPrincipal)
    (input : MemberUpdate) (now : Timestamp) :
    Follows (Touches memberTables)
      (updateMember services principal input now) := by
  refine Follows.bind
    (touches_inAppliance (touchesIn_updateMember _ _ _ _)) fun _ => ?_
  exact Follows.pure _

@[simp] def accountTables : List Part :=
  [.endpointSessions, .grants, .accounts, .resetRequests, .accountRevisions,
    .audit]

theorem touches_revokeSignIn (principal : SessionPrincipal)
    (input : AccountUpdate) (now : Timestamp) :
    Follows (Touches accountTables)
      (revokeSignIn principal input now : Program Log Nat) := by
  refine Follows.bind
    (touches_deleteSessions (by simp) _) fun _ => ?_
  refine Follows.bind
    (touches_revokeTokens (by simp) _ _ _ _) fun _ => ?_
  refine Follows.bind
    (touches_updateAccounts (by simp) _ _) fun _ => ?_
  refine Follows.ite (fun _ => ?_) fun _ => Follows.pure _
  refine Follows.bind
    (touches_updateResetRequests (by simp) _ _) fun _ => ?_
  exact Follows.pure _

theorem touches_changeSignIn (principal : SessionPrincipal)
    (input : AccountUpdate) (previous : AccountRow) (now : Timestamp) :
    Follows (Touches accountTables)
      (changeSignIn principal input previous now : Program Log Nat) :=
  Follows.ite (fun _ => touches_revokeSignIn _ _ _) fun _ => Follows.pure _

theorem touches_changeAccount (principal : SessionPrincipal)
    (input : AccountUpdate) (previous : AccountRow) (now : Timestamp) :
    Follows (Touches accountTables)
      (changeAccount services principal input previous now) := by
  refine Follows.bind (touches_changeSignIn _ _ _ _) fun revoked => ?_
  refine Follows.bind
    (touches_updateAccounts (by simp) _ _) fun _ => ?_
  refine Follows.bind
    (touches_bumpAccount (by simp) _ _ _) fun _ => ?_
  exact touches_audit (by simp) _ _

theorem touches_updateAccount (principal : SessionPrincipal)
    (input : AccountUpdate) (now : Timestamp) :
    Follows (Touches accountTables)
      (updateAccount services principal input now) := by
  refine Follows.bind (touches_require _ _) fun _ => ?_
  refine Follows.bind (touches_adminIn _ _) fun _ => ?_
  refine Follows.bind Follows.get fun records => ?_
  split
  · exact Follows.throw _
  · refine Follows.bind (touches_require _ _) fun _ => ?_
    refine Follows.ite (fun _ => Follows.pure _) fun _ => ?_
    refine Follows.bind (touches_changeAccount services _ _ _ _) fun _ => ?_
    exact Follows.pure _

/-! ## Accounts -/

theorem touches_auditAccount (listed : .audit ∈ parts)
    (tenantId action actorId resourceId : String) (now : Timestamp) :
    Follows (Touches parts)
      (auditAccount services tenantId action actorId resourceId now) :=
  touches_audit listed _ _

theorem touches_createAccount (principal : SessionPrincipal)
    (input : AccountInput) (encoded : String) (draw : Draw) :
    Follows (Touches [.accounts, .audit])
      (createAccount services principal input encoded draw) := by
  refine Follows.bind (touches_adminIn _ _) fun _ => ?_
  refine Follows.bind Follows.get fun records => ?_
  split
  · exact Follows.throw _
  · refine Follows.bind (touches_ofExcept _) fun _ => ?_
    refine Follows.bind (touches_require _ _) fun _ => ?_
    refine Follows.bind (touches_replaceFailure
      (touches_insertAccount (by simp) _) _) fun _ => ?_
    exact touches_auditAccount services (by simp) _ _ _ _ _

theorem touches_issueEndpointSession (listed : .endpointSessions ∈ parts)
    (account : AccountRow) (draw : Draw) :
    Follows (Touches parts)
      (issueEndpointSession services account draw) := by
  refine Follows.bind (touches_deleteSessions listed _) fun _ => ?_
  refine Follows.bind (touches_deleteSessions listed _) fun _ => ?_
  refine touches_write fun records _ => ?_
  refine touches_set listed fun other different => ?_
  cases other <;>
    first | trivial | exact Lasts.refl _ | exact Retained.refl _ _ _

theorem touches_login (read : AccountRow) (draw : Draw) :
    Follows (Touches [.endpointSessions]) (login services read draw) := by
  refine Follows.bind Follows.get fun records => ?_
  split
  · exact Follows.throw _
  · refine Follows.bind (Follows.require _ _) fun _ => ?_
    refine Follows.bind
      (touches_issueEndpointSession services (by simp) _ _) fun _ => ?_
    exact Follows.pure _

@[simp] def passwordTables : List Part :=
  [.accounts, .endpointSessions, .grants, .resetRequests, .audit]

theorem touches_replacePassword (account : AccountRow) (encoded : String)
    (completeSetup : Bool) (now : Timestamp) :
    Follows (Touches passwordTables)
      (replacePassword account encoded completeSetup now :
        Program Log Unit) := by
  refine Follows.bind
    (touches_updateAccounts (by simp) _ _) fun _ => ?_
  refine Follows.bind
    (touches_deleteSessions (by simp) _) fun _ => ?_
  refine Follows.bind
    (touches_revokeTokens (by simp) _ _ _ _) fun _ => ?_
  exact Follows.pure _

theorem touches_storedAccount (account : AccountRow) :
    Follows (Touches parts) (storedAccount account : Program Log AccountRow) := by
  refine Follows.bind Follows.get fun records => ?_
  split
  · exact Follows.pure _
  · exact Follows.throw _

theorem touches_changePassword (token encoded : String) (draw : Draw) :
    Follows (Touches passwordTables)
      (changePassword services token encoded draw) := by
  refine Follows.bind Follows.get fun records => ?_
  refine Follows.bind (touches_ofExcept _) fun account => ?_
  refine Follows.bind (touches_replacePassword _ _ _ _) fun _ => ?_
  refine Follows.bind (touches_auditAccount services
    (by simp) _ _ _ _ _) fun _ => ?_
  refine Follows.bind (touches_storedAccount _) fun _ => ?_
  refine Follows.bind (touches_issueEndpointSession services
    (by simp) _ _) fun _ => ?_
  exact Follows.pure _

theorem touches_resetPassword (principal : SessionPrincipal)
    (requestId encoded : String) (draw : Draw) :
    Follows (Touches passwordTables)
      (resetPassword services principal requestId encoded draw) := by
  refine Follows.bind (touches_adminIn _ _) fun _ => ?_
  refine Follows.bind Follows.get fun records => ?_
  split
  · exact Follows.throw _
  · refine Follows.bind (touches_replacePassword _ _ _ _) fun _ => ?_
    refine Follows.bind (touches_updateResetRequests
      (by simp) _ _) fun _ => ?_
    refine Follows.bind (touches_auditAccount services
      (by simp) _ _ _ _ _) fun _ => ?_
    exact Follows.pure _

theorem touches_enrollmentGrant (token deviceId : String) (draw : Draw) :
    Follows (Touches [.grants, .accountGrants, .audit])
      (enrollmentGrant services token deviceId draw) := by
  refine Follows.bind (touches_require _ _) fun _ => ?_
  refine Follows.bind Follows.get fun records => ?_
  refine Follows.bind (touches_ofExcept _) fun _ => ?_
  refine Follows.bind (touches_revokeTokens (by simp) _ _ _ _) fun _ => ?_
  refine Follows.bind (touches_inAppliance
    (touchesIn_insertGrant (by simp) _)) fun _ => ?_
  refine Follows.bind (touches_insertAccountGrant (by simp) _) fun _ => ?_
  refine Follows.bind
    (touches_auditAccount services (by simp) _ _ _ _ _) fun _ => ?_
  exact Follows.pure _

theorem touches_insertResetRequest (listed : .resetRequests ∈ parts)
    (row : ResetRequestRow) :
    Follows (Touches parts) (insertResetRequest row : Program Log Nat) := by
  intro before value after ran
  unfold insertResetRequest at ran
  split at ran
  · cases ran
    refine touches_set listed fun other different => ?_
    cases other <;>
    first | trivial | exact Lasts.refl _ | exact Retained.refl _ _ _
  · cases ran
    exact Std.Refl.refl _

theorem touches_requestReset (userName : String) (draw : Draw) :
    Follows (Touches [.resetRequests, .audit])
      (requestReset services userName draw) := by
  refine Follows.bind Follows.get fun records => ?_
  split
  · exact Follows.pure _
  · refine Follows.bind (touches_insertResetRequest (by simp) _) fun _ => ?_
    refine Follows.ite (fun _ => ?_) fun _ => Follows.pure _
    exact touches_auditAccount services (by simp) _ _ _ _ _

/-! ## Grants -/

theorem touches_requireAccountGrant (tokenId : String) :
    Follows (Touches parts)
      (requireAccountGrant tokenId : Program Log Unit) :=
  Follows.bind Follows.get fun _ => touches_require _ _

theorem touches_resumeGrant (grant : GrantRow) (request : ClaimRequest)
    (now : Timestamp) :
    Follows (Touches parts) (resumeGrant services grant request now) := by
  refine Follows.bind (touches_require _ _) fun _ => ?_
  refine Follows.bind Follows.get fun records => ?_
  split
  · exact Follows.throw _
  · split
    · exact Follows.throw _
    · exact Follows.pure _

@[simp] def claimTables : List Part :=
  [.grants, .deviceProfiles, .initialCredentials, .spentDevices] ++
    collectorTables

theorem touches_enrollDevice (tenantId : String) (request : ClaimRequest) :
    Follows (Touches claimTables)
      (enrollDevice tenantId request : Program Log Unit) := by
  refine Follows.bind (touches_inAppliance (touchesIn_insertDevice
    (by simp) (by simp) _ _)) fun _ => ?_
  refine touches_modify fun records => ?_
  refine @touches_set _ _ .deviceProfiles _ _ (by simp)
    fun other different => ?_
  cases other <;>
    first | trivial | exact Lasts.refl _ | exact Retained.refl _ _ _

theorem touches_enrollCredential (tenantId : String) (request : ClaimRequest)
    (draw : Draw) :
    Follows (Touches claimTables)
      (enrollCredential services tenantId request draw) := by
  refine Follows.bind (touches_inAppliance (touchesIn_collectors
    (by simp) (develops_statements.insertCredential _))) fun _ => ?_
  refine touches_modify fun records => ?_
  refine @touches_set _ _ .initialCredentials _ _ (by simp)
    fun other different => ?_
  cases other <;>
    first | trivial | exact Lasts.refl _ | exact Retained.refl _ _ _

theorem touches_useGrant (grant : GrantRow) (deviceId : String)
    (now : Timestamp) :
    Follows (Touches claimTables)
      (useGrant grant deviceId now : Program Log Nat) := by
  refine touches_inAppliance (touchesIn_updateGrants (by simp) _ _ ?_)
  intro row isSelected
  refine ⟨rfl, rfl, rfl, fun isUsed => ?_, id⟩
  simp only [Bool.and_eq_true] at isSelected
  obtain ⟨⟨-, isUnused⟩, -⟩ := isSelected
  rw [Option.isNone_iff_eq_none.mp isUnused] at isUsed
  cases isUsed

theorem touches_enroll (grant : GrantRow) (request : ClaimRequest)
    (draw : Draw) :
    Follows (Touches claimTables) (enroll services grant request draw) := by
  refine Follows.bind Follows.get fun _ => ?_
  refine Follows.bind (touches_require _ _) fun _ => ?_
  refine Follows.bind (touches_enrollDevice _ _) fun _ => ?_
  refine Follows.bind (touches_enrollCredential services _ _ _) fun _ => ?_
  refine Follows.bind (touches_useGrant _ _ _) fun _ => ?_
  refine Follows.bind (touches_require _ _) fun _ => ?_
  exact Follows.pure _

theorem touches_claimGrant (request : ClaimRequest) (draw : Draw) :
    Follows (Touches claimTables) (claimGrant services request draw) := by
  refine Follows.bind (touches_ofExcept _) fun _ => ?_
  refine Follows.bind Follows.get fun records => ?_
  split
  · exact Follows.throw _
  · refine Follows.bind (touches_requireAccountGrant _) fun _ => ?_
    refine Follows.ite (fun _ => ?_) fun _ => ?_
    · exact Follows.bind (touches_resumeGrant services _ _ _)
        fun _ => Follows.pure _
    · exact Follows.bind (touches_enroll services _ _ _)
        fun _ => Follows.pure _

theorem touches_revokeGrant (tenantId tokenId : String) (now : Timestamp) :
    Follows (Touches [.grants])
      (revokeGrant tenantId tokenId now : Program Log Nat) :=
  touches_inAppliance (touchesIn_revokeGrants List.mem_cons_self _ _)

theorem touches_collectors {Value : Type}
    {program : Devices.RotationProgram Value}
    (develops : Follows Devices.Database.Develops program) :
    Follows (Touches collectorTables)
      (inAppliance (inCollectors program) : Program Log Value) :=
  touches_inAppliance (touchesIn_collectors (List.Subset.refl _) develops)

end Transactions

end Directory

end ControlForge
