import ControlForge.Access.Authority
import ControlForge.Directory.Writes

/-!
# What the updates of networks, members and accounts find and write

One lemma for every update: the row and the revision it has found, and, when it
changes anything, the rows and the revision it leaves.
-/

namespace ControlForge

namespace Directory

open Access
open Transaction (Follows)

variable {Log : Type}

/-! ## Networks -/

section Networks

variable {deployment : Deployment Log} {principal : SessionPrincipal}
  {input : NetworkUpdate} {now : Timestamp} {before after : Appliance Log}
  {previous : TenantRecord} {change : Option AuthorityChange}

/-- What `_network` finds, and the protection of the owner's home network. -/
structure NetworkFound (input : NetworkUpdate) (before : Appliance Log)
    (previous : TenantRecord) : Prop where
  stored : previous ∈ before.tenants.rows
  key : previous.tenantId = input.tenantId
  current : networkRevision before input.tenantId = input.revision
  home : input.status = "suspended" →
    ∀ owner ∈ before.platformOwners, owner.homeTenantId ≠ input.tenantId

theorem requireNetwork_ok
    (ran : requireNetwork input before = .ok (previous, after)) :
    NetworkFound input before previous ∧ after = before := by
  obtain ⟨_, _, read, afterRead⟩ := Transaction.run_bind_ok.mp ran
  cases read
  cases isFound : before.tenants.rows.find? fun row =>
      row.tenantId = input.tenantId with
  | none =>
      rw [isFound] at afterRead
      cases afterRead
  | some stored =>
      rw [isFound] at afterRead
      obtain ⟨_, _, revision, afterRevision⟩ :=
        Transaction.run_bind_ok.mp afterRead
      obtain ⟨current, rfl⟩ := Transaction.run_require_ok.mp revision
      obtain ⟨_, _, allowed, returned⟩ :=
        Transaction.run_bind_ok.mp afterRevision
      obtain ⟨home, rfl⟩ := Transaction.run_require_ok.mp allowed
      cases returned
      refine ⟨⟨List.mem_of_find?_eq_some isFound, ?_, current, ?_⟩, rfl⟩
      · have isKey := List.find?_some isFound
        exact of_decide_eq_true isKey
      · intro suspended owner member isHome
        refine home ⟨suspended, List.any_eq_true.mpr ⟨owner, member, ?_⟩⟩
        exact decide_eq_true isHome

/-- The row of a network after an update. -/
def renamedNetwork (input : NetworkUpdate) (row : TenantRecord) :
    TenantRecord :=
  { row with
    displayName := Text.strip input.displayName, status := input.status }

/-- What a change of a network has written. -/
structure NetworkChanged (input : NetworkUpdate) (previous : TenantRecord)
    (change : Option AuthorityChange) (before after : Appliance Log) : Prop where
  valid : validNetworkUpdate input = true
  differs : ¬ (previous.displayName = Text.strip input.displayName ∧
    previous.status = input.status)
  tenants : after.tenants.rows = before.tenants.rows.map (Table.applyWhere
    (fun row => row.tenantId = input.tenantId) (renamedNetwork input))
  revisions : after.networkRevisions =
    ⟨input.tenantId, input.revision + 1⟩ ::
      before.networkRevisions.filter fun row => row.tenantId ≠ input.tenantId
  isSuspension : change.isSome = suspends previous input
  endpointSessions : after.endpointSessions =
    before.endpointSessions.filter fun row =>
      !(change.isSome && row.tenantId = input.tenantId)
  grants : change.isSome → ∀ row ∈ after.grants.rows,
    row.tenantId = input.tenantId → row.revokedAt ≠ none

/-- After a revocation no selected grant is unrevoked. -/
theorem revoked_of_selected {selected : GrantRow → Bool} {row : GrantRow}
    {property : GrantRow → Prop} {stamp : Timestamp}
    (covers : ∀ row, property row → selected row = true)
    (holds : property (Table.applyWhere
      (fun row => selected row && row.revokedAt.isNone)
      (fun row => { row with revokedAt := some stamp }) row)) :
    (Table.applyWhere (fun row => selected row && row.revokedAt.isNone)
      (fun row : GrantRow => { row with revokedAt := some stamp })
      row).revokedAt ≠ none := by
  intro notRevoked
  simp only [Table.applyWhere] at holds notRevoked
  split at notRevoked
  · cases notRevoked
  · next notSelected =>
      rw [if_neg notSelected] at holds
      apply notSelected
      rw [covers row holds, notRevoked]
      rfl

/-- A suspension ends the endpoint sessions and the grants of the network. -/
theorem suspendNetwork_ok {tenantId : String} {revoked : NetworkRevocation}
    (ran : suspendNetwork tenantId now before = .ok (revoked, after)) :
    after.endpointSessions =
        (before.endpointSessions.filter fun row => !(row.tenantId = tenantId)) ∧
      ∀ row ∈ after.grants.rows, row.tenantId = tenantId →
        row.revokedAt ≠ none := by
  obtain ⟨_, signedOut, sessions, afterSessions⟩ :=
    Transaction.run_bind_ok.mp ran
  obtain ⟨_, unplugged, endpoints, afterEndpoints⟩ :=
    Transaction.run_bind_ok.mp afterSessions
  obtain ⟨_, consumed, challenges, afterChallenges⟩ :=
    Transaction.run_bind_ok.mp afterEndpoints
  obtain ⟨_, uninvited, invites, afterInvites⟩ :=
    Transaction.run_bind_ok.mp afterChallenges
  obtain ⟨_, ungranted, grants, afterGrants⟩ :=
    Transaction.run_bind_ok.mp afterInvites
  obtain ⟨_, expired, actions, returned⟩ := Transaction.run_bind_ok.mp afterGrants
  cases returned
  have fromGrants : TouchesIn [.actions, .audit] ungranted after :=
    touchesIn_inResponse (by simp) (by simp) _ _ _ _ actions
  have granting : TouchesIn [.grants] uninvited ungranted :=
    touchesIn_revokeGrants (by simp) _ _ _ _ _ grants
  have inviting : TouchesIn [.invites] consumed uninvited :=
    touchesIn_revokeInvites (by simp) _ _ _ _ _ invites
  have consuming : TouchesIn [.challenges] unplugged consumed :=
    touchesIn_consumeChallenges (by simp) _ _ _ _ _ challenges
  have sameGrants : after.grants = ungranted.grants :=
    fromGrants .grants (by simp)
  have sameEndpoints : after.endpointSessions = unplugged.endpointSessions :=
    (((consuming .endpointSessions (by simp)).trans
      (inviting .endpointSessions (by simp))).trans
      (granting .endpointSessions (by simp))).trans
      (fromGrants .endpointSessions (by simp))
  have sameStart : signedOut.endpointSessions = before.endpointSessions := by
    have signing : TouchesIn [.sessions] before signedOut :=
      touchesIn_revokeSessions (by simp) _ _ _ _ _ sessions
    exact signing .endpointSessions (by simp)
  constructor
  · cases endpoints
    rw [sameEndpoints]
    change List.filter _ signedOut.endpointSessions = _
    rw [sameStart]
    exact List.filter_congr fun row _ => by simp
  · rw [sameGrants, (updateGrants_rows grants).2]
    intro row member ofTenant
    obtain ⟨stored, -, rfl⟩ := List.mem_map.mp member
    exact revoked_of_selected (fun row => decide_eq_true) ofTenant

/-- What an update of a network has found, and what it writes when it changes
anything. -/
theorem updateNetwork_ok
    (ran : Access.updateNetwork deployment principal input now before =
      .ok (change, after)) :
    ∃ previous, NetworkFound input before previous ∧
      ((previous.displayName = Text.strip input.displayName ∧
          previous.status = input.status ∧ change = none ∧ after = before) ∨
        NetworkChanged input previous change before after) := by
  obtain ⟨_, checked, valid, afterValid⟩ := Transaction.run_bind_ok.mp ran
  obtain ⟨isValid, rfl⟩ := Transaction.run_require_ok.mp valid
  obtain ⟨_, _, owner, afterOwner⟩ := Transaction.run_bind_ok.mp afterValid
  obtain ⟨-, rfl⟩ := requireOwner_reads owner
  obtain ⟨previous, start, found, afterFound⟩ :=
    Transaction.run_bind_ok.mp afterOwner
  obtain ⟨isFound, rfl⟩ := requireNetwork_ok found
  refine ⟨previous, isFound, ?_⟩
  split at afterFound
  · next same =>
      cases afterFound
      exact .inl ⟨same.1, same.2, rfl, rfl⟩
  · next differs =>
      right
      obtain ⟨revoked, middle, revoking, afterRevoking⟩ :=
        Transaction.run_bind_ok.mp afterFound
      obtain ⟨_, renamed, setting, afterSetting⟩ :=
        Transaction.run_bind_ok.mp afterRevoking
      obtain ⟨_, bumped, bumping, afterBumped⟩ :=
        Transaction.run_bind_ok.mp afterSetting
      obtain ⟨_, logged, recorded, afterRecorded⟩ :=
        Transaction.run_bind_ok.mp afterBumped
      cases bumping
      have logging : TouchesIn [.audit] _ logged :=
        touchesIn_audit (by simp) _ _ _ _ _ recorded
      have rest : TouchesIn [.audit] logged after ∧
          change = revoked.map fun _ => .suspension input.tenantId := by
        split at afterRecorded
        · obtain ⟨_, _, copied, returned⟩ :=
            Transaction.run_bind_ok.mp afterRecorded
          cases returned
          exact ⟨touchesIn_audit (by simp) _ _ _ _ _ copied, rfl⟩
        · cases afterRecorded
          exact ⟨Std.Refl.refl _, rfl⟩
      have audited : TouchesIn [.audit] _ after :=
        IsTrans.trans _ _ _ logging rest.1
      obtain ⟨others, rows⟩ := updateTenants_rows setting
      have isRevoked : TouchesIn [.sessions, .endpointSessions, .challenges,
          .invites, .grants, .actions, .audit] start middle ∧
          revoked.isSome = suspends previous input ∧
          middle.endpointSessions =
            (start.endpointSessions.filter fun row =>
              !(revoked.isSome && row.tenantId = input.tenantId)) ∧
          (revoked.isSome →
            ∀ row ∈ middle.grants.rows, row.tenantId = input.tenantId →
              row.revokedAt ≠ none) := by
        unfold revokeNetwork at revoking
        split at revoking
        · next isSuspension =>
            obtain ⟨_, suspending, rfl⟩ := Transaction.run_map_ok.mp revoking
            obtain ⟨sessions, grants⟩ := suspendNetwork_ok suspending
            refine ⟨touchesIn_suspendNetwork (List.Subset.refl _) _ _ _ _ _
              suspending, ?_, sessions, fun _ => grants⟩
            rw [isSuspension]
            rfl
        · next notSuspension =>
            cases revoking
            refine ⟨Std.Refl.refl _, ?_, by simp, nofun⟩
            rw [Bool.eq_false_iff.mpr notSuspension]
            rfl
      obtain ⟨revokes, isSuspension, sessions, grants⟩ := isRevoked
      have isSome : change.isSome = revoked.isSome := by
        rw [rest.2]
        cases revoked <;> rfl
      rw [others] at audited
      have sameTenants : middle.tenants = start.tenants :=
        revokes .tenants (by simp)
      have sameRevisions : middle.networkRevisions = start.networkRevisions :=
        revokes .networkRevisions (by simp)
      have afterTenants : after.tenants = renamed.tenants :=
        audited .tenants (by simp)
      have afterRevisions : after.networkRevisions = _ :=
        audited .networkRevisions (by simp)
      have afterSessions : after.endpointSessions = middle.endpointSessions :=
        audited .endpointSessions (by simp)
      have afterGrants : after.grants = middle.grants :=
        audited .grants (by simp)
      refine ⟨isValid, differs, ?_, ?_, isSome.trans isSuspension, ?_, ?_⟩
      · rw [afterTenants, rows, sameTenants]
        rfl
      · rw [afterRevisions, sameRevisions]
      · rw [afterSessions, sessions, isSome]
      · intro suspension
        rw [afterGrants]
        exact grants (isSome ▸ suspension)

end Networks

/-! ## Members -/

section Members

variable {deployment : Deployment Log} {principal : SessionPrincipal}
  {input : MemberUpdate} {now : Timestamp} {before after : Appliance Log}
  {target : UserRecord} {change : Option AuthorityChange}

/-- The member an update finds. -/
structure MemberFound (principal : SessionPrincipal) (input : MemberUpdate)
    (before : Appliance Log) (target : UserRecord) : Prop where
  stored : target ∈ before.users.rows
  key : target.hasKey principal.tenantId input.userId = true
  current : memberRevision before principal.tenantId input.userId =
    input.revision
  unprotected : isProtected before principal input.userId = false

theorem requireMember_ok
    (ran : requireMember principal input before = .ok (target, after)) :
    MemberFound principal input before target ∧ after = before := by
  obtain ⟨_, _, read, afterRead⟩ := Transaction.run_bind_ok.mp ran
  cases read
  obtain ⟨_, start, revision, afterRevision⟩ :=
    Transaction.run_bind_ok.mp afterRead
  obtain ⟨current, rfl⟩ := Transaction.run_require_ok.mp revision
  cases isFound : start.users.rows.find?
      (·.hasKey principal.tenantId input.userId) with
  | none =>
      rw [isFound] at afterRevision
      cases afterRevision
  | some stored =>
      rw [isFound] at afterRevision
      obtain ⟨_, _, expected, afterExpected⟩ :=
        Transaction.run_bind_ok.mp afterRevision
      obtain ⟨-, rfl⟩ := Transaction.run_require_ok.mp expected
      obtain ⟨_, _, allowed, returned⟩ :=
        Transaction.run_bind_ok.mp afterExpected
      obtain ⟨unprotected, rfl⟩ := Transaction.run_require_ok.mp allowed
      cases returned
      have isKey := List.find?_some isFound
      exact ⟨⟨List.mem_of_find?_eq_some isFound, isKey, current, unprotected⟩,
        rfl⟩

/-- The row of a member after an update. -/
def changedMember (input : MemberUpdate) (row : UserRecord) : UserRecord :=
  { row with role := input.role, status := input.status }

/-- What a change of a member has written. -/
structure MemberChanged (principal : SessionPrincipal) (input : MemberUpdate)
    (target : UserRecord) (before after : Appliance Log) : Prop where
  differs : ¬ (target.role = input.role ∧ target.status = input.status)
  users : after.users.rows = before.users.rows.map (Table.applyWhere
    (·.hasKey principal.tenantId input.userId) (changedMember input))
  revisions : after.memberRevisions =
    ⟨principal.tenantId, input.userId, input.revision + 1⟩ ::
      before.memberRevisions.filter fun row =>
        ¬ (row.tenantId = principal.tenantId ∧ row.userId = input.userId)

theorem changeMember_ok {tenantId : String} {revoked : MemberRevocation}
    (ran : changeMember tenantId input now before = .ok (revoked, after)) :
    after.users.rows = before.users.rows.map (Table.applyWhere
      (·.hasKey tenantId input.userId) (changedMember input)) ∧
      after.memberRevisions = before.memberRevisions := by
  obtain ⟨_, changed, updated, rest⟩ := Transaction.run_bind_ok.mp ran
  obtain ⟨others, rows⟩ := updateUsers_rows updated
  have revoking : TouchesIn [.sessions, .invites, .grants, .actions, .audit,
      .challenges] changed after := by
    refine Follows.bind (touchesIn_revokeSessions (by simp) _ _)
      (fun _ => ?_) _ _ _ rest
    refine Follows.bind (touchesIn_revokeInvites (by simp) _ _) fun _ => ?_
    refine Follows.bind (touchesIn_revokeGrants (by simp) _ _) fun _ => ?_
    refine Follows.bind (touchesIn_inResponse (by simp) (by simp) _)
      fun _ => ?_
    refine Follows.bind (touchesIn_consumeChallenges (by simp) _ _)
      fun _ => ?_
    exact Follows.pure _
  have sameUsers : after.users = changed.users := revoking .users (by simp)
  have sameRevisions : after.memberRevisions = changed.memberRevisions :=
    revoking .memberRevisions (by simp)
  constructor
  · rw [sameUsers, rows]
    rfl
  · rw [sameRevisions, others]

/-- What an update of a member has found, and what it writes when it changes
anything. -/
theorem updateMember_ok
    (ran : Access.updateMember deployment principal input now before =
      .ok (change, after)) :
    ∃ target, MemberFound principal input before target ∧
      ((change = none ∧ after = before) ∨
        (change.isSome = true ∧
          MemberChanged principal input target before after)) := by
  obtain ⟨_, checked, valid, afterValid⟩ := Transaction.run_bind_ok.mp ran
  obtain ⟨-, rfl⟩ := Transaction.run_require_ok.mp valid
  obtain ⟨_, _, capable, afterCapable⟩ := Transaction.run_bind_ok.mp afterValid
  obtain ⟨-, rfl⟩ := holds_of_requireCurrentCapability capable
  obtain ⟨target, _, found, afterFound⟩ :=
    Transaction.run_bind_ok.mp afterCapable
  obtain ⟨isFound, rfl⟩ := requireMember_ok found
  refine ⟨target, isFound, ?_⟩
  split at afterFound
  · cases afterFound
    exact .inl ⟨rfl, rfl⟩
  · next differs =>
      right
      obtain ⟨_, changed, changing, afterChanging⟩ :=
        Transaction.run_bind_ok.mp afterFound
      obtain ⟨_, bumped, bumping, afterBumped⟩ :=
        Transaction.run_bind_ok.mp afterChanging
      obtain ⟨_, _, recorded, returned⟩ := Transaction.run_bind_ok.mp afterBumped
      cases bumping
      cases returned
      have logging : TouchesIn [.audit] _ after :=
        touchesIn_audit (by simp) _ _ _ _ _ recorded
      obtain ⟨users, revisions⟩ := changeMember_ok changing
      have sameUsers : after.users = changed.users := logging .users (by simp)
      have sameRevisions : after.memberRevisions =
          ⟨principal.tenantId, input.userId, input.revision + 1⟩ ::
            changed.memberRevisions.filter fun row =>
              ¬ (row.tenantId = principal.tenantId ∧
                row.userId = input.userId) :=
        logging .memberRevisions (by simp)
      refine ⟨rfl, differs, ?_, ?_⟩
      · rw [sameUsers, users]
      · rw [sameRevisions, revisions]

end Members

/-! ## Namespaces -/

section Namespaces

variable {services : Services Log} {principal : SessionPrincipal}
  {input : NamespaceInput} {now : Timestamp} {records after : Records Log}

/-- A namespace is adopted at the revision that is expected. -/
theorem adoptNamespace_ok
    (ran : adoptNamespace services principal input now records =
      .ok ((), after)) :
    networkRevision records.toAppliance input.tenantId = input.revision ∧
      after.networkRevisions =
        ⟨input.tenantId, input.revision + 1⟩ ::
          records.networkRevisions.filter fun row =>
            row.tenantId ≠ input.tenantId := by
  obtain ⟨domain, _, checked, afterChecked⟩ := Transaction.run_bind_ok.mp ran
  obtain ⟨_, checking, rfl⟩ := inAppliance_ok checked
  obtain ⟨-, rfl⟩ := Transaction.run_ofExcept_eq_ok.mp checking
  obtain ⟨_, _, owner, afterOwner⟩ := Transaction.run_bind_ok.mp afterChecked
  obtain ⟨_, owning, rfl⟩ := inAppliance_ok owner
  obtain ⟨-, rfl⟩ := requireOwner_reads owning
  obtain ⟨_, start, adoptable, afterAdoptable⟩ :=
    Transaction.run_bind_ok.mp afterOwner
  obtain ⟨_, inserted, inserting, afterInserting⟩ :=
    Transaction.run_bind_ok.mp afterAdoptable
  obtain ⟨_, bumped, bumping, recorded⟩ :=
    Transaction.run_bind_ok.mp afterInserting
  have current : networkRevision records.toAppliance input.tenantId =
      input.revision ∧ start = records := by
    obtain ⟨_, _, read, afterRead⟩ := Transaction.run_bind_ok.mp adoptable
    cases read
    cases isFound : records.tenants.rows.find? fun row =>
        row.tenantId = input.tenantId with
    | none =>
        rw [isFound] at afterRead
        cases afterRead
    | some previous =>
        rw [isFound] at afterRead
        obtain ⟨_, _, revision, afterRevision⟩ :=
          Transaction.run_bind_ok.mp afterRead
        obtain ⟨isCurrent, rfl⟩ := require_ok revision
        obtain ⟨_, _, free, isActive⟩ :=
          Transaction.run_bind_ok.mp afterRevision
        obtain ⟨-, rfl⟩ := require_ok free
        obtain ⟨-, rfl⟩ := require_ok isActive
        exact ⟨isCurrent, rfl⟩
  obtain ⟨isCurrent, rfl⟩ := current
  refine ⟨isCurrent, ?_⟩
  have adopting : Touches [.namespaces] start inserted :=
    touches_replaceFailure (touches_insertNamespace (by simp) _) _ _ _ _
      inserting
  have sameRevisions : inserted.networkRevisions = start.networkRevisions :=
    adopting .networkRevisions (by simp)
  obtain ⟨_, isBump, rfl⟩ := inAppliance_ok bumping
  cases isBump
  have logging : Touches [.audit] _ after :=
    touches_audit (by simp) _ _ _ _ _ recorded
  have afterRevisions : after.networkRevisions =
      ⟨input.tenantId, input.revision + 1⟩ ::
        inserted.networkRevisions.filter fun row =>
          row.tenantId ≠ input.tenantId :=
    logging .networkRevisions (by simp)
  rw [afterRevisions, sameRevisions]

end Namespaces

/-! ## Accounts -/

section Accounts

variable {services : Services Log} {principal : SessionPrincipal}
  {input : AccountUpdate} {now : Timestamp} {records after : Records Log}
  {previous : AccountRow} {change : AccountChange}

/-- The account an update finds. -/
structure AccountFound (principal : SessionPrincipal) (input : AccountUpdate)
    (records : Records Log) (previous : AccountRow) : Prop where
  stored : previous ∈ records.accounts.rows
  key : previous.hasKey principal.tenantId input.accountId = true
  current : accountRevision records principal.tenantId input.accountId =
    input.revision

/-- The row of an account after an update. -/
def changedAccount (input : AccountUpdate) (change : AccountChange)
    (row : AccountRow) : AccountRow :=
  { row with
    displayName := Text.strip input.displayName
    status := input.status
    passwordVersion :=
      row.passwordVersion + if change = .signIn then 1 else 0 }

/-- What a change of an account has written. -/
structure AccountChanged (principal : SessionPrincipal) (input : AccountUpdate)
    (change : AccountChange) (before after : Records Log) : Prop where
  changes : change ≠ .unchanged
  accounts : after.accounts.rows = before.accounts.rows.map (Table.applyWhere
    (·.hasKey principal.tenantId input.accountId)
    (changedAccount input change))
  revisions : after.accountRevisions =
    ⟨principal.tenantId, input.accountId, input.revision + 1⟩ ::
      before.accountRevisions.filter fun row =>
        ¬ (row.tenantId = principal.tenantId ∧
          row.accountId = input.accountId)
  sessions : after.endpointSessions =
    before.endpointSessions.filter fun row =>
      !(change = .signIn &&
        EndpointSessionRow.ofAccount principal.tenantId input.accountId row)
  tokens : change = .signIn → ∀ row ∈ after.grants.rows,
    ownsToken before principal.tenantId input.accountId row.tokenId = true →
      row.revokedAt ≠ none

theorem updateAccounts_ok {selected : AccountRow → Bool}
    {write : AccountRow → AccountRow} {count : Nat}
    (ran : updateAccounts selected write records = .ok (count, after)) :
    ∃ accounts, after = { records with accounts } ∧
      accounts.rows =
        records.accounts.rows.map (Table.applyWhere selected write) := by
  unfold updateAccounts at ran
  obtain ⟨rows, rfl, -, written⟩ := updateIn_ok ran
  exact ⟨rows, rfl, written⟩

/-- The tokens an account owns lose their effect. -/
theorem revokeTokens_ok {tenantId accountId : String}
    {selected : GrantRow → Bool} {count : Nat}
    (ran : revokeTokens tenantId accountId selected now records =
      .ok (count, after)) :
    ∃ grants, after = { records with grants } ∧
      grants.rows = records.grants.rows.map (Table.applyWhere
        (fun row =>
          selected row && ownsToken records tenantId accountId row.tokenId)
        fun row => { row with revokedAt := some now }) := by
  obtain ⟨_, _, read, updated⟩ := Transaction.run_bind_ok.mp ran
  cases read
  obtain ⟨rows, rfl, -, written⟩ := updateIn_ok updated
  exact ⟨rows, rfl, written⟩

@[simp] theorem revoked_tokenId (selected : GrantRow → Bool)
    (stamp : Timestamp) (row : GrantRow) :
    (Table.applyWhere selected
      (fun row => { row with revokedAt := some stamp }) row).tokenId =
      row.tokenId := by
  unfold Table.applyWhere
  split <;> rfl

theorem revoked_selected {selected : GrantRow → Bool} {stamp : Timestamp}
    {row : GrantRow} (isSelected : selected row = true) :
    (Table.applyWhere selected
      (fun row => { row with revokedAt := some stamp }) row).revokedAt ≠
      none := by
  rw [Table.applyWhere_selected isSelected]
  exact Option.some_ne_none stamp

/-- The account after the end of its sign-ins. -/
def signedOut (row : AccountRow) : AccountRow :=
  { row with passwordVersion := row.passwordVersion + 1 }

theorem revokeSignIn_ok {count : Nat}
    (ran : revokeSignIn principal input now records = .ok (count, after)) :
    after.accounts.rows = records.accounts.rows.map (Table.applyWhere
        (·.hasKey principal.tenantId input.accountId) signedOut) ∧
      after.accountRevisions = records.accountRevisions ∧
      after.endpointSessions = (records.endpointSessions.filter fun row =>
        !EndpointSessionRow.ofAccount principal.tenantId input.accountId row) ∧
      ∀ row ∈ after.grants.rows,
        ownsToken records principal.tenantId input.accountId row.tokenId =
          true → row.revokedAt ≠ none := by
  obtain ⟨_, first, deleted, afterDeleted⟩ := Transaction.run_bind_ok.mp ran
  obtain ⟨_, second, revoked, afterRevoked⟩ :=
    Transaction.run_bind_ok.mp afterDeleted
  obtain ⟨_, third, updated, afterUpdated⟩ :=
    Transaction.run_bind_ok.mp afterRevoked
  have resolving : Touches [.resetRequests] third after := by
    refine Follows.ite (fun _ => ?_) (fun _ => Follows.pure _) _ _ _
      afterUpdated
    exact Follows.bind (touches_updateResetRequests (by simp) _ _)
      fun _ => Follows.pure _
  cases deleted
  obtain ⟨grants, rfl, isRevoked⟩ := revokeTokens_ok revoked
  obtain ⟨accounts, rfl, isUpdated⟩ := updateAccounts_ok updated
  have sameAccounts : after.accounts = accounts :=
    resolving .accounts (by simp)
  have sameGrants : after.grants = grants := resolving .grants (by simp)
  refine ⟨?_, resolving .accountRevisions (by simp),
    resolving .endpointSessions (by simp), ?_⟩
  · rw [sameAccounts, isUpdated]
    rfl
  · rw [sameGrants, isRevoked]
    intro row member owned
    obtain ⟨stored, -, rfl⟩ := List.mem_map.mp member
    rw [revoked_tokenId] at owned
    exact revoked_selected owned

/-- Two updates of the same rows are one. -/
theorem applyWhere_twice {Row : Type} {selected : Row → Bool}
    {first second : Row → Row} {row : Row}
    (keeps : ∀ row, selected row = true → selected (first row) = true) :
    Table.applyWhere selected second (Table.applyWhere selected first row) =
      Table.applyWhere selected (second ∘ first) row := by
  cases isSelected : selected row with
  | false => simp [isSelected]
  | true => simp [isSelected, keeps row isSelected]

theorem changeAccount_ok
    (ran : changeAccount services principal input previous now records =
      .ok ((), after)) :
    AccountChanged principal input
      (if previous.status = input.status then .renamed else .signIn)
      records after := by
  obtain ⟨_, first, signIns, afterSignIns⟩ := Transaction.run_bind_ok.mp ran
  obtain ⟨_, second, set_, afterSet⟩ := Transaction.run_bind_ok.mp afterSignIns
  obtain ⟨_, third, bumped, recorded⟩ := Transaction.run_bind_ok.mp afterSet
  have logging : Touches [.audit] third after :=
    touches_audit (by simp) _ _ _ _ _ recorded
  obtain ⟨accounts, rfl, isSet⟩ := updateAccounts_ok set_
  cases bumped
  have sameAccounts : after.accounts = accounts := logging .accounts (by simp)
  have sameSessions : after.endpointSessions = first.endpointSessions :=
    logging .endpointSessions (by simp)
  have sameGrants : after.grants = first.grants := logging .grants (by simp)
  have revisions : after.accountRevisions =
      ⟨principal.tenantId, input.accountId, input.revision + 1⟩ ::
        first.accountRevisions.filter fun row =>
          ¬ (row.tenantId = principal.tenantId ∧
            row.accountId = input.accountId) :=
    logging .accountRevisions (by simp)
  by_cases isStatus : previous.status = input.status
  · rw [if_pos isStatus]
    unfold changeSignIn at signIns
    rw [if_neg (not_not_intro isStatus)] at signIns
    cases signIns
    refine ⟨by decide, ?_, revisions, ?_, nofun⟩
    · rw [sameAccounts, isSet]
      rfl
    · rw [sameSessions]
      simp
  · rw [if_neg isStatus]
    unfold changeSignIn at signIns
    rw [if_pos isStatus] at signIns
    obtain ⟨signedOuts, sameRevisions, sessions, tokens⟩ :=
      revokeSignIn_ok signIns
    refine ⟨by decide, ?_, ?_, ?_, fun _ => ?_⟩
    · rw [sameAccounts, isSet, signedOuts, List.map_map]
      exact List.map_congr_left fun row _ =>
        applyWhere_twice fun stored isKey => isKey
    · rw [revisions, sameRevisions]
    · rw [sameSessions, sessions]
      simp
    · rw [sameGrants]
      exact tokens

/-- What an update of an account has found, and what it writes when it changes
anything. -/
theorem updateAccount_ok
    (ran : updateAccount services principal input now records =
      .ok (change, after)) :
    ∃ previous, AccountFound principal input records previous ∧
      ((change = .unchanged ∧ after = records) ∨
        (change = (if previous.status = input.status then .renamed
            else .signIn) ∧
          AccountChanged principal input change records after)) := by
  obtain ⟨_, start, valid, afterValid⟩ := Transaction.run_bind_ok.mp ran
  obtain ⟨-, rfl⟩ := require_ok valid
  obtain ⟨_, _, capable, afterCapable⟩ := Transaction.run_bind_ok.mp afterValid
  obtain ⟨_, holds, rfl⟩ := inAppliance_ok capable
  obtain ⟨-, rfl⟩ := holds_of_requireCurrentCapability holds
  obtain ⟨_, _, read, afterRead⟩ := Transaction.run_bind_ok.mp afterCapable
  cases read
  cases isFound : start.accounts.rows.find?
      (·.hasKey principal.tenantId input.accountId) with
  | none =>
      rw [isFound] at afterRead
      cases afterRead
  | some previous =>
      rw [isFound] at afterRead
      obtain ⟨_, _, revision, afterRevision⟩ :=
        Transaction.run_bind_ok.mp afterRead
      obtain ⟨current, rfl⟩ := require_ok revision
      have isKey := List.find?_some isFound
      refine ⟨previous,
        ⟨List.mem_of_find?_eq_some isFound, isKey, current⟩, ?_⟩
      split at afterRevision
      · cases afterRevision
        exact .inl ⟨rfl, rfl⟩
      · obtain ⟨_, _, changed, returned⟩ :=
          Transaction.run_bind_ok.mp afterRevision
        cases returned
        exact .inr ⟨rfl, changeAccount_ok changed⟩

end Accounts

end Directory

end ControlForge
