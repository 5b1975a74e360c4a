import ControlForge.Access.Authority
import ControlForge.Directory.Writes

/-!
# Whom the ceremonies and the owner's commands appoint

What the first administrator, an invited member, a new network and the
designation of an owner add to the users, the networks, the owners and their
memberships.
-/

namespace ControlForge

namespace Directory

open Access

variable {Log : Type} {services : Services Log} {records after : Records Log}
  {draw : Draw}

/-! ## Statements -/

section Statements

variable {result : Unit}

theorem insertTenant_ok {row : TenantRecord}
    (ran : insertTenant row records = .ok (result, after)) :
    ∃ tenants, after = { records with tenants } ∧
      tenants.rows = records.tenants.rows ++ [row] := by
  unfold insertTenant at ran
  obtain ⟨rows, rfl, -, written⟩ := insertInto_ok ran
  exact ⟨rows, rfl, written⟩

theorem insertNamespace_ok {row : NamespaceRow}
    (ran : insertNamespace row records = .ok (result, after)) :
    ∃ namespaces, after = { records with namespaces } := by
  unfold insertNamespace at ran
  obtain ⟨rows, rfl, -, -⟩ := insertInto_ok ran
  exact ⟨rows, rfl⟩

/-- A user is inserted whose key and email are free in the network. -/
theorem insertedUser {row : UserRecord}
    (ran : inAppliance (insertUser row) records = .ok (result, after)) :
    ∃ users, after = { records with users } ∧
      (∀ stored ∈ records.users.rows, UserRecord.clash stored row = false) ∧
      users.rows = records.users.rows ++ [row] := by
  obtain ⟨appliance, inserted, rfl⟩ := inAppliance_ok ran
  unfold insertUser at inserted
  split at inserted
  · next users stored =>
      cases inserted
      exact ⟨users, rfl, Table.insert_eq_some.mp stored⟩
  · cases inserted

theorem requireUser_ok {tenantId userId : String}
    (ran : requireUser tenantId userId records = .ok (result, after)) :
    after = records := by
  obtain ⟨_, _, read, required⟩ := Transaction.run_bind_ok.mp ran
  cases read
  exact (require_ok required).2

theorem insertOwner_ok {row : PlatformOwnerRow}
    (ran : insertOwner row records = .ok (result, after)) :
    records.platformOwners = [] ∧
      after = { records with platformOwners := [row] } := by
  obtain ⟨_, _, read, guarded⟩ := Transaction.run_bind_ok.mp ran
  cases read
  obtain ⟨_, _, required, writing⟩ := Transaction.run_bind_ok.mp guarded
  obtain ⟨unowned, rfl⟩ := Transaction.run_require_ok.mp required
  obtain ⟨_, _, written, isUser⟩ := Transaction.run_bind_ok.mp writing
  cases written
  exact ⟨unowned, requireUser_ok isUser⟩

theorem insertMembership_ok {row : OwnerMembershipRow}
    (ran : insertMembership row records = .ok (result, after)) :
    after = { records with
      ownerMemberships := records.ownerMemberships ++ [row] } := by
  obtain ⟨_, _, read, guarded⟩ := Transaction.run_bind_ok.mp ran
  cases read
  obtain ⟨_, _, required, writing⟩ := Transaction.run_bind_ok.mp guarded
  obtain ⟨-, rfl⟩ := Transaction.run_require_ok.mp required
  obtain ⟨_, _, written, isUser⟩ := Transaction.run_bind_ok.mp writing
  cases written
  obtain ⟨_, _, isMember, isHome⟩ := Transaction.run_bind_ok.mp isUser
  have same := requireUser_ok isMember
  rw [same] at isHome
  exact requireUser_ok isHome

end Statements

/-! ## The first administrator -/

/-- What a bootstrap finds and writes. -/
structure Bootstrapped (context : BootstrapContext) (draw : Draw)
    (before after : Records Log) : Prop where
  unconfigured : configured before = false
  unowned : before.platformOwners = []
  tenants : after.tenants.rows = before.tenants.rows ++
    [⟨⟨draw.secondId, "active"⟩, context.tenantSlug,
      context.tenantDisplayName⟩]
  users : after.users.rows =
    before.users.rows ++ [firstUser draw.secondId context]
  owners : after.platformOwners = [⟨draw.secondId, context.userId⟩]
  memberships : after.ownerMemberships = before.ownerMemberships

theorem installAdministrator_ok {context : BootstrapContext}
    {verified : RegistrationVerification}
    (ran : installAdministrator services context verified draw records =
      .ok ((), after)) :
    records.platformOwners = [] ∧
      after.tenants.rows = records.tenants.rows ++
        [⟨⟨draw.secondId, "active"⟩, context.tenantSlug,
          context.tenantDisplayName⟩] ∧
      after.users.rows =
        records.users.rows ++ [firstUser draw.secondId context] ∧
      after.platformOwners = [⟨draw.secondId, context.userId⟩] := by
  obtain ⟨_, first, network, afterNetwork⟩ := Transaction.run_bind_ok.mp ran
  obtain ⟨_, second, user, afterUser⟩ := Transaction.run_bind_ok.mp afterNetwork
  obtain ⟨_, third, passkey, afterPasskey⟩ :=
    Transaction.run_bind_ok.mp afterUser
  obtain ⟨_, fourth, owner, codes⟩ := Transaction.run_bind_ok.mp afterPasskey
  have registering : Touches [.passkeys] second third :=
    touches_insertPasskey (by simp) _ _ _ _ passkey
  have coding : Touches [.recoveryCodes] fourth after :=
    touches_insertRecoveryCodes services (by simp) _ _ _ _ _ _ codes
  have sameOwners : third.platformOwners = second.platformOwners :=
    registering .platformOwners (by simp)
  have sameTenants : third.tenants = second.tenants :=
    registering .tenants (by simp)
  have sameUsers : third.users = second.users := registering .users (by simp)
  obtain ⟨unowned, rfl⟩ := insertOwner_ok owner
  have lastOwners : after.platformOwners =
      [⟨draw.secondId, context.userId⟩] := coding .platformOwners (by simp)
  have lastTenants : after.tenants = third.tenants := coding .tenants (by simp)
  have lastUsers : after.users = third.users := coding .users (by simp)
  obtain ⟨tenants, rfl, isNetwork⟩ := insertTenant_ok network
  obtain ⟨users, rfl, -, isUser⟩ := insertedUser user
  refine ⟨?_, ?_, ?_, lastOwners⟩
  · rw [sameOwners] at unowned
    exact unowned
  · rw [lastTenants, sameTenants]
    exact isNetwork
  · rw [lastUsers, sameUsers]
    exact isUser

theorem completeBootstrap_ok {challengeId : String}
    {context : BootstrapContext} {verified : RegistrationVerification}
    (ran : completeBootstrap services challengeId context verified draw
      records = .ok ((), after)) : Bootstrapped context draw records after := by
  have touches : Touches bootstrapTables records after :=
    touches_completeBootstrap services _ _ _ _ _ _ _ ran
  obtain ⟨_, first, consumed, rest⟩ := Transaction.run_bind_ok.mp ran
  obtain ⟨_, second, used, further⟩ := Transaction.run_bind_ok.mp rest
  obtain ⟨_, third, installed, issued⟩ := Transaction.run_bind_ok.mp further
  have consuming : Touches [.challenges] records first :=
    touches_consumeChallenge (by simp) _ _ _ _ _ consumed
  have preparing : Touches [.challenges, .bootstrapTokens] records second :=
    IsTrans.trans _ _ _ (consuming.mono (by simp))
      (touches_useBootstrapToken (by simp) _ _ _ _ _ used)
  have issuing : Touches [.sessions, .sessionIds] third after :=
    touches_issueSession services (by simp) (by simp) _ _ _ _ _ _ issued
  obtain ⟨unowned, tenants, users, owners⟩ := installAdministrator_ok installed
  have firstUsers : first.users = records.users := consuming .users (by simp)
  have sameOwners : second.platformOwners = records.platformOwners :=
    preparing .platformOwners (by simp)
  have sameTenants : second.tenants = records.tenants :=
    preparing .tenants (by simp)
  have sameUsers : second.users = records.users := preparing .users (by simp)
  have lastOwners : after.platformOwners = third.platformOwners :=
    issuing .platformOwners (by simp)
  have lastTenants : after.tenants = third.tenants :=
    issuing .tenants (by simp)
  have lastUsers : after.users = third.users := issuing .users (by simp)
  have unconfigured := (useBootstrapToken_ok used).1
  constructor
  · unfold configured at unconfigured ⊢
    rw [← firstUsers]
    exact unconfigured
  · rw [← sameOwners]
    exact unowned
  · rw [lastTenants, tenants, sameTenants]
  · rw [lastUsers, users, sameUsers]
  · rw [lastOwners, owners]
  · exact touches .ownerMemberships (by simp)

/-! ## Members -/

theorem completeInvite_ok {invitation : Invitation}
    {verified : RegistrationVerification}
    (ran : completeInvite services invitation verified draw records =
      .ok ((), after)) :
    after.users.rows = records.users.rows ++ [invitedUser invitation] := by
  obtain ⟨_, first, used, rest⟩ := Transaction.run_bind_ok.mp ran
  obtain ⟨_, second, installed, issued⟩ := Transaction.run_bind_ok.mp rest
  obtain ⟨_, third, issuer, afterIssuer⟩ := Transaction.run_bind_ok.mp installed
  obtain ⟨_, fourth, user, afterUser⟩ := Transaction.run_bind_ok.mp afterIssuer
  obtain ⟨_, fifth, passkey, afterPasskey⟩ :=
    Transaction.run_bind_ok.mp afterUser
  obtain ⟨_, sixth, codes, recorded⟩ := Transaction.run_bind_ok.mp afterPasskey
  have using_ : Touches [.inviteChallenges, .invites] records first :=
    touches_useInvitation (by simp) (by simp) _ _ _ _ _ used
  have checking : Touches [.inviteChallenges, .invites] first third :=
    touches_inAppliance (touchesIn_requireIssuer _ _) _ _ _ issuer
  have registering : Touches [.passkeys, .recoveryCodes, .audit, .sessions,
      .sessionIds] fourth fifth :=
    touches_insertPasskey (by simp) _ _ _ _ passkey
  have coding : Touches [.passkeys, .recoveryCodes, .audit, .sessions,
      .sessionIds] fifth sixth :=
    touches_insertRecoveryCodes services (by simp) _ _ _ _ _ _ codes
  have logging : Touches [.passkeys, .recoveryCodes, .audit, .sessions,
      .sessionIds] sixth second :=
    touches_audit (by simp) _ _ _ _ _ recorded
  have issuing : Touches [.passkeys, .recoveryCodes, .audit, .sessions,
      .sessionIds] second after :=
    touches_issueSession services (by simp) (by simp) _ _ _ _ _ _ issued
  have sameUsers : third.users = records.users :=
    IsTrans.trans _ _ _ using_ checking .users (by simp)
  have lastUsers : after.users = fourth.users :=
    IsTrans.trans _ _ _ (IsTrans.trans _ _ _
      (IsTrans.trans _ _ _ registering coding) logging) issuing .users (by simp)
  obtain ⟨users, rfl, -, isUser⟩ := insertedUser user
  rw [lastUsers, ← sameUsers]
  exact isUser

/-! ## Networks -/

/-- What the creation of a network finds and writes. -/
structure NetworkCreated (principal : SessionPrincipal) (input : NetworkInput)
    (draw : Draw) (before after : Records Log) : Prop where
  owned : isOwner before.identity principal = true
  tenants : after.tenants.rows = before.tenants.rows ++
    [⟨⟨draw.id, "active"⟩, input.slug, Text.strip input.displayName⟩]
  free : ∀ user ∈ before.users.rows,
    user.hasKey draw.id principal.userId = false
  users : after.users.rows = before.users.rows ++
    [projection draw.id principal.userId input.ownerEmail]
  memberships : after.ownerMemberships = before.ownerMemberships ++
    [⟨draw.id, principal.userId, principal.tenantId⟩]

theorem not_hasKey_of_clash {stored row : UserRecord}
    (free : UserRecord.clash stored row = false) :
    stored.hasKey row.tenantId row.userId = false := by
  unfold UserRecord.clash at free
  simp only [Bool.or_eq_false_iff] at free
  exact free.1

theorem createNetwork_ok {principal : SessionPrincipal} {input : NetworkInput}
    (ran : createNetwork services principal input draw records =
      .ok ((), after)) : NetworkCreated principal input draw records after := by
  obtain ⟨domain, _, checked, afterChecked⟩ := Transaction.run_bind_ok.mp ran
  obtain ⟨_, checking, rfl⟩ := inAppliance_ok checked
  obtain ⟨-, rfl⟩ := Transaction.run_ofExcept_eq_ok.mp checking
  obtain ⟨_, start, admin, afterAdmin⟩ := Transaction.run_bind_ok.mp afterChecked
  obtain ⟨_, isAdmin, rfl⟩ := inAppliance_ok admin
  obtain ⟨-, rfl⟩ := holds_of_requireCurrentCapability isAdmin
  obtain ⟨_, _, read, afterRead⟩ := Transaction.run_bind_ok.mp afterAdmin
  cases read
  obtain ⟨_, _, owner, afterOwner⟩ := Transaction.run_bind_ok.mp afterRead
  obtain ⟨owned, rfl⟩ := require_ok owner
  obtain ⟨_, _, limit, afterLimit⟩ := Transaction.run_bind_ok.mp afterOwner
  obtain ⟨-, rfl⟩ := require_ok limit
  obtain ⟨_, named, names, afterNamed⟩ := Transaction.run_bind_ok.mp afterLimit
  obtain ⟨_, _, network, namespace_⟩ :=
    Transaction.run_bind_ok.mp (replaceFailure_ok names)
  obtain ⟨tenants, rfl, isNetwork⟩ := insertTenant_ok network
  obtain ⟨namespaces, rfl⟩ := insertNamespace_ok namespace_
  obtain ⟨_, _, user, afterUser⟩ := Transaction.run_bind_ok.mp afterNamed
  obtain ⟨users, rfl, free, isUser⟩ := insertedUser user
  obtain ⟨_, joined, membership, afterMembership⟩ :=
    Transaction.run_bind_ok.mp afterUser
  have isMembership := insertMembership_ok membership
  obtain ⟨_, _, created, copied⟩ := Transaction.run_bind_ok.mp afterMembership
  have logging : Touches [.audit] joined after :=
    IsTrans.trans _ _ _ (touches_audit (by simp) _ _ _ _ _ created)
      (touches_audit (by simp) _ _ _ _ _ copied)
  have lastTenants : after.tenants = joined.tenants :=
    logging .tenants (by simp)
  have lastUsers : after.users = joined.users := logging .users (by simp)
  have lastMemberships : after.ownerMemberships = joined.ownerMemberships :=
    logging .ownerMemberships (by simp)
  rw [isMembership] at lastTenants lastUsers lastMemberships
  refine ⟨owned, ?_, ?_, ?_, lastMemberships⟩
  · rw [lastTenants]
    exact isNetwork
  · intro stored member
    exact not_hasKey_of_clash (free stored member)
  · rw [lastUsers]
    exact isUser

/-! ## The owner -/

/-- What the designation of an owner finds and writes. -/
structure Designated (input : Designation) (candidate : UserRecord)
    (targets : List String) (before after : Records Log) : Prop where
  free : ∀ target ∈ targets, ∀ user ∈ before.users.rows,
    user.hasKey target input.userId = false
  users : after.users.rows = before.users.rows ++ targets.map fun target =>
    projection target input.userId candidate.email
  memberships : after.ownerMemberships = before.ownerMemberships ++
    targets.map fun target => ⟨target, input.userId, input.tenantId⟩

section Designations

variable {input : Designation} {candidate : UserRecord} {now : Timestamp}

theorem projectOwner_ok {target : String}
    (ran : projectOwner services input candidate now target records =
      .ok ((), after)) :
    Designated input candidate [target] records after := by
  obtain ⟨_, _, read, afterRead⟩ := Transaction.run_bind_ok.mp ran
  cases read
  obtain ⟨_, _, required, afterRequired⟩ :=
    Transaction.run_bind_ok.mp afterRead
  obtain ⟨-, rfl⟩ := Transaction.run_require_ok.mp required
  obtain ⟨_, _, user, afterUser⟩ := Transaction.run_bind_ok.mp afterRequired
  obtain ⟨users, rfl, free, isUser⟩ := insertedUser user
  obtain ⟨_, joined, membership, recorded⟩ :=
    Transaction.run_bind_ok.mp afterUser
  have isMembership := insertMembership_ok membership
  have logging : Touches [.audit] joined after :=
    touches_audit (by simp) _ _ _ _ _ recorded
  have lastUsers : after.users = joined.users := logging .users (by simp)
  have lastMemberships : after.ownerMemberships = joined.ownerMemberships :=
    logging .ownerMemberships (by simp)
  rw [isMembership] at lastUsers lastMemberships
  refine ⟨?_, ?_, lastMemberships⟩
  · intro other member stored isStored
    rw [List.mem_singleton.mp member]
    exact not_hasKey_of_clash (free stored isStored)
  · rw [lastUsers]
    exact isUser

/-- The owner joins one network after the other. -/
theorem projectOwners_ok {targets : List String}
    (ran : targets.forM (projectOwner services input candidate now) records =
      .ok ((), after)) : Designated input candidate targets records after := by
  induction targets generalizing records with
  | nil =>
      cases ran
      exact ⟨nofun, (List.append_nil _).symm, (List.append_nil _).symm⟩
  | cons target targets hypothesis =>
      obtain ⟨_, middle, projected, rest⟩ := Transaction.run_bind_ok.mp ran
      have first := projectOwner_ok projected
      have others := hypothesis rest
      constructor
      · intro other member user isUser
        rcases List.mem_cons.mp member with rfl | later
        · exact first.free _ List.mem_cons_self user isUser
        · refine others.free other later user ?_
          rw [first.users]
          exact List.mem_append_left _ isUser
      · rw [others.users, first.users, List.append_assoc]
        rfl
      · rw [others.memberships, first.memberships, List.append_assoc]
        rfl

/-- An owner is already designated and stays, or the candidate becomes the
owner of all networks that were read. -/
theorem designate_ok {tenants : List String}
    (ran : designate services input tenants now records = .ok ((), after)) :
    (records.platformOwners ≠ [] ∧ after = records) ∨
      records.platformOwners = [] ∧
        after.platformOwners = [⟨input.tenantId, input.userId⟩] ∧
        ∃ candidate,
          ownerCandidate records input.tenantId input.userId =
            some candidate ∧
          Designated input candidate (tenants.filter (· ≠ input.tenantId))
            records after := by
  obtain ⟨_, _, read, afterRead⟩ := Transaction.run_bind_ok.mp ran
  cases read
  cases isOwned : records.platformOwners with
  | cons previous others =>
      rw [isOwned] at afterRead
      left
      exact ⟨List.cons_ne_nil _ _, (Transaction.run_require_ok.mp afterRead).2⟩
  | nil =>
      rw [isOwned] at afterRead
      right
      obtain ⟨_, start, required, afterRequired⟩ :=
        Transaction.run_bind_ok.mp afterRead
      obtain ⟨-, rfl⟩ := Transaction.run_require_ok.mp required
      cases isFound : ownerCandidate start input.tenantId input.userId with
      | none =>
          rw [isFound] at afterRequired
          cases afterRequired
      | some candidate =>
          rw [isFound] at afterRequired
          obtain ⟨_, joined, joining, afterJoining⟩ :=
            Transaction.run_bind_ok.mp afterRequired
          obtain ⟨_, owned, owning, afterOwning⟩ :=
            Transaction.run_bind_ok.mp afterJoining
          obtain ⟨_, revoked, revoking, afterRevoking⟩ :=
            Transaction.run_bind_ok.mp afterOwning
          obtain ⟨_, consumed, consuming, recorded⟩ :=
            Transaction.run_bind_ok.mp afterRevoking
          have signingOut : Touches [.sessions, .challenges, .audit] owned
              revoked :=
            touches_inAppliance (touchesIn_revokeSessions (by simp) _ _) _ _ _
              revoking
          have closing : Touches [.sessions, .challenges, .audit] revoked
              consumed :=
            touches_inAppliance (touchesIn_consumeChallenges (by simp) _ _)
              _ _ _ consuming
          have logging : Touches [.sessions, .challenges, .audit] consumed
              after := touches_audit (by simp) _ _ _ _ _ recorded
          have finishing : Touches [.sessions, .challenges, .audit] owned
              after :=
            IsTrans.trans _ _ _ (IsTrans.trans _ _ _ signingOut closing) logging
          have lastOwners : after.platformOwners = owned.platformOwners :=
            finishing .platformOwners (by simp)
          have lastUsers : after.users = owned.users :=
            finishing .users (by simp)
          have lastMemberships : after.ownerMemberships =
              owned.ownerMemberships := finishing .ownerMemberships (by simp)
          have isJoined := projectOwners_ok joining
          obtain ⟨-, rfl⟩ := insertOwner_ok owning
          refine ⟨rfl, lastOwners, candidate, rfl, isJoined.free, ?_, ?_⟩
          · rw [lastUsers]
            exact isJoined.users
          · rw [lastMemberships]
            exact isJoined.memberships

end Designations

end Directory

end ControlForge
