import ControlForge.Directory.Appointments
import ControlForge.Directory.Origins
import ControlForge.Directory.Updates

/-!
# What the steps leave to people and networks

`Lasting` is what no step undoes: users, networks and the owner stay, a network
keeps an administrator, and nobody but the owner changes the owner's identities.
`SignsDirectly` is where the sessions after a step come from.
-/

namespace ControlForge

namespace Directory

namespace Continuity

open Access

variable {Log : Type} {services : Services Log}

/-! ## People and networks -/

section People

variable (records : Records Log)

def IsUser (tenantId userId : String) : Prop :=
  ∃ user ∈ records.users.rows, user.hasKey tenantId userId = true

/-- The user is an active administrator of the network. -/
def IsAdmin (tenantId userId : String) : Prop :=
  ∃ user ∈ records.users.rows, user.hasKey tenantId userId = true ∧
    user.role = .admin ∧ user.status = "active"

def HasAdmin (tenantId : String) : Prop :=
  ∃ userId, IsAdmin records tenantId userId

def IsNetwork (tenantId : String) : Prop :=
  ∃ tenant ∈ records.tenants.rows, tenant.tenantId = tenantId

def IsActive (tenantId : String) : Prop :=
  ∃ tenant ∈ records.tenants.rows, tenant.tenantId = tenantId ∧
    tenant.status = "active"

/-- The identity is a user, and not the membership of an owner. -/
def Direct (tenantId userId : String) : Prop :=
  IsUser records tenantId userId ∧
    ∀ membership ∈ records.ownerMemberships,
      ¬ (membership.tenantId = tenantId ∧ membership.userId = userId)

end People

/-- What no step undoes. -/
structure Lasting (before after : Records Log) : Prop where
  users : ∀ tenantId userId, IsUser before tenantId userId →
    IsUser after tenantId userId
  admins : ∀ tenantId, HasAdmin before tenantId → HasAdmin after tenantId
  networks : ∀ tenantId, IsNetwork before tenantId → IsNetwork after tenantId
  owners : ∀ owner ∈ before.platformOwners, owner ∈ after.platformOwners
  identities : ∀ owner ∈ before.platformOwners, ∀ tenantId,
    IsAdmin before tenantId owner.userId → IsAdmin after tenantId owner.userId
  homes : ∀ owner ∈ before.platformOwners, IsActive before owner.homeTenantId →
    IsActive after owner.homeTenantId

namespace Lasting

variable {first second third : Records Log}

theorem refl (records : Records Log) : Lasting records records :=
  ⟨fun _ _ => id, fun _ => id, fun _ => id, fun _ => id, fun _ _ _ => id,
    fun _ _ => id⟩

theorem trans (left : Lasting first second) (right : Lasting second third) :
    Lasting first third where
  users tenantId userId isUser :=
    right.users tenantId userId (left.users tenantId userId isUser)
  admins tenantId hasAdmin :=
    right.admins tenantId (left.admins tenantId hasAdmin)
  networks tenantId isNetwork :=
    right.networks tenantId (left.networks tenantId isNetwork)
  owners owner member := right.owners owner (left.owners owner member)
  identities owner member tenantId isAdmin :=
    right.identities owner (left.owners owner member) tenantId
      (left.identities owner member tenantId isAdmin)
  homes owner member isActive :=
    right.homes owner (left.owners owner member)
      (left.homes owner member isActive)

end Lasting

section Rows

variable {before after : Records Log} {tenantId userId : String}

theorem IsAdmin.mono (subset : before.users.rows ⊆ after.users.rows)
    (isAdmin : IsAdmin before tenantId userId) :
    IsAdmin after tenantId userId := by
  obtain ⟨user, member, isKey⟩ := isAdmin
  exact ⟨user, subset member, isKey⟩

theorem IsUser.mono (subset : before.users.rows ⊆ after.users.rows)
    (isUser : IsUser before tenantId userId) :
    IsUser after tenantId userId := by
  obtain ⟨user, member, isKey⟩ := isUser
  exact ⟨user, subset member, isKey⟩

/-- Users, networks and owners are only added. -/
theorem Lasting.of_subset (users : before.users.rows ⊆ after.users.rows)
    (tenants : before.tenants.rows ⊆ after.tenants.rows)
    (owners : before.platformOwners ⊆ after.platformOwners) :
    Lasting before after where
  users _ _ isUser := isUser.mono users
  admins tenantId hasAdmin := by
    obtain ⟨userId, isAdmin⟩ := hasAdmin
    exact ⟨userId, isAdmin.mono users⟩
  networks tenantId isNetwork := by
    obtain ⟨tenant, member, isKey⟩ := isNetwork
    exact ⟨tenant, tenants member, isKey⟩
  owners _ member := owners member
  identities _ _ _ isAdmin := isAdmin.mono users
  homes owner _ isActive := by
    obtain ⟨tenant, member, isKey⟩ := isActive
    exact ⟨tenant, tenants member, isKey⟩

/-- An appliance is configured while some network has an administrator. -/
theorem configured_iff (records : Records Log) :
    configured records = true ↔ ∃ tenantId, HasAdmin records tenantId := by
  unfold configured
  rw [List.any_eq_true]
  constructor
  · rintro ⟨user, member, isAdmin⟩
    obtain ⟨isRole, isStatus⟩ := of_decide_eq_true isAdmin
    exact ⟨user.tenantId, user.userId, user, member,
      decide_eq_true ⟨rfl, rfl⟩, isRole, isStatus⟩
  · rintro ⟨tenantId, userId, user, member, -, isRole, isStatus⟩
    exact ⟨user, member, decide_eq_true ⟨isRole, isStatus⟩⟩

theorem Lasting.configured (lasting : Lasting before after)
    (isConfigured : Directory.configured before = true) :
    Directory.configured after = true := by
  obtain ⟨tenantId, hasAdmin⟩ := (configured_iff before).mp isConfigured
  exact (configured_iff after).mpr ⟨tenantId, lasting.admins tenantId hasAdmin⟩

end Rows

/-! ## Updates of members and networks -/

section Updates

variable {records after : Records Log} {principal : SessionPrincipal}
  {now : Timestamp}

/-- Who may manage a network is one of its administrators. -/
theorem isAdmin_of_manage {tenantId userId : String}
    (held : holds records.identity ⟨tenantId, userId, .manage⟩ = true) :
    IsAdmin records tenantId userId := by
  obtain ⟨user, isActive, capable, -⟩ := holds_iff.mp held
  obtain ⟨row, found, rfl⟩ := activeUser_iff.mp isActive
  have selected := List.find?_some found
  rw [Bool.and_eq_true] at selected
  refine ⟨row, List.mem_of_find?_eq_some found, selected.1, ?_,
    of_decide_eq_true selected.2⟩
  change Capability.manage ∈ row.role.capabilities at capable
  cases isRole : row.role with
  | admin => rfl
  | viewer | analyst | responder =>
      rw [isRole] at capable
      simp [Role.capabilities] at capable

theorem updateMember_by {input : MemberUpdate} {changed : Bool}
    (ran : updateMember services principal input now records =
      .ok (changed, after)) :
    IsAdmin records principal.tenantId principal.userId := by
  obtain ⟨_, _, updated, returned⟩ := Transaction.run_bind_ok.mp ran
  obtain ⟨_, updating, rfl⟩ := inAppliance_ok updated
  obtain ⟨_, _, valid, afterValid⟩ := Transaction.run_bind_ok.mp updating
  obtain ⟨-, rfl⟩ := Transaction.run_require_ok.mp valid
  obtain ⟨_, _, capable, -⟩ := Transaction.run_bind_ok.mp afterValid
  exact isAdmin_of_manage (holds_of_requireCurrentCapability capable).1

/-- The row of another user is left alone. -/
theorem IsAdmin.kept {input : MemberUpdate} {tenantId userId : String}
    (users : after.users.rows = records.users.rows.map (Table.applyWhere
      (·.hasKey principal.tenantId input.userId) (changedMember input)))
    (other : ¬ (tenantId = principal.tenantId ∧ userId = input.userId))
    (isAdmin : IsAdmin records tenantId userId) :
    IsAdmin after tenantId userId := by
  obtain ⟨user, member, isKey, isRole, isStatus⟩ := isAdmin
  refine ⟨user, ?_, isKey, isRole, isStatus⟩
  rw [users]
  refine List.mem_map.mpr ⟨user, member, Table.applyWhere_unselected ?_⟩
  obtain ⟨isTenant, isUser⟩ := of_decide_eq_true isKey
  rw [← isTenant, ← isUser] at other
  exact decide_eq_false other

theorem lasting_updateMember {input : MemberUpdate} {changed : Bool}
    (ran : updateMember services principal input now records =
      .ok (changed, after)) : Lasting records after := by
  have touches : Touches memberTables records after :=
    touches_updateMember services _ _ _ _ _ _ ran
  have manager := updateMember_by ran
  obtain ⟨change, middle, updated, returned⟩ := Transaction.run_bind_ok.mp ran
  cases returned
  obtain ⟨appliance, updating, rfl⟩ := inAppliance_ok updated
  obtain ⟨target, found, outcome⟩ := updateMember_ok updating
  rcases outcome with ⟨-, rfl⟩ | ⟨-, written⟩
  · exact .refl _
  have sameTenants : appliance.tenants = records.tenants :=
    touches .tenants (by simp)
  have sameOwners : appliance.platformOwners = records.platformOwners :=
    touches .platformOwners (by simp)
  have unprotected := found.unprotected
  simp only [isProtected, Bool.or_eq_false_iff, decide_eq_false_iff_not]
    at unprotected
  obtain ⟨⟨notSelf, notOwner⟩, -⟩ := unprotected
  constructor
  · rintro tenantId userId ⟨user, member, isKey⟩
    refine ⟨Table.applyWhere
      (·.hasKey principal.tenantId input.userId) (changedMember input) user,
      ?_, ?_⟩
    · rw [written.users]
      exact List.mem_map_of_mem member
    · unfold Table.applyWhere
      split <;> exact isKey
  · rintro tenantId ⟨userId, isAdmin⟩
    by_cases isTarget : tenantId = principal.tenantId ∧ userId = input.userId
    · refine ⟨principal.userId, ?_⟩
      rw [isTarget.1]
      exact manager.kept written.users fun same => notSelf same.2.symm
    · exact ⟨userId, isAdmin.kept written.users isTarget⟩
  · intro tenantId isNetwork
    unfold IsNetwork
    rw [sameTenants]
    exact isNetwork
  · intro owner member
    rw [sameOwners]
    exact member
  · intro owner member tenantId isAdmin
    refine isAdmin.kept written.users fun same => ?_
    exact List.any_eq_false.mp notOwner owner member (decide_eq_true same.2)
  · intro owner member isActive
    unfold IsActive
    rw [sameTenants]
    exact isActive

theorem renamed_tenantId (input : NetworkUpdate) (tenant : TenantRecord) :
    (Table.applyWhere (fun row => row.tenantId = input.tenantId)
      (renamedNetwork input) tenant).tenantId = tenant.tenantId := by
  unfold Table.applyWhere
  split <;> rfl

theorem status_of_valid {input : NetworkUpdate}
    (valid : validNetworkUpdate input = true) :
    input.status = "active" ∨ input.status = "suspended" := by
  unfold validNetworkUpdate at valid
  rw [Bool.and_eq_true] at valid
  exact (of_decide_eq_true valid.1).2.2

/-- Only the network of an update changes its status, and the home network of
the owner is not suspended. -/
theorem lasting_updateNetwork {input : NetworkUpdate} {changed : Bool}
    {suspension : Option AuthorityChange}
    (ran : updateNetwork services principal input now records =
      .ok ((changed, suspension), after)) :
    Lasting records after ∧
      ∀ tenantId, IsNetwork after tenantId → IsNetwork records tenantId := by
  have touches : Touches networkTables records after :=
    touches_updateNetwork services _ _ _ _ _ _ ran
  obtain ⟨_, _, read, rest⟩ := Transaction.run_bind_ok.mp ran
  cases read
  obtain ⟨_, middle, updated, returned⟩ := Transaction.run_bind_ok.mp rest
  cases returned
  obtain ⟨appliance, updating, rfl⟩ := inAppliance_ok updated
  obtain ⟨previous, found, outcome⟩ := updateNetwork_ok updating
  rcases outcome with ⟨-, -, -, rfl⟩ | written
  · exact ⟨.refl _, fun _ => id⟩
  have sameUsers : appliance.users = records.users := touches .users (by simp)
  have sameOwners : appliance.platformOwners = records.platformOwners :=
    touches .platformOwners (by simp)
  have sameIds : ∀ tenantId, IsNetwork { records with toAppliance := appliance }
      tenantId ↔ IsNetwork records tenantId := by
    intro tenantId
    unfold IsNetwork
    rw [written.tenants]
    constructor
    · rintro ⟨_, member, isKey⟩
      obtain ⟨tenant, tenantMember, rfl⟩ := List.mem_map.mp member
      refine ⟨tenant, tenantMember, ?_⟩
      rw [← isKey]
      exact (renamed_tenantId input tenant).symm
    · rintro ⟨tenant, member, isKey⟩
      refine ⟨_, List.mem_map_of_mem member, ?_⟩
      rw [← isKey]
      exact renamed_tenantId input tenant
  refine ⟨⟨?_, ?_, fun tenantId => (sameIds tenantId).mpr, ?_, ?_, ?_⟩,
    fun tenantId => (sameIds tenantId).mp⟩
  · intro tenantId userId isUser
    unfold IsUser
    rw [sameUsers]
    exact isUser
  · intro tenantId hasAdmin
    unfold HasAdmin IsAdmin
    rw [sameUsers]
    exact hasAdmin
  · intro owner member
    rw [sameOwners]
    exact member
  · intro owner member tenantId isAdmin
    unfold IsAdmin
    rw [sameUsers]
    exact isAdmin
  · rintro owner member ⟨tenant, tenantMember, isKey, isStatus⟩
    refine ⟨_, ?_, (renamed_tenantId input tenant).trans isKey, ?_⟩
    · rw [written.tenants]
      exact List.mem_map_of_mem tenantMember
    · unfold Table.applyWhere
      split
      · next isTarget =>
          have isOwn : owner.homeTenantId = input.tenantId :=
            isKey.symm.trans (of_decide_eq_true isTarget)
          rcases status_of_valid written.valid with active | suspended
          · exact active
          · exact absurd isOwn (found.home suspended owner member)
      · exact isStatus

end Updates

/-! ## Sessions -/

/-- The sessions are those from before, or of identities that may sign in. -/
def SignsDirectly (before after : Records Log) : Prop :=
  ∀ session ∈ after.sessions.rows,
    (∃ old ∈ before.sessions.rows, old.tenantId = session.tenantId ∧
      old.userId = session.userId) ∨
    signInAllowed after.identity session.tenantId session.userId = true

section Sessions

variable {records middle after : Records Log} {draw : Draw} {parts : List Part}

/-- Sessions that only lost their force. -/
theorem old_session (same : Part.sessionIds.Same records after)
    {session : SessionRecord} (member : session ∈ after.sessions.rows) :
    ∃ old ∈ records.sessions.rows, old.tenantId = session.tenantId ∧
      old.userId = session.userId := by
  change after.sessions.rows.map SessionRecord.identity =
    records.sessions.rows.map SessionRecord.identity at same
  have isOld : SessionRecord.identity session ∈
      records.sessions.rows.map SessionRecord.identity := by
    rw [← same]
    exact List.mem_map_of_mem member
  obtain ⟨old, oldMember, isSame⟩ := List.mem_map.mp isOld
  obtain ⟨-, isOwn⟩ := Prod.mk.inj isSame
  obtain ⟨tenants, users⟩ := Prod.mk.inj isOwn
  exact ⟨old, oldMember, tenants, users⟩

theorem signsDirectly_same (same : Part.sessionIds.Same records after) :
    SignsDirectly records after :=
  fun _ member => .inl (old_session same member)

/-- A session that is issued after steps which add none. -/
theorem signsDirectly_issued {tenantId userId : String} {result : Unit}
    (touches : Touches parts records middle) (apart : .sessionIds ∉ parts)
    (issued : issueSession services tenantId userId draw middle =
      .ok (result, after)) : SignsDirectly records after := by
  have issuing : Touches [.sessions, .sessionIds] middle after :=
    touches_issueSession services (by simp) (by simp) _ _ _ _ _ _ issued
  obtain ⟨allowed, rows⟩ := issueSession_ok issued
  intro session member
  rw [rows] at member
  rcases List.mem_append.mp member with old | isNew
  · exact .inl (old_session (touches .sessionIds apart) old)
  · right
    rw [List.mem_singleton.mp isNew]
    change signInAllowed after.identity tenantId userId = true
    rw [signInAllowed_congr (issuing .users (by simp))
      (issuing .tenants (by simp)) (issuing .ownerMemberships (by simp))]
    exact allowed

theorem signsDirectly_bootstrap {challengeId : String}
    {context : BootstrapContext} {verified : RegistrationVerification}
    (ran : completeBootstrap services challengeId context verified draw
      records = .ok ((), after)) : SignsDirectly records after := by
  obtain ⟨_, first, consumed, rest⟩ := Transaction.run_bind_ok.mp ran
  obtain ⟨_, second, used, further⟩ := Transaction.run_bind_ok.mp rest
  obtain ⟨_, third, installed, issued⟩ := Transaction.run_bind_ok.mp further
  have consuming : Touches (.challenges :: .bootstrapTokens ::
      administratorTables) records first :=
    touches_consumeChallenge (by simp) _ _ _ _ _ consumed
  have using_ : Touches (.challenges :: .bootstrapTokens ::
      administratorTables) first second :=
    touches_useBootstrapToken (by simp) _ _ _ _ _ used
  have installing : Touches (.challenges :: .bootstrapTokens ::
      administratorTables) second third :=
    (touches_installAdministrator services _ _ _ _ _ _ installed).mono
      (by simp)
  exact signsDirectly_issued (IsTrans.trans _ _ _
    (IsTrans.trans _ _ _ consuming using_) installing) (by simp) issued

theorem signsDirectly_authentication
    {challengeId tenantId userId credentialId : String} {newSignCount : Nat}
    (ran : completeAuthentication services challengeId tenantId userId
      credentialId newSignCount draw records = .ok ((), after)) :
    SignsDirectly records after := by
  obtain ⟨_, first, consumed, rest⟩ := Transaction.run_bind_ok.mp ran
  obtain ⟨_, second, recorded, issued⟩ := Transaction.run_bind_ok.mp rest
  have consuming : Touches [.challenges, .passkeys, .counters] records first :=
    touches_consumeChallenge (by simp) _ _ _ _ _ consumed
  have recording : Touches [.challenges, .passkeys, .counters] first second :=
    touches_updatePasskeys (by simp) (by simp) _ _ _ _ _ recorded
  exact signsDirectly_issued (IsTrans.trans _ _ _ consuming recording)
    (by simp) issued

theorem signsDirectly_invite {invitation : Invitation}
    {verified : RegistrationVerification}
    (ran : completeInvite services invitation verified draw records =
      .ok ((), after)) : SignsDirectly records after := by
  obtain ⟨_, first, used, rest⟩ := Transaction.run_bind_ok.mp ran
  obtain ⟨_, second, installed, issued⟩ := Transaction.run_bind_ok.mp rest
  have using_ : Touches [.inviteChallenges, .invites, .users, .passkeys,
      .recoveryCodes, .audit] records first :=
    touches_useInvitation (by simp) (by simp) _ _ _ _ _ used
  have installing : Touches [.inviteChallenges, .invites, .users, .passkeys,
      .recoveryCodes, .audit] first second :=
    (touches_installMember services _ _ _ _ _ _ installed).mono (by simp)
  exact signsDirectly_issued (IsTrans.trans _ _ _ using_ installing) (by simp)
    issued

theorem signsDirectly_recovery {tenantSlug email recoveryCode : String}
    {identity : String × String}
    (ran : inAppliance (recoverSession services.toDeployment tenantSlug email
      recoveryCode draw.toDraw) records = .ok (identity, after)) :
    SignsDirectly records after := by
  have touches : Touches [.recoveryCodes, .sessions, .sessionIds] records
      after :=
    touches_inAppliance (touchesIn_recoverSession _ (by simp) (by simp)
      (by simp) _ _ _ _) _ _ _ ran
  obtain ⟨code, -, -, -, -, -, allowed, rows⟩ := recoverSession_ok ran
  intro session member
  rw [rows] at member
  rcases List.mem_append.mp member with old | isNew
  · exact .inl ⟨session, old, rfl, rfl⟩
  · right
    rw [List.mem_singleton.mp isNew]
    change signInAllowed after.identity code.tenantId code.userId = true
    rw [signInAllowed_congr (touches .users (by simp))
      (touches .tenants (by simp)) (touches .ownerMemberships (by simp))]
    exact allowed

/-- A transaction that may be refused. -/
theorem finish_signsDirectly {Value : Type} {program : Program Log Value}
    {events : Value → List Event} {point : Point} {effect : Effect}
    (moved : finish records program events = (point, after, effect))
    (signs : ∀ value, program records = .ok (value, after) →
      SignsDirectly records after) : SignsDirectly records after := by
  rcases (finish_eq moved).2 with ⟨value, succeeded, -⟩ | ⟨rfl, -⟩
  · exact signs value succeeded
  · exact fun session member => .inl ⟨session, member, rfl, rfl⟩

theorem signsDirectly_step {point next : Point} {effect : Effect}
    (moved : resume services draw point records = (next, after, effect)) :
    SignsDirectly records after := by
  have kept : .sessionIds ∉ point.footprint → SignsDirectly records after :=
    fun apart => signsDirectly_same ((resume_moved moved).touches _ apart)
  cases point with
  | bootstrapVerified =>
      exact finish_signsDirectly moved fun _ => signsDirectly_bootstrap
  | assertionVerified =>
      exact finish_signsDirectly moved fun _ => signsDirectly_authentication
  | invitationVerified =>
      exact finish_signsDirectly moved fun _ => signsDirectly_invite
  | called call =>
      cases call with
      | recoverSession =>
          exact finish_signsDirectly moved fun _ => signsDirectly_recovery
      | _ => exact kept (by simp)
  | _ => exact kept (by simp)

/-- An identity that may sign in is no membership. -/
theorem direct_of_allowed {tenantId userId : String}
    (allowed : signInAllowed records.identity tenantId userId = true) :
    Direct records tenantId userId := by
  simp only [signInAllowed, Bool.and_eq_true, Bool.not_eq_true',
    List.any_eq_false, decide_eq_true_eq] at allowed
  obtain ⟨⟨isActive, -⟩, noMembership⟩ := allowed
  obtain ⟨user, found⟩ := Option.isSome_iff_exists.mp isActive
  obtain ⟨row, isRow, -⟩ := activeUser_iff.mp found
  have selected := List.find?_some isRow
  rw [Bool.and_eq_true] at selected
  exact ⟨⟨row, List.mem_of_find?_eq_some isRow, selected.1⟩, noMembership⟩

/-- Sessions stay direct while memberships are created for new users only. -/
theorem direct_step (signs : SignsDirectly records after)
    (lasting : Lasting records after)
    (memberships : ∀ membership ∈ after.ownerMemberships,
      membership ∈ records.ownerMemberships ∨
        ¬ IsUser records membership.tenantId membership.userId)
    (direct : ∀ session ∈ records.sessions.rows,
      Direct records session.tenantId session.userId) :
    ∀ session ∈ after.sessions.rows,
      Direct after session.tenantId session.userId := by
  intro session member
  rcases signs session member with ⟨old, oldMember, isTenant, isUser⟩ | allowed
  · have before := direct old oldMember
    rw [isTenant, isUser] at before
    refine ⟨lasting.users _ _ before.1, ?_⟩
    rintro membership isMembership ⟨sameTenant, sameUser⟩
    rcases memberships membership isMembership with known | unknown
    · exact before.2 membership known ⟨sameTenant, sameUser⟩
    · rw [sameTenant, sameUser] at unknown
      exact unknown before.1
  · exact direct_of_allowed allowed

end Sessions

end Continuity

end Directory

end ControlForge
