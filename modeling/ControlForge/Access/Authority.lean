import ControlForge.Access.Revocation

/-!
# Who holds an authority, and what a change takes away

`holds` reads the stored tables: the person is an active user of an active
network, and the stored role has the capability.  `Enacts` says what a step
does that commits a change of authority, or none: what has ended stays ended,
an authority is lost only where the change withdraws it, and what was issued by
those the change concerns has ended.
-/

namespace ControlForge

namespace Access

open Response (ActionRow)
open Transaction (Follows)

variable {Log : Type}

/-! ## Authority in the stored tables -/

def holds (tables : IdentityTables) (authority : Authority) : Bool :=
  match Identity.activeUser tables authority.tenantId authority.userId with
  | some user =>
      authority.capability ∈ user.role.capabilities ∧
        Identity.activeTenant tables authority.tenantId
  | none => false

theorem holds_iff {tables : IdentityTables} {authority : Authority} :
    holds tables authority = true ↔
      ∃ user, Identity.activeUser tables authority.tenantId authority.userId =
          some user ∧
        authority.capability ∈ user.role.capabilities ∧
        Identity.activeTenant tables authority.tenantId = true := by
  unfold holds
  cases Identity.activeUser tables authority.tenantId authority.userId <;> simp

/-- What users and networks keep their place keep. -/
theorem holds_prefix {before after : IdentityTables} {authority : Authority}
    (users : before.users <+: after.users)
    (tenants : before.tenants <+: after.tenants)
    (held : holds before authority = true) : holds after authority = true := by
  obtain ⟨user, isActive, capable, active⟩ := holds_iff.mp held
  refine holds_iff.mpr ⟨user, users.find?_eq_some isActive, capable, ?_⟩
  obtain ⟨tenant, member, matched⟩ := List.any_eq_true.mp active
  exact List.any_eq_true.mpr ⟨tenant, tenants.subset member, matched⟩

theorem Quiet.holds {before after : Appliance Log} {authority : Authority}
    (quiet : Quiet before after)
    (held : Access.holds before.identity authority = true) :
    Access.holds after.identity authority = true :=
  holds_prefix (quiet.users.map _) (quiet.tenants.map _) held

/-! ## Checks that establish an authority -/

theorem holds_of_activeTenantAdmin {tables : IdentityTables}
    {tenantId userId : String} {capability : Capability}
    (isAdmin : Identity.activeTenantAdmin tables tenantId userId = true) :
    holds tables ⟨tenantId, userId, capability⟩ = true := by
  unfold Identity.activeTenantAdmin at isAdmin
  split at isAdmin
  · next user found =>
      rw [decide_eq_true_eq] at isAdmin
      refine holds_iff.mpr ⟨user, found, ?_, isAdmin.2⟩
      rw [isAdmin.1]
      cases capability <;> simp [Role.capabilities]
  · cases isAdmin

theorem holds_of_activeAdmin {tables : IdentityTables}
    {tenantId userId : String} {capability : Capability}
    (isAdmin : Identity.activeAdmin tables tenantId userId = true) :
    holds tables ⟨tenantId, userId, capability⟩ = true :=
  holds_of_activeTenantAdmin (Bool.and_eq_true_iff.mp isAdmin).1

theorem holds_of_hasProjection {tables : IdentityTables}
    {principal : SessionPrincipal} {tenantId : String}
    {capability : Capability}
    (projects : hasProjection tables principal tenantId = true) :
    holds tables ⟨tenantId, principal.userId, capability⟩ = true :=
  holds_of_activeTenantAdmin (Bool.and_eq_true_iff.mp projects).2

theorem holds_of_signInAllowed {tables : IdentityTables}
    {tenantId userId : String}
    (allowed : signInAllowed tables tenantId userId = true) :
    holds tables ⟨tenantId, userId, .view⟩ = true := by
  simp only [signInAllowed, Bool.and_eq_true] at allowed
  obtain ⟨⟨isUser, active⟩, -⟩ := allowed
  obtain ⟨user, found⟩ := Option.isSome_iff_exists.mp isUser
  refine holds_iff.mpr ⟨user, found, ?_, active⟩
  cases user.role <;> simp [Role.capabilities]

/-- `require_current_capability` passes only those who hold the capability. -/
theorem holds_of_current {tables : IdentityTables}
    {principal : SessionPrincipal} {capability : Capability} {now : Timestamp}
    (current : Identity.requireCurrentCapability tables principal capability
      now = .ok ()) :
    holds tables ⟨principal.tenantId, principal.userId, capability⟩ = true := by
  obtain ⟨_, granted, rechecked⟩ := bind_eq_ok.mp current
  have capable : capability ∈ principal.role.capabilities := by
    unfold Identity.requireCapability at granted
    by_contra missing
    simp [missing] at granted
  cases isLive : Identity.liveSession tables principal now with
  | none =>
      rw [isLive] at rechecked
      cases rechecked
  | some joined =>
      obtain ⟨home, role⟩ := joined
      have sameRole : role = principal.role := by
        by_contra different
        simp [isLive, different] at rechecked
      unfold Identity.liveSession at isLive
      simp only [Option.bind_eq_bind, Option.bind_eq_some_iff] at isLive
      obtain ⟨session, found, _, _, member, isMember, selected⟩ := isLive
      split at selected
      · next active =>
          cases selected
          have own := List.find?_some found
          simp only [decide_eq_true_eq] at own
          rw [own.2.1] at isMember
          refine holds_iff.mpr ⟨member, isMember, ?_, ?_⟩
          · rw [sameRole]
            exact capable
          · exact (Bool.and_eq_true_iff.mp active).2
      · cases selected

/-- The first row of a selection is also the first of a narrower one that it
meets. -/
theorem find?_narrower {Row : Type} {rows : List Row}
    {wide narrow : Row → Bool} {row : Row}
    (found : rows.find? wide = some row) (meets : narrow row = true)
    (narrower : ∀ other, narrow other = true → wide other = true) :
    rows.find? narrow = some row := by
  obtain ⟨-, earlier, later, split, before⟩ :=
    List.find?_eq_some_iff_append.mp found
  refine List.find?_eq_some_iff_append.mpr
    ⟨meets, earlier, later, split, fun other member => ?_⟩
  have outside := before other member
  cases selected : narrow other with
  | false => rfl
  | true => simp [narrower other selected] at outside

theorem activeUser_of_find {appliance : Appliance Log}
    {tenantId userId : String} {user : UserRecord}
    (found : appliance.users.rows.find? (·.hasKey tenantId userId) = some user)
    (active : user.status = "active") :
    Identity.activeUser appliance.identity tenantId userId =
      some user.toUserRow := by
  have key := List.find?_some found
  simp only [UserRecord.hasKey, decide_eq_true_eq] at key
  unfold Identity.activeUser Appliance.identity
  dsimp only
  rw [List.find?_map, find?_narrower found]
  · rfl
  · simp [key, active]
  · intro other selected
    simp only [Function.comp_apply, decide_eq_true_eq] at selected
    simp [UserRecord.hasKey, selected]

theorem activeTenant_of_find {appliance : Appliance Log} {tenantId : String}
    {tenant : TenantRecord}
    (found : appliance.tenants.rows.find? (fun row => row.tenantId = tenantId) =
      some tenant)
    (active : tenant.status = "active") :
    Identity.activeTenant appliance.identity tenantId = true := by
  have key := List.find?_some found
  simp only [decide_eq_true_eq] at key
  refine List.any_eq_true.mpr ⟨tenant.toTenantRow, ?_, by simp [key, active]⟩
  exact List.mem_map_of_mem (List.mem_of_find?_eq_some found)

/-- An authenticated session carries the stored role. -/
theorem holds_of_session {deployment : Deployment Log} {token : String}
    {now : Timestamp} {appliance : Appliance Log}
    {principal : SessionPrincipal} {csrfHash : String}
    (authenticated : authenticateSession deployment token now appliance =
      .ok (principal, csrfHash))
    {capability : Capability}
    (capable : capability ∈ principal.role.capabilities) :
    holds appliance.identity
      ⟨principal.tenantId, principal.userId, capability⟩ = true := by
  unfold authenticateSession at authenticated
  split at authenticated
  · cases authenticated
  · split at authenticated
    · cases authenticated
    · next session user tenant joined =>
        obtain ⟨_, checked, returned⟩ := bind_eq_ok.mp authenticated
        cases returned
        unfold checkSession at checked
        split at checked
        · cases checked
        · split at checked
          · cases checked
          · next isActive =>
              simp only [not_or, Decidable.not_not] at isActive
              unfold joinedSession at joined
              simp only [Option.bind_eq_bind, Option.bind_eq_some_iff]
                at joined
              obtain ⟨_, -, found, isUser, stored, isTenant, same⟩ := joined
              cases same
              exact holds_iff.mpr
                ⟨user.toUserRow, activeUser_of_find isUser isActive.2.1,
                  capable, activeTenant_of_find isTenant isActive.2.2.1⟩

/-! ## What a change withdraws -/

/-- The change concerns what the person has in the network. -/
def AuthorityChange.concerns (tenantId userId : String) :
    AuthorityChange → Prop
  | .member changedTenant changedUser _ _ =>
      tenantId = changedTenant ∧ userId = changedUser
  | .suspension suspended => tenantId = suspended

/-- The authority that does not survive the change. -/
def AuthorityChange.withdraws (authority : Authority) :
    AuthorityChange → Prop
  | .member changedTenant changedUser role status =>
      authority.tenantId = changedTenant ∧ authority.userId = changedUser ∧
        ¬ (status = "active" ∧ authority.capability ∈ role.capabilities)
  | .suspension suspended => authority.tenantId = suspended

/-! ## What has been issued -/

/-- Something a person has issued, by its key. -/
inductive Item where
  | session (sessionId : String)
  | invite (inviteId : String)
  | grant (tokenId : String)
  | action (tenantId actionId : String)
  | rotation (rotationId : String)

/-- The item is stored and may still be used. -/
def Usable (appliance : Appliance Log) : Item → Prop
  | .session sessionId => ∃ row ∈ appliance.sessions.rows,
      row.sessionId = sessionId ∧ row.revokedAt = none
  | .invite inviteId => ∃ row ∈ appliance.invites.rows,
      row.inviteId = inviteId ∧ row.isOpen = true
  | .grant tokenId => ∃ row ∈ appliance.grants.rows,
      row.tokenId = tokenId ∧ row.revokedAt = none
  | .action tenantId actionId => ∃ row ∈ appliance.actions.rows,
      (row.tenantId, row.actionId) = (tenantId, actionId) ∧
        row.status.live = true
  | .rotation rotationId => ∃ row ∈ appliance.rotations.rows,
      row.rotationId = rotationId ∧ row.status.live = true

/-- The item is stored and is never to be used again. -/
def Ended (appliance : Appliance Log) : Item → Prop
  | .session sessionId =>
      HasEnded (fun row : SessionRecord => row.sessionId)
        (fun row => row.revokedAt.isSome) appliance.sessions.rows sessionId
  | .invite inviteId =>
      HasEnded InviteRow.inviteId (fun row => !row.isOpen)
        appliance.invites.rows inviteId
  | .grant tokenId =>
      HasEnded GrantRow.tokenId (fun row => row.revokedAt.isSome)
        appliance.grants.rows tokenId
  | .action tenantId actionId =>
      HasEnded (fun row : ActionRow => (row.tenantId, row.actionId))
        (fun row => row.status.terminal) appliance.actions.rows
        (tenantId, actionId)
  | .rotation rotationId =>
      HasEnded Devices.RotationRow.rotationId (fun row => !row.status.live)
        appliance.rotations.rows rotationId

/-- Somebody the change concerns has issued the item: the owner of a session,
who proposed or approved an action, or the creator. -/
def AuthorityChange.covers (change : AuthorityChange)
    (appliance : Appliance Log) : Item → Prop
  | .session sessionId => ∃ row ∈ appliance.sessions.rows,
      row.sessionId = sessionId ∧ change.concerns row.tenantId row.userId
  | .invite inviteId => ∃ row ∈ appliance.invites.rows,
      row.inviteId = inviteId ∧ change.concerns row.tenantId row.createdBy
  | .grant tokenId => ∃ row ∈ appliance.grants.rows,
      row.tokenId = tokenId ∧ change.concerns row.tenantId row.createdBy
  | .action tenantId actionId => ∃ row ∈ appliance.actions.rows,
      (row.tenantId, row.actionId) = (tenantId, actionId) ∧
        (change.concerns row.tenantId row.proposedBy ∨
          ∃ approver, row.approvedBy = some approver ∧
            change.concerns row.tenantId approver)
  | .rotation rotationId => ∃ row ∈ appliance.rotations.rows,
      row.rotationId = rotationId ∧ change.concerns row.tenantId row.createdBy

/-- What a change leaves to the collectors: actions that have been dispatched
to one, and rotations of their credentials. -/
def Lingers (appliance : Appliance Log) : Item → Prop
  | .action tenantId actionId => ∃ row ∈ appliance.actions.rows,
      (row.tenantId, row.actionId) = (tenantId, actionId) ∧
        row.status = .dispatched
  | .rotation rotationId => ∃ row ∈ appliance.rotations.rows,
      row.rotationId = rotationId ∧ row.status.live = true
  | _ => False

theorem Settles.ended {before after : Appliance Log} {item : Item}
    (settles : Settles before after) (hasEnded : Ended before item) :
    Ended after item := by
  cases item with
  | session => exact settles.sessions.hasEnded hasEnded
  | invite => exact settles.invites.hasEnded hasEnded
  | grant => exact settles.grants.hasEnded hasEnded
  | action => exact settles.actions.hasEnded hasEnded
  | rotation => exact settles.rotations.hasEnded hasEnded

theorem Ended.not_usable {appliance : Appliance Log} {item : Item}
    (hasEnded : Ended appliance item) : ¬ Usable appliance item := by
  cases item with
  | session sessionId =>
      rintro ⟨row, member, key, unrevoked⟩
      have ended := HasEnded.all (fun _ _ same => decide_eq_true same) hasEnded
        row member key
      simp [unrevoked] at ended
  | invite inviteId =>
      rintro ⟨row, member, key, isOpen⟩
      have ended := HasEnded.all
        (fun _ _ same => decide_eq_true (.inl same)) hasEnded row member key
      simp [isOpen] at ended
  | grant tokenId =>
      rintro ⟨row, member, key, unrevoked⟩
      have ended := HasEnded.all
        (fun _ _ same => decide_eq_true (.inl same)) hasEnded row member key
      simp [unrevoked] at ended
  | action tenantId actionId =>
      rintro ⟨row, member, key, isLive⟩
      have keyed : ∀ left right : ActionRow,
          (left.tenantId, left.actionId) = (right.tenantId, right.actionId) →
          left.clash right = true := by
        intro left right same
        rw [Prod.mk.injEq] at same
        simp [ActionRow.clash, ActionRow.hasKey, same]
      have ended := HasEnded.all keyed hasEnded row member key
      simp [Response.ActionStatus.terminal, isLive] at ended
  | rotation rotationId =>
      rintro ⟨row, member, key, isLive⟩
      have keyed : ∀ left right : Devices.RotationRow,
          left.rotationId = right.rotationId → left.clash right = true := by
        intro left right same
        simp [Devices.RotationRow.clash, same]
      have ended := HasEnded.all keyed hasEnded row member key
      simp [isLive] at ended
/-! ### What the services accept is usable -/

theorem usable_of_session {deployment : Deployment Log} {token : String}
    {now : Timestamp} {appliance : Appliance Log}
    {principal : SessionPrincipal} {csrfHash : String}
    (authenticated : authenticateSession deployment token now appliance =
      .ok (principal, csrfHash)) :
    Usable appliance (.session principal.sessionId) := by
  unfold authenticateSession at authenticated
  split at authenticated
  · cases authenticated
  · split at authenticated
    · cases authenticated
    · next session user tenant joined =>
        obtain ⟨_, checked, returned⟩ := bind_eq_ok.mp authenticated
        cases returned
        unfold joinedSession at joined
        simp only [Option.bind_eq_bind, Option.bind_eq_some_iff] at joined
        obtain ⟨_, stored, _, -, _, -, same⟩ := joined
        cases same
        refine ⟨session, List.mem_of_find?_eq_some stored, rfl, ?_⟩
        by_contra revoked
        unfold checkSession at checked
        split at checked
        · cases checked
        · rw [if_pos (.inl revoked)] at checked
          cases checked

theorem usable_of_claimable {deployment : Deployment Log}
    {appliance : Appliance Log} {input : ClaimInput} {now : Timestamp}
    {grant : GrantRow}
    (found : claimable deployment appliance input now = some grant) :
    Usable appliance (.grant grant.tokenId) := by
  have matched := List.find?_some found
  simp only [Bool.and_eq_true, Option.isNone_iff_eq_none] at matched
  exact ⟨grant, List.mem_of_find?_eq_some found, rfl, matched.1.1.2⟩

theorem usable_of_completeHumanInvite {deployment : Deployment Log}
    {invitation : Invitation} {draw : Draw} {before after : Appliance Log}
    {issuer : String}
    (ran : completeHumanInvite deployment invitation draw before =
      .ok (issuer, after)) :
    Usable before (.invite invitation.invite.inviteId) := by
  obtain ⟨_, _, verified, afterVerified⟩ := Transaction.run_bind_ok.mp ran
  obtain ⟨-, rfl⟩ := Transaction.run_require_ok.mp verified
  obtain ⟨_, _, challenges, afterChallenges⟩ :=
    Transaction.run_bind_ok.mp afterVerified
  cases challenges
  obtain ⟨count, _, invites, afterInvites⟩ :=
    Transaction.run_bind_ok.mp afterChallenges
  obtain ⟨_, _, once, -⟩ := Transaction.run_bind_ok.mp afterInvites
  obtain ⟨⟨-, isOne⟩, -⟩ := Transaction.run_require_ok.mp once
  unfold closeInvites at invites
  split at invites
  · next updated =>
      cases invites
      -- One row was closed, so an open row had the identifier.
      rw [(Table.updateWhere_eq_ok.mp updated).1] at isOne
      obtain ⟨row, member, isSelected⟩ :=
        List.countP_pos_iff.mp (Nat.lt_of_lt_of_eq Nat.zero_lt_one isOne.symm)
      simp only [Bool.and_eq_true, decide_eq_true_eq] at isSelected
      exact ⟨row, member, isSelected.1.1, isSelected.2⟩
  · cases invites

/-! ## What the statements of a change end -/

section Statements

variable {before after : Appliance Log} {count : Nat} {now : Timestamp}

theorem revokeSessions_ends {selected : SessionRecord → Bool}
    (ran : revokeSessions selected now before = .ok (count, after))
    {row : SessionRecord} (member : row ∈ before.sessions.rows)
    (isSelected : selected row = true) :
    Ended after (.session row.sessionId) := by
  unfold Ended
  dsimp only
  rw [(revokeSessions_rows ran).2]
  apply HasEnded.applyWhere member
  · rfl
  · exact fun _ => rfl
  · intro unselected
    cases isRevoked : row.revokedAt with
    | none => simp [isSelected, isRevoked] at unselected
    | some time => rfl

theorem revokeInvites_ends {selected : InviteRow → Bool}
    (ran : revokeInvites selected now before = .ok (count, after))
    {row : InviteRow} (member : row ∈ before.invites.rows)
    (isSelected : selected row = true) :
    Ended after (.invite row.inviteId) := by
  unfold Ended
  dsimp only
  rw [(closeInvites_rows ran).2]
  apply HasEnded.applyWhere member
  · rfl
  · exact fun _ => by simp [InviteRow.isOpen]
  · intro unselected
    simpa [isSelected] using unselected

theorem revokeGrants_ends {selected : GrantRow → Bool}
    (ran : revokeGrants selected now before = .ok (count, after))
    {row : GrantRow} (member : row ∈ before.grants.rows)
    (isSelected : selected row = true) : Ended after (.grant row.tokenId) := by
  unfold Ended
  dsimp only
  rw [(updateGrants_rows ran).2]
  apply HasEnded.applyWhere member
  · rfl
  · exact fun _ => rfl
  · intro unselected
    cases isRevoked : row.revokedAt with
    | none => simp [isSelected, isRevoked] at unselected
    | some time => rfl

/-- Every action of the tenant that involves the user has ended, unless it has
been dispatched. -/
theorem expireUndeliveredActions_ends {tenantId : String}
    {userId : Option String}
    (ran : expireUndeliveredActions tenantId userId now before =
      .ok (count, after))
    {row : ActionRow} (member : row ∈ before.actions.rows)
    (ofTenant : row.tenantId = tenantId)
    (isInvolved : involves userId row = true)
    (undispatched : row.status ≠ .dispatched) :
    Ended after (.action row.tenantId row.actionId) := by
  unfold expireUndeliveredActions inResponse at ran
  split at ran
  · next inner =>
      cases ran
      unfold Response.updateActions at inner
      split at inner
      · next updated =>
          cases inner
          have rows := (Table.updateWhere_eq_ok.mp updated).2.1
          unfold Ended
          dsimp only [Appliance.withResponse]
          rw [rows]
          refine @HasEnded.applyWhere ActionRow (String × String)
            (fun row => (row.tenantId, row.actionId)) _ _ _ _ row member rfl
            (fun _ => rfl) fun unselected => ?_
          simp only [ofTenant, isInvolved, Bool.and_true, true_and,
            decide_eq_false_iff_not, not_or] at unselected
          cases status : row.status <;>
            simp_all [Response.ActionStatus.terminal,
              Response.ActionStatus.live]
      · cases inner
  · cases ran

end Statements

/-! ## What a step enacts -/

/-- What a step does to authorities and to what has been issued, with the
change of authority it commits. -/
structure Enacts (change : Option AuthorityChange)
    (before after : Appliance Log) : Prop extends Settles before after where
  keeps : ∀ authority,
    (∀ committed, change = some committed → ¬ committed.withdraws authority) →
    holds before.identity authority = true →
    holds after.identity authority = true
  ends : ∀ committed, change = some committed →
    ∀ item, committed.covers before item → ¬ Lingers before item →
      Ended after item

theorem Quiet.enacts {before after : Appliance Log}
    (quiet : Quiet before after) : Enacts none before after :=
  ⟨quiet.toSettles, fun _ _ => quiet.holds, nofun⟩

theorem Enacts.quietly {change : Option AuthorityChange}
    {before middle after : Appliance Log} (enacts : Enacts change before middle)
    (quiet : Quiet middle after) : Enacts change before after where
  toSettles := enacts.toSettles.trans quiet.toSettles
  keeps authority kept held := quiet.holds (enacts.keeps authority kept held)
  ends committed isCommitted item covered notLingering :=
    quiet.ended (enacts.ends committed isCommitted item covered notLingering)

/-- What `requireCurrentCapability` establishes; it changes nothing. -/
theorem holds_of_requireCurrentCapability {principal : SessionPrincipal}
    {capability : Capability} {now : Timestamp}
    {before after : Appliance Log} {value : Unit}
    (ran : requireCurrentCapability principal capability now before =
      .ok (value, after)) :
    holds before.identity
        ⟨principal.tenantId, principal.userId, capability⟩ = true ∧
      after = before := by
  obtain ⟨_, _, read, checked⟩ := Transaction.run_bind_ok.mp ran
  cases read
  obtain ⟨authorized, same⟩ := Transaction.run_ofExcept_eq_ok.mp checked
  refine ⟨?_, same⟩
  cases current : Identity.requireCurrentCapability before.identity principal
      capability now with
  | error failure =>
      rw [current] at authorized
      cases authorized
  | ok _ => exact holds_of_current current

/-- The end of an item that lingers unless it has already ended. -/
theorem ended_rotation {appliance : Appliance Log} {rotationId : String}
    {row : Devices.RotationRow} (member : row ∈ appliance.rotations.rows)
    (key : row.rotationId = rotationId)
    (notLingering : ¬ Lingers appliance (.rotation rotationId)) :
    Ended appliance (.rotation rotationId) := by
  refine ⟨row, member, key, ?_⟩
  cases isLive : row.status.live with
  | false => simp [isLive]
  | true => exact absurd ⟨row, member, key, isLive⟩ notLingering

/-! ### Members -/

section Members

variable {deployment : Deployment Log} {principal : SessionPrincipal}
  {input : MemberUpdate} {now : Timestamp} {before after : Appliance Log}

/-- What `updateUsers` leaves. -/
theorem updateUsers_rows {selected : UserRecord → Bool}
    {change : UserRecord → UserRecord} {count : Nat}
    (ran : updateUsers selected change before = .ok (count, after)) :
    after = { before with users := after.users } ∧
      after.users.rows =
        before.users.rows.map (Table.applyWhere selected change) := by
  unfold updateUsers at ran
  split at ran
  · next updated =>
      cases ran
      exact ⟨rfl, (Table.updateWhere_eq_ok.mp updated).2.1⟩
  · cases ran

theorem activeUser_iff {appliance : Appliance Log}
    {tenantId userId : String} {user : UserRow} :
    Identity.activeUser appliance.identity tenantId userId = some user ↔
      ∃ row, appliance.users.rows.find? (fun row =>
          row.hasKey tenantId userId && row.status = "active") = some row ∧
        row.toUserRow = user := by
  have same : (fun row : UserRecord =>
      row.hasKey tenantId userId && row.status = "active" : _ → Bool) =
      (fun user : UserRow => user.tenantId = tenantId ∧
        user.userId = userId ∧ user.status = "active" : _ → Bool) ∘
        (·.toUserRow) := by
    funext row
    simp [UserRecord.hasKey, Bool.and_assoc]
  unfold Identity.activeUser Appliance.identity
  dsimp only
  rw [List.find?_map, Option.map_eq_some_iff, same]

/-- The active row of somebody else is where it was. -/
theorem find?_applyWhere {tenantId userId changedTenant changedUser : String}
    {rows : List UserRecord} {change : UserRecord → UserRecord}
    (sameKey : ∀ row, (change row).tenantId = row.tenantId ∧
      (change row).userId = row.userId)
    (other : ¬ (tenantId = changedTenant ∧ userId = changedUser)) :
    (rows.map (Table.applyWhere (·.hasKey changedTenant changedUser)
        change)).find? (fun row =>
          row.hasKey tenantId userId && row.status = "active") =
      rows.find? fun row =>
        row.hasKey tenantId userId && row.status = "active" := by
  induction rows with
  | nil => rfl
  | cons row rows induction =>
      rw [List.map_cons, List.find?_cons, List.find?_cons, induction]
      cases isChanged : row.hasKey changedTenant changedUser with
      | false =>
          rw [Table.applyWhere_unselected isChanged]
      | true =>
          rw [Table.applyWhere_selected isChanged]
          simp only [UserRecord.hasKey, decide_eq_true_eq] at isChanged
          have unkeyed : row.hasKey tenantId userId = false := by
            simp only [UserRecord.hasKey, decide_eq_false_iff_not, isChanged]
            exact fun same => other ⟨same.1.symm, same.2.symm⟩
          have changedUnkeyed : (change row).hasKey tenantId userId = false := by
            simp only [UserRecord.hasKey, sameKey] at unkeyed ⊢
            exact unkeyed
          rw [unkeyed, changedUnkeyed]
          rfl

/-- A change of a member takes from the member what the new role and sign-in
state do not give, and nothing from anybody else. -/
theorem holds_updateUsers {tenantId : String} {count : Nat}
    (ran : updateUsers (·.hasKey tenantId input.userId) (fun row =>
      { row with role := input.role, status := input.status }) before =
        .ok (count, after))
    {authority : Authority}
    (kept : ¬ (AuthorityChange.member tenantId input.userId input.role
      input.status).withdraws authority)
    (held : holds before.identity authority = true) :
    holds after.identity authority = true := by
  obtain ⟨others, rows⟩ := updateUsers_rows ran
  obtain ⟨user, isActive, capable, active⟩ := holds_iff.mp held
  obtain ⟨row, found, rfl⟩ := activeUser_iff.mp isActive
  have sameTenants : Identity.activeTenant after.identity authority.tenantId =
      true := by
    rw [others]
    exact active
  by_cases isMember : authority.tenantId = tenantId ∧
      authority.userId = input.userId
  · have gives : input.status = "active" ∧
        authority.capability ∈ input.role.capabilities := by
      by_contra withheld
      exact kept ⟨isMember.1, isMember.2, withheld⟩
    have key := List.find?_some found
    simp only [UserRecord.hasKey, Bool.and_eq_true, decide_eq_true_eq] at key
    -- The member's row is still there, and every row of the member is changed.
    have stored : ∃ next, after.users.rows.find? (fun row =>
        row.hasKey authority.tenantId authority.userId &&
          row.status = "active") = some next := by
      rw [rows]
      refine Option.isSome_iff_exists.mp (List.find?_isSome.mpr
        ⟨_, List.mem_map_of_mem (List.mem_of_find?_eq_some found), ?_⟩)
      rw [Table.applyWhere_selected (by simp [UserRecord.hasKey, key, isMember])]
      simp [UserRecord.hasKey, key, gives]
    obtain ⟨next, foundNext⟩ := stored
    refine holds_iff.mpr ⟨next.toUserRow,
      activeUser_iff.mpr ⟨next, foundNext, rfl⟩, ?_, sameTenants⟩
    have member := List.mem_of_find?_eq_some foundNext
    rw [rows] at member
    obtain ⟨old, -, rfl⟩ := List.mem_map.mp member
    cases isChanged : old.hasKey tenantId input.userId with
    | true =>
        rw [Table.applyWhere_selected isChanged]
        exact gives.2
    | false =>
        have nextKey := List.find?_some foundNext
        rw [Table.applyWhere_unselected isChanged, isMember.1, isMember.2,
          isChanged] at nextKey
        cases nextKey
  · refine holds_iff.mpr ⟨row.toUserRow,
      activeUser_iff.mpr ⟨row, ?_, rfl⟩, capable, sameTenants⟩
    rw [rows]
    apply (find?_applyWhere _ isMember).trans found
    exact fun _ => ⟨rfl, rfl⟩

theorem quiet_revokeInvites (selected : InviteRow → Bool) (now : Timestamp) :
    Follows (Quiet : Appliance Log → Appliance Log → Prop)
      (revokeInvites selected now) :=
  quiet_closeInvites fun _ => rfl

theorem quiet_revokeGrants (selected : GrantRow → Bool) (now : Timestamp) :
    Follows (Quiet : Appliance Log → Appliance Log → Prop)
      (revokeGrants selected now) :=
  quiet_updateGrants fun _ => rfl

theorem quiet_expireUndeliveredActions (tenantId : String)
    (userId : Option String) (now : Timestamp) :
    Follows (Quiet : Appliance Log → Appliance Log → Prop)
      (expireUndeliveredActions tenantId userId now) :=
  quiet_inResponse kept_updateActions

/-- The row of the member is changed, and everything issued ends. -/
theorem changeMember_enacts {tenantId : String} {revoked : MemberRevocation}
    (ran : changeMember tenantId input now before = .ok (revoked, after)) :
    Enacts (some (.member tenantId input.userId input.role input.status))
      before after := by
  obtain ⟨_, renamed, updated, afterUpdate⟩ := Transaction.run_bind_ok.mp ran
  obtain ⟨_, signedOut, sessions, afterSessions⟩ :=
    Transaction.run_bind_ok.mp afterUpdate
  obtain ⟨_, uninvited, invites, afterInvites⟩ :=
    Transaction.run_bind_ok.mp afterSessions
  obtain ⟨_, ungranted, grants, afterGrants⟩ :=
    Transaction.run_bind_ok.mp afterInvites
  obtain ⟨_, expired, actions, afterActions⟩ :=
    Transaction.run_bind_ok.mp afterGrants
  obtain ⟨_, consumed, challenges, returned⟩ :=
    Transaction.run_bind_ok.mp afterActions
  cases returned
  have others := (updateUsers_rows updated).1
  have first : Settles before renamed := by
    rw [others]
    exact ⟨.refl _, .refl _, .refl _, .refl _, .refl _⟩
  have fromActions := quiet_consumeChallenges _ _ _ _ _ challenges
  have fromGrants := IsTrans.trans _ _ _
    (quiet_expireUndeliveredActions _ _ _ _ _ _ actions) fromActions
  have fromInvites := IsTrans.trans _ _ _
    (quiet_revokeGrants _ _ _ _ _ grants) fromGrants
  have fromSessions := IsTrans.trans _ _ _
    (quiet_revokeInvites _ _ _ _ _ invites) fromInvites
  have fromUpdate := IsTrans.trans _ _ _
    (quiet_revokeSessions _ _ _ _ _ sessions) fromSessions
  have whole := first.trans fromUpdate.toSettles
  -- Each statement finds the rows of its table as they were at first.
  have sameInvites : signedOut.invites = before.invites := by
    rw [(revokeSessions_rows sessions).1, others]
  have sameGrants : uninvited.grants = before.grants := by
    rw [(closeInvites_rows invites).1, (revokeSessions_rows sessions).1, others]
  have sameActions : ungranted.actions = before.actions := by
    rw [(updateGrants_rows grants).1, (closeInvites_rows invites).1,
      (revokeSessions_rows sessions).1, others]
  refine ⟨whole, fun authority kept held => ?_,
    fun committed isCommitted item covered notLingering => ?_⟩
  · exact fromUpdate.holds (holds_updateUsers updated (kept _ rfl) held)
  · cases isCommitted
    cases item with
    | session sessionId =>
        obtain ⟨row, member, rfl, concerned⟩ := covered
        rw [others] at sessions
        apply fromSessions.ended
        exact revokeSessions_ends sessions member (decide_eq_true concerned)
    | invite inviteId =>
        obtain ⟨row, member, rfl, concerned⟩ := covered
        rw [← sameInvites] at member
        apply fromInvites.ended
        exact revokeInvites_ends invites member (decide_eq_true concerned)
    | grant tokenId =>
        obtain ⟨row, member, rfl, concerned⟩ := covered
        rw [← sameGrants] at member
        apply fromGrants.ended
        exact revokeGrants_ends grants member (decide_eq_true concerned)
    | action actionTenant actionId =>
        obtain ⟨row, member, key, concerned⟩ := covered
        have undispatched : row.status ≠ .dispatched :=
          fun dispatched => notLingering ⟨row, member, key, dispatched⟩
        have ofTenant : row.tenantId = tenantId := by
          rcases concerned with proposer | ⟨_, -, approver⟩
          · exact proposer.1
          · exact approver.1
        have isInvolved : involves (some input.userId) row = true := by
          apply decide_eq_true
          rcases concerned with proposer | ⟨_, approved, approver⟩
          · exact .inl proposer.2
          · exact .inr (approver.2 ▸ approved)
        cases key
        rw [← sameActions] at member
        apply fromActions.ended
        exact expireUndeliveredActions_ends actions member ofTenant isInvolved
          undispatched
    | rotation rotationId =>
        obtain ⟨row, member, key, -⟩ := covered
        exact whole.ended (ended_rotation member key notLingering)

theorem requireMember_reads {target : UserRecord}
    (ran : requireMember principal input before = .ok (target, after)) :
    after = before := by
  obtain ⟨_, _, read, afterRead⟩ := Transaction.run_bind_ok.mp ran
  cases read
  obtain ⟨_, current, revision, afterRevision⟩ :=
    Transaction.run_bind_ok.mp afterRead
  obtain ⟨-, rfl⟩ := Transaction.run_require_ok.mp revision
  cases isFound : current.users.rows.find?
      (·.hasKey principal.tenantId input.userId) with
  | none =>
      rw [isFound] at afterRevision
      cases afterRevision
  | some stored =>
      rw [isFound] at afterRevision
      obtain ⟨_, _, expected, afterExpected⟩ :=
        Transaction.run_bind_ok.mp afterRevision
      obtain ⟨-, rfl⟩ := Transaction.run_require_ok.mp expected
      obtain ⟨_, _, unprotected, returned⟩ :=
        Transaction.run_bind_ok.mp afterExpected
      obtain ⟨-, rfl⟩ := Transaction.run_require_ok.mp unprotected
      cases returned
      rfl

theorem quiet_bumpMember (tenantId userId : String) (revision : Int) :
    Follows (Quiet : Appliance Log → Appliance Log → Prop)
      (bumpMember tenantId userId revision) :=
  quiet_modify fun _ => quiet_same rfl rfl rfl rfl rfl rfl rfl

theorem updateMember_enacts {change : Option AuthorityChange}
    (ran : updateMember deployment principal input now before =
      .ok (change, after)) :
    holds before.identity
        ⟨principal.tenantId, principal.userId, .manage⟩ = true ∧
      Enacts change before after := by
  obtain ⟨_, _, valid, afterValid⟩ := Transaction.run_bind_ok.mp ran
  obtain ⟨-, rfl⟩ := Transaction.run_require_ok.mp valid
  obtain ⟨_, _, checked, afterChecked⟩ := Transaction.run_bind_ok.mp afterValid
  obtain ⟨held, rfl⟩ := holds_of_requireCurrentCapability checked
  refine ⟨held, ?_⟩
  obtain ⟨target, _, found, afterFound⟩ :=
    Transaction.run_bind_ok.mp afterChecked
  cases requireMember_reads found
  split at afterFound
  · cases afterFound
    exact Quiet.enacts (Std.Refl.refl _)
  · obtain ⟨_, _, changed, afterChanged⟩ :=
      Transaction.run_bind_ok.mp afterFound
    obtain ⟨_, _, bumped, afterBumped⟩ :=
      Transaction.run_bind_ok.mp afterChanged
    obtain ⟨_, _, recorded, returned⟩ := Transaction.run_bind_ok.mp afterBumped
    cases returned
    apply (changeMember_enacts changed).quietly
    exact IsTrans.trans _ _ _ (quiet_bumpMember _ _ _ _ _ _ bumped)
      (quiet_audit _ _ _ _ _ recorded)

end Members

/-! ### Networks -/

section Networks

variable {deployment : Deployment Log} {principal : SessionPrincipal}
  {input : NetworkUpdate} {now : Timestamp} {before after : Appliance Log}

theorem quiet_deleteEndpointSessions (tenantId : String) :
    Follows (Quiet : Appliance Log → Appliance Log → Prop)
      (deleteEndpointSessions tenantId) := by
  intro before count after ran
  cases ran
  exact quiet_same rfl rfl rfl rfl rfl rfl rfl

theorem quiet_suspendNetwork (tenantId : String) (now : Timestamp) :
    Follows (Quiet : Appliance Log → Appliance Log → Prop)
      (suspendNetwork tenantId now) := by
  refine Follows.bind (quiet_revokeSessions _ _) fun _ => ?_
  refine Follows.bind (quiet_deleteEndpointSessions _) fun _ => ?_
  refine Follows.bind (quiet_consumeChallenges _ _) fun _ => ?_
  refine Follows.bind (quiet_revokeInvites _ _) fun _ => ?_
  refine Follows.bind (quiet_revokeGrants _ _) fun _ => ?_
  refine Follows.bind (quiet_expireUndeliveredActions _ _ _) fun _ => ?_
  exact Follows.pure _

/-- A suspension ends everything issued in the network. -/
theorem suspendNetwork_ends {tenantId : String} {revoked : NetworkRevocation}
    (ran : suspendNetwork tenantId now before = .ok (revoked, after))
    {item : Item} (covered : (AuthorityChange.suspension tenantId).covers before
      item)
    (notLingering : ¬ Lingers before item) : Ended after item := by
  have whole := quiet_suspendNetwork _ _ _ _ _ ran
  obtain ⟨_, signedOut, sessions, afterSessions⟩ :=
    Transaction.run_bind_ok.mp ran
  obtain ⟨_, unplugged, endpoints, afterEndpoints⟩ :=
    Transaction.run_bind_ok.mp afterSessions
  obtain ⟨_, consumed, challenges, afterChallenges⟩ :=
    Transaction.run_bind_ok.mp afterEndpoints
  obtain ⟨_, uninvited, invites, afterInvites⟩ :=
    Transaction.run_bind_ok.mp afterChallenges
  obtain ⟨_, ungranted, grants, afterGrants⟩ :=
    Transaction.run_bind_ok.mp afterInvites
  obtain ⟨_, expired, actions, returned⟩ := Transaction.run_bind_ok.mp afterGrants
  cases returned
  have fromGrants := quiet_expireUndeliveredActions _ _ _ _ _ _ actions
  have fromInvites := IsTrans.trans _ _ _
    (quiet_revokeGrants _ _ _ _ _ grants) fromGrants
  have fromChallenges := IsTrans.trans _ _ _
    (quiet_revokeInvites _ _ _ _ _ invites) fromInvites
  have fromEndpoints := IsTrans.trans _ _ _
    (quiet_consumeChallenges _ _ _ _ _ challenges) fromChallenges
  have fromSessions := IsTrans.trans _ _ _
    (quiet_deleteEndpointSessions _ _ _ _ endpoints) fromEndpoints
  have sameUnplugged : consumed.invites = signedOut.invites ∧
      consumed.grants = signedOut.grants ∧
      consumed.actions = signedOut.actions := by
    cases endpoints
    cases challenges
    exact ⟨rfl, rfl, rfl⟩
  have sameInvites : consumed.invites = before.invites := by
    rw [sameUnplugged.1, (revokeSessions_rows sessions).1]
  have sameGrants : uninvited.grants = before.grants := by
    rw [(closeInvites_rows invites).1, sameUnplugged.2.1,
      (revokeSessions_rows sessions).1]
  have sameActions : ungranted.actions = before.actions := by
    rw [(updateGrants_rows grants).1, (closeInvites_rows invites).1,
      sameUnplugged.2.2, (revokeSessions_rows sessions).1]
  cases item with
  | session sessionId =>
      obtain ⟨row, member, rfl, concerned⟩ := covered
      apply fromSessions.ended
      exact revokeSessions_ends sessions member (decide_eq_true concerned)
  | invite inviteId =>
      obtain ⟨row, member, rfl, concerned⟩ := covered
      rw [← sameInvites] at member
      apply fromInvites.ended
      exact revokeInvites_ends invites member (decide_eq_true concerned)
  | grant tokenId =>
      obtain ⟨row, member, rfl, concerned⟩ := covered
      rw [← sameGrants] at member
      apply fromGrants.ended
      exact revokeGrants_ends grants member (decide_eq_true concerned)
  | action actionTenant actionId =>
      obtain ⟨row, member, key, concerned⟩ := covered
      have undispatched : row.status ≠ .dispatched :=
        fun dispatched => notLingering ⟨row, member, key, dispatched⟩
      have ofTenant : row.tenantId = tenantId := by
        rcases concerned with proposer | ⟨_, -, approver⟩
        · exact proposer
        · exact approver
      cases key
      rw [← sameActions] at member
      exact expireUndeliveredActions_ends actions member ofTenant rfl
        undispatched
  | rotation rotationId =>
      obtain ⟨row, member, key, -⟩ := covered
      exact whole.ended (ended_rotation member key notLingering)

/-- What `updateTenants` leaves. -/
theorem updateTenants_rows {selected : TenantRecord → Bool}
    {change : TenantRecord → TenantRecord} {count : Nat}
    (ran : updateTenants selected change before = .ok (count, after)) :
    after = { before with tenants := after.tenants } ∧
      after.tenants.rows =
        before.tenants.rows.map (Table.applyWhere selected change) := by
  unfold updateTenants at ran
  split at ran
  · next updated =>
      cases ran
      exact ⟨rfl, (Table.updateWhere_eq_ok.mp updated).2.1⟩
  · cases ran

/-- Setting a network touches no authority in another one, and none in a
network that is active afterwards. -/
theorem holds_setNetwork {tenantId name status : String} {count : Nat}
    (ran : setNetwork tenantId name status before = .ok (count, after))
    {authority : Authority}
    (kept : authority.tenantId = tenantId → status = "active")
    (held : holds before.identity authority = true) :
    holds after.identity authority = true := by
  obtain ⟨others, rows⟩ := updateTenants_rows ran
  obtain ⟨user, isActive, capable, active⟩ := holds_iff.mp held
  have sameUsers : Identity.activeUser after.identity authority.tenantId
      authority.userId = some user := by
    rw [others]
    exact isActive
  refine holds_iff.mpr ⟨user, sameUsers, capable, ?_⟩
  obtain ⟨_, stored, matched⟩ := List.any_eq_true.mp active
  obtain ⟨row, member, rfl⟩ := List.mem_map.mp stored
  rw [decide_eq_true_eq] at matched
  refine List.any_eq_true.mpr
    ⟨(Table.applyWhere (fun row : TenantRecord => row.tenantId = tenantId)
      (fun row => { row with displayName := name, status }) row).toTenantRow,
      List.mem_map_of_mem ?_, ?_⟩
  · rw [rows]
    exact List.mem_map_of_mem member
  · apply decide_eq_true
    simp only [Table.applyWhere, decide_eq_true_eq]
    split
    · next isTenant =>
        exact ⟨matched.1, kept (matched.1.symm.trans isTenant)⟩
    · exact matched

theorem settles_setNetwork {tenantId name status : String} {count : Nat}
    (ran : setNetwork tenantId name status before = .ok (count, after)) :
    Settles before after := by
  rw [(updateTenants_rows ran).1]
  exact ⟨.refl _, .refl _, .refl _, .refl _, .refl _⟩

theorem requireOwner_reads {value : Unit}
    (ran : requireOwner principal now before = .ok (value, after)) :
    holds before.identity
        ⟨principal.tenantId, principal.userId, .manage⟩ = true ∧
      after = before := by
  obtain ⟨_, _, checked, afterChecked⟩ := Transaction.run_bind_ok.mp ran
  obtain ⟨held, rfl⟩ := holds_of_requireCurrentCapability checked
  obtain ⟨_, _, read, required⟩ := Transaction.run_bind_ok.mp afterChecked
  cases read
  exact ⟨held, (Transaction.run_require_ok.mp required).2⟩

theorem requireNetwork_reads {previous : TenantRecord}
    (ran : requireNetwork input before = .ok (previous, after)) :
    before.tenants.rows.find? (fun row => row.tenantId = input.tenantId) =
        some previous ∧ after = before := by
  obtain ⟨_, _, read, afterRead⟩ := Transaction.run_bind_ok.mp ran
  cases read
  cases isFound : before.tenants.rows.find? fun row =>
      row.tenantId = input.tenantId with
  | none =>
      rw [isFound] at afterRead
      cases afterRead
  | some stored =>
      rw [isFound] at afterRead
      obtain ⟨_, _, revision, afterRevision⟩ :=
        Transaction.run_bind_ok.mp afterRead
      obtain ⟨-, rfl⟩ := Transaction.run_require_ok.mp revision
      obtain ⟨_, _, allowed, returned⟩ :=
        Transaction.run_bind_ok.mp afterRevision
      obtain ⟨-, rfl⟩ := Transaction.run_require_ok.mp allowed
      cases returned
      exact ⟨rfl, rfl⟩

theorem quiet_bumpNetwork (tenantId : String) (revision : Int) :
    Follows (Quiet : Appliance Log → Appliance Log → Prop)
      (bumpNetwork tenantId revision) :=
  quiet_modify fun _ => quiet_same rfl rfl rfl rfl rfl rfl rfl

/-- A change that is no suspension leaves the network as active as it was. -/
theorem active_of_not_suspends {previous : TenantRecord}
    (valid : validNetworkUpdate input = true)
    (found : before.tenants.rows.find? (fun row =>
      row.tenantId = input.tenantId) = some previous)
    (notSuspended : suspends previous input = false)
    {authority : Authority} (held : holds before.identity authority = true)
    (own : authority.tenantId = input.tenantId) : input.status = "active" := by
  simp only [validNetworkUpdate, Bool.and_eq_true, decide_eq_true_eq] at valid
  rcases valid.1.2.2 with active | suspended
  · exact active
  · -- The network was suspended before, so nobody held anything in it.
    have unchanged : previous.status = input.status := by
      by_contra changed
      simp [suspends, suspended] at notSuspended
      exact changed (notSuspended.trans suspended.symm)
    obtain ⟨_, -, -, active⟩ := holds_iff.mp held
    obtain ⟨_, stored, matched⟩ := List.any_eq_true.mp active
    obtain ⟨row, member, rfl⟩ := List.mem_map.mp stored
    rw [decide_eq_true_eq] at matched
    have key := List.find?_some found
    rw [decide_eq_true_eq] at key
    have sameId : row.tenantId = previous.tenantId :=
      matched.1.trans (own.trans key.symm)
    have same : row = previous := by
      apply Table.eq_of_clash member (List.mem_of_find?_eq_some found)
      · simp [TenantRecord.clash, sameId]
      · simp [TenantRecord.clash, sameId]
    rw [← unchanged, ← same]
    exact matched.2

theorem updateNetwork_enacts {change : Option AuthorityChange}
    (ran : updateNetwork deployment principal input now before =
      .ok (change, after)) :
    holds before.identity
        ⟨principal.tenantId, principal.userId, .manage⟩ = true ∧
      Enacts change before after := by
  obtain ⟨_, checked, valid, afterValid⟩ := Transaction.run_bind_ok.mp ran
  obtain ⟨isValid, rfl⟩ := Transaction.run_require_ok.mp valid
  obtain ⟨_, _, owner, afterOwner⟩ := Transaction.run_bind_ok.mp afterValid
  obtain ⟨held, rfl⟩ := requireOwner_reads owner
  refine ⟨held, ?_⟩
  obtain ⟨previous, _, found, afterFound⟩ := Transaction.run_bind_ok.mp afterOwner
  obtain ⟨stored, rfl⟩ := requireNetwork_reads found
  split at afterFound
  · cases afterFound
    exact Quiet.enacts (Std.Refl.refl _)
  · obtain ⟨revoked, middle, revoking, afterRevoking⟩ :=
      Transaction.run_bind_ok.mp afterFound
    obtain ⟨_, renamed, setting, afterSetting⟩ :=
      Transaction.run_bind_ok.mp afterRevoking
    obtain ⟨_, _, bumped, afterBumped⟩ := Transaction.run_bind_ok.mp afterSetting
    obtain ⟨_, logged, recorded, afterRecorded⟩ :=
      Transaction.run_bind_ok.mp afterBumped
    have rest : Quiet logged after ∧
        change = revoked.map fun _ => .suspension input.tenantId := by
      split at afterRecorded
      · obtain ⟨_, _, copied, returned⟩ := Transaction.run_bind_ok.mp afterRecorded
        cases returned
        exact ⟨quiet_audit _ _ _ _ _ copied, rfl⟩
      · cases afterRecorded
        exact ⟨Std.Refl.refl _, rfl⟩
    have fromRenamed : Quiet renamed after := by
      apply IsTrans.trans _ _ _ (quiet_bumpNetwork _ _ _ _ _ bumped)
      exact IsTrans.trans _ _ _ (quiet_audit _ _ _ _ _ recorded) rest.1
    rw [rest.2]
    apply Enacts.quietly ?_ fromRenamed
    have settled := settles_setNetwork setting
    unfold revokeNetwork at revoking
    split at revoking
    · obtain ⟨_, suspending, rfl⟩ := Transaction.run_map_ok.mp revoking
      have quiet := quiet_suspendNetwork _ _ _ _ _ suspending
      refine ⟨quiet.toSettles.trans settled, fun authority kept held => ?_,
        fun committed isCommitted item covered notLingering => ?_⟩
      · apply holds_setNetwork setting _ (quiet.holds held)
        exact fun own => absurd own (kept _ rfl)
      · cases isCommitted
        exact settled.ended (suspendNetwork_ends suspending covered notLingering)
    · next notSuspended =>
        cases revoking
        refine ⟨settled, fun authority _ held => ?_, nofun⟩
        apply holds_setNetwork setting _ held
        exact active_of_not_suspends isValid stored
          (Bool.eq_false_iff.mpr notSuspended) held


end Networks

end Access

end ControlForge
