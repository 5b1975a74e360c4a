import ControlForge.Access.SignIn

/-!
# Changes of members and of networks

`NetworkLifecycleService.update_member` and `update_network`.  Both recheck the
authority of the caller, compare the revision the caller has seen, and revoke
in the same transaction what the change takes the ground from.
-/

namespace ControlForge

namespace Access

/-- A change of what somebody may do. -/
inductive AuthorityChange where
  | member (tenantId userId : String) (role : Role) (status : String)
  | suspension (tenantId : String)
deriving DecidableEq

section Revocation

variable {Log : Type}

/-! ## What a change revokes -/

def revokeInvites (selected : InviteRow → Bool) (now : Timestamp) :
    Program Log Nat :=
  closeInvites selected fun row => { row with revokedAt := some now }

def revokeGrants (selected : GrantRow → Bool) (now : Timestamp) :
    Program Log Nat :=
  updateGrants selected fun row => { row with revokedAt := some now }

/-- The user proposed or approved the action. -/
def involves (userId : Option String) (row : Response.ActionRow) : Bool :=
  match userId with
  | none => true
  | some user => row.proposedBy = user ∨ row.approvedBy = some user

/-- `_expire_undelivered_actions`. -/
def expireUndeliveredActions (tenantId : String) (userId : Option String)
    (now : Timestamp) : Program Log Nat :=
  inResponse (Response.updateActions true
    (fun row =>
      (row.tenantId = tenantId ∧
        (row.status = .proposed ∨ row.status = .approved) : Bool) &&
        involves userId row)
    fun row => { row with status := .expired, completedAt := some now })

/-! ## Revisions -/

/-- The stored revision of a team member, `1` before the first change. -/
def memberRevision (appliance : Appliance Log) (tenantId userId : String) :
    Int :=
  match appliance.memberRevisions.find? fun row =>
      row.tenantId = tenantId ∧ row.userId = userId with
  | some row => row.revision
  | none => 1

/-- `_bump_identity`. -/
def bumpMember (tenantId userId : String) (revision : Int) :
    Program Log Unit :=
  modify fun appliance => { appliance with
    memberRevisions :=
      ⟨tenantId, userId, revision + 1⟩ ::
        appliance.memberRevisions.filter fun row =>
          ¬ (row.tenantId = tenantId ∧ row.userId = userId) }

def networkRevision (appliance : Appliance Log) (tenantId : String) : Int :=
  match appliance.networkRevisions.find? fun row =>
      row.tenantId = tenantId with
  | some row => row.revision
  | none => 1

/-- `_bump`. -/
def bumpNetwork (tenantId : String) (revision : Int) : Program Log Unit :=
  modify fun appliance => { appliance with
    networkRevisions := ⟨tenantId, revision + 1⟩ ::
      appliance.networkRevisions.filter fun row => row.tenantId ≠ tenantId }

end Revocation

/-! ## Members -/

section Members

variable {Log : Type} (deployment : Deployment Log)

/-- The arguments of `update_member`. -/
structure MemberUpdate where
  userId : String
  role : Role
  status : String
  expectedRole : Role
  expectedStatus : String
  revision : Int

/-- The identities `update_member` leaves alone. -/
def isProtected (appliance : Appliance Log) (principal : SessionPrincipal)
    (userId : String) : Bool :=
  (userId = principal.userId : Bool) ||
    appliance.platformOwners.any (fun owner => owner.userId = userId) ||
    appliance.ownerMemberships.any fun membership =>
      membership.tenantId = principal.tenantId ∧ membership.userId = userId

/-- The stored member, as the caller expects it. -/
def requireMember (principal : SessionPrincipal) (input : MemberUpdate) :
    Program Log UserRecord := do
  let appliance ← get
  Transaction.require
    (memberRevision appliance principal.tenantId input.userId = input.revision)
    (.networkConflict "this account changed; refresh before trying again")
  match appliance.users.rows.find?
      (·.hasKey principal.tenantId input.userId) with
  | none => throw (.network "that team member is not in this network")
  | some target => do
      Transaction.require
        (target.role = input.expectedRole ∧
          target.status = input.expectedStatus)
        (.networkConflict "this team member changed; refresh before trying again")
      Transaction.require
        (isProtected appliance principal input.userId = false)
        (.network ("your own sign-in and platform owner identities cannot " ++
          "be changed here"))
      return target

/-- How much a change of a member revoked. -/
structure MemberRevocation where
  sessions : Nat
  invites : Nat
  grants : Nat
  actions : Nat

/-- The row of a member and everything issued in the member's name. -/
def changeMember (tenantId : String) (input : MemberUpdate)
    (now : Timestamp) : Program Log MemberRevocation := do
  let _ ← updateUsers (·.hasKey tenantId input.userId) fun row =>
    { row with role := input.role, status := input.status }
  let sessions ← revokeSessions (fun row =>
    row.tenantId = tenantId ∧ row.userId = input.userId) now
  let invites ← revokeInvites (fun row =>
    row.tenantId = tenantId ∧ row.createdBy = input.userId) now
  let grants ← revokeGrants (fun row =>
    row.tenantId = tenantId ∧ row.createdBy = input.userId) now
  let actions ← expireUndeliveredActions tenantId (some input.userId) now
  let _ ← consumeChallenges (fun row =>
    row.tenantId = some tenantId ∧ row.userId = some input.userId) now
  return ⟨sessions, invites, grants, actions⟩

def memberPayload (input : MemberUpdate) (revoked : MemberRevocation) :
    Dict where
  members :=
    [("previous_role", .str (Role.text input.expectedRole)),
      ("role", .str (Role.text input.role)),
      ("previous_status", .str input.expectedStatus),
      ("status", .str input.status),
      ("revoked_sessions", .int revoked.sessions),
      ("revoked_invitations", .int revoked.invites),
      ("revoked_enrollment_grants", .int revoked.grants),
      ("expired_undelivered_responses", .int revoked.actions)]

/-- `update_member`: the change it commits, if it changes anything. -/
def updateMember (principal : SessionPrincipal) (input : MemberUpdate)
    (now : Timestamp) : Program Log (Option AuthorityChange) := do
  Transaction.require (input.status = "active" ∨ input.status = "disabled")
    (.network "select a valid network role and sign-in state")
  requireCurrentCapability principal .manage now
  let target ← requireMember principal input
  if target.role = input.role ∧ target.status = input.status then
    return none
  else do
    let revoked ← changeMember principal.tenantId input now
    bumpMember principal.tenantId input.userId input.revision
    audit deployment.cases.append (record principal.tenantId
      "team.member_updated" "user" principal.userId "user" input.userId
      (memberPayload input revoked) now)
    return some (.member principal.tenantId input.userId input.role
      input.status)

end Members

/-! ## Networks -/

section Networks

variable {Log : Type} (deployment : Deployment Log)

/-- The arguments of `update_network`. -/
structure NetworkUpdate where
  tenantId : String
  displayName : String
  status : String
  revision : Int

def validNetworkUpdate (input : NetworkUpdate) : Bool :=
  let name := Text.strip input.displayName
  (name ≠ "" ∧ name.length ≤ 120 ∧
    (input.status = "active" ∨ input.status = "suspended") : Bool) &&
    name.toList.all fun character => 32 ≤ character.toNat

/-- `_owner`. -/
def requireOwner (principal : SessionPrincipal) (now : Timestamp) :
    Program Log Unit := do
  requireCurrentCapability principal .manage now
  let appliance ← get
  Transaction.require (isOwner appliance.identity principal = true)
    (.authorization "only the platform owner can configure networks")

/-- `_network`, and the protection of the owner's home network. -/
def requireNetwork (input : NetworkUpdate) : Program Log TenantRecord := do
  let appliance ← get
  match appliance.tenants.rows.find? fun row =>
      row.tenantId = input.tenantId with
  | none => throw (.network "that network is unavailable")
  | some previous => do
      Transaction.require
        (networkRevision appliance input.tenantId = input.revision)
        (.networkConflict "the network changed; refresh before trying again")
      Transaction.require
        (¬ (input.status = "suspended" ∧
          appliance.platformOwners.any (fun owner =>
            owner.homeTenantId = input.tenantId) = true))
        (.network "the platform owner's home network must remain active")
      return previous

/-- `DELETE FROM endpoint_sessions` and its row count. -/
def deleteEndpointSessions (tenantId : String) : Program Log Nat :=
  fun appliance =>
    .ok (appliance.endpointSessions.countP fun row => row.tenantId = tenantId,
      { appliance with
        endpointSessions := appliance.endpointSessions.filter fun row =>
          row.tenantId ≠ tenantId })

/-- How much a suspension revoked. -/
structure NetworkRevocation where
  humans : Nat
  endpoints : Nat
  invites : Nat
  grants : Nat
  actions : Nat

/-- Everything issued in a network. -/
def suspendNetwork (tenantId : String) (now : Timestamp) :
    Program Log NetworkRevocation := do
  let humans ← revokeSessions (fun row => row.tenantId = tenantId) now
  let endpoints ← deleteEndpointSessions tenantId
  let _ ← consumeChallenges (fun row => row.tenantId = some tenantId) now
  let invites ← revokeInvites (fun row => row.tenantId = tenantId) now
  let grants ← revokeGrants (fun row => row.tenantId = tenantId) now
  let actions ← expireUndeliveredActions tenantId none now
  return ⟨humans, endpoints, invites, grants, actions⟩

/-- `UPDATE tenants SET display_name=?,status=?`. -/
def setNetwork (tenantId name status : String) : Program Log Nat :=
  updateTenants (fun row => row.tenantId = tenantId) fun row =>
    { row with displayName := name, status }

/-- The counts a change reports. -/
def revokedCounts : Option NetworkRevocation → List (String × Json)
  | none => []
  | some revoked =>
      [("human_sessions", .int revoked.humans),
        ("endpoint_sessions", .int revoked.endpoints),
        ("invitations", .int revoked.invites),
        ("enrollment_grants", .int revoked.grants),
        ("undelivered_responses", .int revoked.actions)]

def networkPayload (previous : TenantRecord) (input : NetworkUpdate)
    (revoked : Option NetworkRevocation) : Dict where
  members :=
    [("previous_status", .str previous.status), ("status", .str input.status),
      ("previous_name", .str previous.displayName),
      ("display_name", .str (Text.strip input.displayName)),
      ("revision", .int (input.revision + 1)),
      ("revoked", .obj (revokedCounts revoked))]
  wellFormed := by
    cases revoked <;>
      simp [revokedCounts, Json.WellFormed, Json.WellFormedMembers]

/-- The record of a change, in one of the two logs that receive it. -/
def auditNetwork (principal : SessionPrincipal) (input : NetworkUpdate)
    (logTenantId : String) (payload : Dict) (now : Timestamp) :
    Program Log Unit :=
  audit deployment.cases.append (record logTenantId "network.updated"
    "platform_owner" principal.userId "network" input.tenantId payload now)

def suspends (previous : TenantRecord) (input : NetworkUpdate) : Bool :=
  input.status = "suspended" ∧ previous.status ≠ input.status

/-- The revocation of a suspension; other changes revoke nothing. -/
def revokeNetwork (previous : TenantRecord) (input : NetworkUpdate)
    (now : Timestamp) : Program Log (Option NetworkRevocation) :=
  if suspends previous input then some <$> suspendNetwork input.tenantId now
  else pure none

/-- `update_network`: the suspension it commits, if it is one. -/
def updateNetwork (principal : SessionPrincipal) (input : NetworkUpdate)
    (now : Timestamp) : Program Log (Option AuthorityChange) := do
  Transaction.require (validNetworkUpdate input = true)
    (.network "enter a valid network name and status")
  requireOwner principal now
  let previous ← requireNetwork input
  if previous.displayName = Text.strip input.displayName ∧
      previous.status = input.status then
    return none
  else do
    let revoked ← revokeNetwork previous input now
    let _ ← setNetwork input.tenantId (Text.strip input.displayName) input.status
    bumpNetwork input.tenantId input.revision
    let payload := networkPayload previous input revoked
    auditNetwork deployment principal input input.tenantId payload now
    if principal.tenantId ≠ input.tenantId then
      auditNetwork deployment principal input principal.tenantId payload now
    return revoked.map fun _ => .suspension input.tenantId

end Networks

end Access

end ControlForge
