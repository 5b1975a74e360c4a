import ControlForge.Clock

/-!
# Human principals and their capabilities

`requireCapability` looks at the session a request carries;
`requireCurrentCapability` looks it up again in the stored identity tables,
inside the transaction that is about to use the authority.
-/

namespace ControlForge

inductive Role where
  | viewer
  | analyst
  | responder
  | admin
deriving DecidableEq, Repr

inductive Capability where
  | view
  | triage
  | disposition
  | proposeResponse
  | approveResponse
  | manage
deriving DecidableEq, Repr

/-- `ROLE_CAPABILITIES`. -/
def Role.capabilities : Role → List Capability
  | .viewer => [.view]
  | .analyst => [.view, .triage, .disposition]
  | .responder =>
      [.view, .triage, .disposition, .proposeResponse, .approveResponse]
  | .admin =>
      [.view, .triage, .disposition, .proposeResponse, .approveResponse,
        .manage]

/-- The fields of a session principal that the services read. -/
structure SessionPrincipal where
  tenantId : String
  userId : String
  role : Role
  sessionId : String
deriving DecidableEq

structure SessionRow where
  sessionId : String
  tenantId : String
  userId : String
  revokedAt : Option Timestamp
  expiresAt : Timestamp

structure UserRow where
  tenantId : String
  userId : String
  role : Role
  status : String

structure TenantRow where
  tenantId : String
  status : String

structure OwnerMembershipRow where
  tenantId : String
  userId : String
  homeTenantId : String

structure PlatformOwnerRow where
  homeTenantId : String
  userId : String

structure IdentityTables where
  sessions : List SessionRow
  users : List UserRow
  tenants : List TenantRow
  ownerMemberships : List OwnerMembershipRow
  platformOwners : List PlatformOwnerRow

/-- `HumanAuthorizationError`. -/
structure HumanAuthorizationError where
  message : String
deriving DecidableEq

namespace Identity

def requireCapability (principal : SessionPrincipal) (tenantId : String)
    (capability : Capability) : Except HumanAuthorizationError Unit :=
  if principal.tenantId ≠ tenantId ∨
      capability ∉ principal.role.capabilities then
    .error ⟨"principal is not authorized for this operation"⟩
  else .ok ()

def activeUser (tables : IdentityTables) (tenantId userId : String) :
    Option UserRow :=
  tables.users.find? fun user =>
    user.tenantId = tenantId ∧ user.userId = userId ∧ user.status = "active"

def activeTenant (tables : IdentityTables) (tenantId : String) : Bool :=
  tables.tenants.any fun tenant =>
    tenant.tenantId = tenantId ∧ tenant.status = "active"

/-- An active user of an active tenant whose role is `admin`. -/
def activeTenantAdmin (tables : IdentityTables) (tenantId userId : String) :
    Bool :=
  match activeUser tables tenantId userId with
  | some user => user.role = .admin ∧ activeTenant tables tenantId
  | none => false

/-- `_active_admin`: members of a platform owner's tenant count only while the
owner is active in the home tenant. -/
def activeAdmin (tables : IdentityTables) (tenantId userId : String) : Bool :=
  activeTenantAdmin tables tenantId userId &&
    match tables.ownerMemberships.find? fun membership =>
      membership.tenantId = tenantId ∧ membership.userId = userId with
    | none => true
    | some membership =>
        activeTenantAdmin tables membership.homeTenantId userId &&
          tables.platformOwners.any fun owner =>
            owner.homeTenantId = membership.homeTenantId ∧
              owner.userId = userId

/-- The live session of the principal: the tenant it was opened in and the
role of the user's membership in the principal's tenant. -/
def liveSession (tables : IdentityTables) (principal : SessionPrincipal)
    (now : Timestamp) : Option (String × Role) := do
  let session ← tables.sessions.find? fun session =>
    session.sessionId = principal.sessionId ∧
      session.userId = principal.userId ∧ session.revokedAt = none ∧
      now < session.expiresAt
  let _ ← activeUser tables session.tenantId session.userId
  let member ← activeUser tables principal.tenantId session.userId
  if activeTenant tables session.tenantId &&
      activeTenant tables principal.tenantId then
    some (session.tenantId, member.role)
  else none

def requireCurrentCapability (tables : IdentityTables)
    (principal : SessionPrincipal) (capability : Capability)
    (now : Timestamp) : Except HumanAuthorizationError Unit := do
  requireCapability principal principal.tenantId capability
  match liveSession tables principal now with
  | none => .error ⟨"administrator authority changed; sign in again"⟩
  | some (homeTenantId, memberRole) =>
      if memberRole ≠ principal.role then
        .error ⟨"administrator authority changed; sign in again"⟩
      else if homeTenantId ≠ principal.tenantId then
        if tables.ownerMemberships.any (fun membership =>
              membership.tenantId = principal.tenantId ∧
                membership.userId = principal.userId ∧
                membership.homeTenantId = homeTenantId) &&
            activeAdmin tables principal.tenantId principal.userId then
          .ok ()
        else .error ⟨"platform owner authority is inactive"⟩
      else .ok ()

end Identity

end ControlForge
