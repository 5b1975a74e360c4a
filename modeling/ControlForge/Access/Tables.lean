import ControlForge.Cases.Service
import ControlForge.Devices.Rotation
import ControlForge.Response.Service

/-!
# The database the people of an appliance share

The rows of the identity, membership, invitation and enrollment services,
beside the tables of devices, of cases and of response actions.  Every service
sees its own part; a program of one service runs on the whole through it.
Users are never deleted, so the foreign keys that name them hold.
-/

namespace ControlForge

namespace Access

/-! ## Rows -/

/-- A row of `tenants`. -/
structure TenantRecord extends TenantRow where
  slug : String
  displayName : String

def TenantRecord.clash (left right : TenantRecord) : Bool :=
  left.tenantId = right.tenantId ∨ left.slug = right.slug

/-- A row of `users`. -/
structure UserRecord extends UserRow where
  email : String

def UserRecord.hasKey (tenantId userId : String) (row : UserRecord) : Bool :=
  row.tenantId = tenantId ∧ row.userId = userId

/-- The primary key, and `UNIQUE (tenant_id, email)`. -/
def UserRecord.clash (left right : UserRecord) : Bool :=
  left.hasKey right.tenantId right.userId ||
    (left.tenantId = right.tenantId ∧ left.email = right.email : Bool)

/-- A row of `sessions`. -/
structure SessionRecord extends SessionRow where
  secretHash : String
  csrfHash : String

def SessionRecord.clash (left right : SessionRecord) : Bool :=
  left.sessionId = right.sessionId

inductive ChallengePurpose where
  | bootstrap
  | registration
  | authentication
deriving DecidableEq

/-- What `begin_bootstrap` keeps in the context of its challenge. -/
structure BootstrapContext where
  tokenHash : String
  tenantSlug : String
  tenantDisplayName : String
  email : String
  displayName : String
  userId : String

/-- A row of `auth_challenges`; only the bootstrap has a context. -/
structure ChallengeRow where
  challengeId : String
  tenantId : Option String
  userId : Option String
  purpose : ChallengePurpose
  challenge : List UInt8
  context : Option BootstrapContext
  expiresAt : Timestamp
  consumedAt : Option Timestamp

/-- A row of `recovery_codes`. -/
structure RecoveryCodeRow where
  tenantId : String
  userId : String
  codeHash : String
  usedAt : Option Timestamp

/-- A row of `human_invites`. -/
structure InviteRow where
  inviteId : String
  tenantId : String
  tokenHash : String
  email : String
  displayName : String
  role : Role
  createdBy : String
  createdAt : Timestamp
  expiresAt : Timestamp
  consumedAt : Option Timestamp
  revokedAt : Option Timestamp

def InviteRow.clash (left right : InviteRow) : Bool :=
  left.inviteId = right.inviteId ∨ left.tokenHash = right.tokenHash

/-- `consumed_at IS NULL AND revoked_at IS NULL`. -/
def InviteRow.isOpen (row : InviteRow) : Bool :=
  row.consumedAt.isNone && row.revokedAt.isNone

/-- A row of `human_invite_challenges`. -/
structure InviteChallengeRow where
  challengeId : String
  inviteId : String
  userId : String
  challenge : List UInt8
  expiresAt : Timestamp
  consumedAt : Option Timestamp

/-- A row of `enrollment_tokens`. -/
structure GrantRow where
  tokenId : String
  tenantId : String
  tokenHash : String
  expectedDeviceId : Option String
  createdBy : String
  createdAt : Timestamp
  expiresAt : Timestamp
  usedAt : Option Timestamp
  revokedAt : Option Timestamp
  claimedDeviceId : Option String

def GrantRow.clash (left right : GrantRow) : Bool :=
  left.tokenId = right.tokenId ∨ left.tokenHash = right.tokenHash

/-- A row of `endpoint_sessions`. -/
structure EndpointSessionRow where
  tokenHash : String
  tenantId : String
  accountId : String
  passwordVersion : Nat
  expiresAt : Timestamp

/-- A row of `management_revisions` of the kind `user`. -/
structure MemberRevisionRow where
  tenantId : String
  userId : String
  revision : Int

/-- A row of `network_revisions`. -/
structure NetworkRevisionRow where
  tenantId : String
  revision : Int

/-- A row of `retention_policies`. -/
structure RetentionPolicyRow where
  tenantId : String
  telemetryDays : Int
  updatedBy : String
  updatedAt : Timestamp

/-- A row of `retention_runs`. -/
structure RetentionRunRow where
  tenantId : String
  runId : String
  cutoffAt : Timestamp
  terminalJobsDeleted : Nat
  unreferencedEventsDeleted : Nat
  executedBy : String
  executedAt : Timestamp

def RetentionRunRow.clash (left right : RetentionRunRow) : Bool :=
  left.tenantId = right.tenantId ∧ left.runId = right.runId

/-! ## The database and its parts -/

structure Appliance (Log : Type) where
  tenants : Table TenantRecord TenantRecord.clash
  users : Table UserRecord UserRecord.clash
  sessions : Table SessionRecord SessionRecord.clash
  ownerMemberships : List OwnerMembershipRow
  platformOwners : List PlatformOwnerRow
  challenges : List ChallengeRow
  recoveryCodes : List RecoveryCodeRow
  invites : Table InviteRow InviteRow.clash
  inviteChallenges : List InviteChallengeRow
  grants : Table GrantRow GrantRow.clash
  endpointSessions : List EndpointSessionRow
  memberRevisions : List MemberRevisionRow
  networkRevisions : List NetworkRevisionRow
  retentionPolicies : List RetentionPolicyRow
  retentionRuns : Table RetentionRunRow RetentionRunRow.clash
  devices : List Devices.DeviceRow
  credentials : Table Devices.CredentialRow Devices.CredentialRow.clash
  rotations : Table Devices.RotationRow Devices.RotationRow.clash
  nonces : Table Devices.NonceRow Devices.NonceRow.clash
  actions : Response.ActionTable
  events : Table Store.EventRow Store.EventRow.clash
  jobs : Table Store.JobRow Store.JobRow.clash
  alerts : Table Store.AlertRow Store.AlertRow.clash
  cases : Table Store.CaseRow Store.CaseRow.clash
  caseAlerts : Table Store.CaseAlertRow Store.CaseAlertRow.clash
  activity : Table Store.ActivityRow Store.ActivityRow.clash
  dispositions : Table Store.DispositionRow Store.DispositionRow.clash
  audit : Log

inductive AccessError where
  | authorization (message : String)
  | session (message : String)
  | challenge (message : String)
  | humanInvite (message : String)
  | identity (message : String)
  | network (message : String)
  | networkConflict (message : String)
  | enrollment (message : String)
  | invalidValue (message : String)
  | retention (message : String)
  | response (failure : Response.ResponseError)
  | store (failure : Store.StoreError)
  | rotation (failure : Devices.RotationError)
  | collector (failure : Devices.CollectorError)
  /-- A constraint of a table. -/
  | integrity (message : String)
  | audit (failure : AuditError)

abbrev Program (Log : Type) : Type → Type :=
  Transaction (Appliance Log) AccessError

namespace Appliance

variable {Log : Type} (appliance : Appliance Log)

/-- The tables a capability check reads. -/
def identity : IdentityTables where
  sessions := appliance.sessions.rows.map (·.toSessionRow)
  users := appliance.users.rows.map (·.toUserRow)
  tenants := appliance.tenants.rows.map (·.toTenantRow)
  ownerMemberships := appliance.ownerMemberships
  platformOwners := appliance.platformOwners

/-- What the response service sees. -/
def response : Response.Database Log where
  actions := appliance.actions
  cases := appliance.cases.rows.map fun row =>
    ⟨row.tenantId, row.caseId, row.status⟩
  devices := appliance.devices.map fun row =>
    ⟨row.tenantId, row.deviceId, row.status⟩
  identity := appliance.identity
  audit := appliance.audit

/-- What the case service sees. -/
def store : Store.Database Log where
  tenants := appliance.tenants.rows.map (·.tenantId)
  devices := appliance.devices.map fun row => (row.tenantId, row.deviceId)
  users := appliance.users.rows.map (·.toUserRow)
  events := appliance.events
  jobs := appliance.jobs
  alerts := appliance.alerts
  cases := appliance.cases
  caseAlerts := appliance.caseAlerts
  activity := appliance.activity
  dispositions := appliance.dispositions
  audit := appliance.audit

/-- What the device services see. -/
def collectors : Devices.Database where
  tenants := appliance.tenants.rows.map (·.toTenantRow)
  devices := appliance.devices
  credentials := appliance.credentials
  rotations := appliance.rotations
  nonces := appliance.nonces

def withResponse (after : Response.Database Log) : Appliance Log :=
  { appliance with actions := after.actions, audit := after.audit }

def withStore (after : Store.Database Log) : Appliance Log :=
  { appliance with
    events := after.events
    jobs := after.jobs
    alerts := after.alerts
    cases := after.cases
    caseAlerts := after.caseAlerts
    activity := after.activity
    dispositions := after.dispositions
    audit := after.audit }

def withCollectors (after : Devices.Database) : Appliance Log :=
  { appliance with
    devices := after.devices
    credentials := after.credentials
    rotations := after.rotations
    nonces := after.nonces }

end Appliance

/-! ## Programs of the services -/

section Programs

variable {Log Value : Type}

def inResponse (program : Response.Program Log Value) : Program Log Value :=
  fun appliance =>
    match program appliance.response with
    | .ok (value, after) => .ok (value, appliance.withResponse after)
    | .error failure => .error (.response failure)

def inStore (program : Store.Program Log Value) : Program Log Value :=
  fun appliance =>
    match program appliance.store with
    | .ok (value, after) => .ok (value, appliance.withStore after)
    | .error failure => .error (.store failure)

def inCollectors (program : Devices.RotationProgram Value) :
    Program Log Value :=
  fun appliance =>
    match program appliance.collectors with
    | .ok (value, after) => .ok (value, appliance.withCollectors after)
    | .error failure => .error (.rotation failure)

/-- An append to the audit log. -/
def audit (append : AuditAppend Log) (record : AuditRecord) :
    Program Log Unit := fun appliance =>
  match append record appliance.audit with
  | .ok (_, log) => .ok ((), { appliance with audit := log })
  | .error failure => .error (.audit failure)

def authorize (result : Except HumanAuthorizationError Unit) :
    Except AccessError Unit :=
  result.mapError fun failure => .authorization failure.message

/-- `require_capability`. -/
def requireCapability (principal : SessionPrincipal)
    (capability : Capability) : Except AccessError Unit :=
  authorize
    (Identity.requireCapability principal principal.tenantId capability)

/-- `require_current_capability`, inside a transaction. -/
def requireCurrentCapability (principal : SessionPrincipal)
    (capability : Capability) (now : Timestamp) : Program Log Unit := do
  let appliance ← get
  Transaction.ofExcept (authorize
    (Identity.requireCurrentCapability appliance.identity principal capability
      now))

/-! ## Statements -/

def insertUser (row : UserRecord) : Program Log Unit := fun appliance =>
  match appliance.users.insert row with
  | some users => .ok ((), { appliance with users })
  | none => .error (.integrity "UNIQUE constraint failed: users")

def insertSession (row : SessionRecord) : Program Log Unit := fun appliance =>
  match appliance.sessions.insert row with
  | some sessions => .ok ((), { appliance with sessions })
  | none => .error (.integrity "UNIQUE constraint failed: sessions")

def insertInvite (row : InviteRow) : Program Log Unit := fun appliance =>
  match appliance.invites.insert row with
  | some invites => .ok ((), { appliance with invites })
  | none => .error (.integrity "UNIQUE constraint failed: human_invites")

def insertGrant (row : GrantRow) : Program Log Unit := fun appliance =>
  match appliance.grants.insert row with
  | some grants => .ok ((), { appliance with grants })
  | none => .error (.integrity "UNIQUE constraint failed: enrollment_tokens")

/-- An `UPDATE` of `tenants` and its row count. -/
def updateTenants (selected : TenantRecord → Bool)
    (change : TenantRecord → TenantRecord) : Program Log Nat :=
  fun appliance =>
    match appliance.tenants.updateWhere selected change (fun _ _ => none)
        (.integrity "UNIQUE constraint failed: tenants") with
    | .ok (count, tenants) => .ok (count, { appliance with tenants })
    | .error failure => .error failure

/-- An `UPDATE` of `users` and its row count. -/
def updateUsers (selected : UserRecord → Bool)
    (change : UserRecord → UserRecord) : Program Log Nat := fun appliance =>
  match appliance.users.updateWhere selected change (fun _ _ => none)
      (.integrity "UNIQUE constraint failed: users") with
  | .ok (count, users) => .ok (count, { appliance with users })
  | .error failure => .error failure

/-- `UPDATE sessions SET revoked_at=?` and its row count. -/
def revokeSessions (selected : SessionRecord → Bool) (now : Timestamp) :
    Program Log Nat := fun appliance =>
  match appliance.sessions.updateWhere
      (fun row => selected row && row.revokedAt.isNone)
      (fun row => { row with revokedAt := some now }) (fun _ _ => none)
      (.integrity "UNIQUE constraint failed: sessions") with
  | .ok (count, sessions) => .ok (count, { appliance with sessions })
  | .error failure => .error failure

/-- An `UPDATE` of the open rows of `human_invites` and its row count. -/
def closeInvites (selected : InviteRow → Bool)
    (change : InviteRow → InviteRow) : Program Log Nat := fun appliance =>
  match appliance.invites.updateWhere
      (fun row => selected row && row.isOpen) change (fun _ _ => none)
      (.integrity "UNIQUE constraint failed: human_invites") with
  | .ok (count, invites) => .ok (count, { appliance with invites })
  | .error failure => .error failure

/-- An `UPDATE` of the unrevoked rows of `enrollment_tokens` and its row
count. -/
def updateGrants (selected : GrantRow → Bool) (change : GrantRow → GrantRow) :
    Program Log Nat := fun appliance =>
  match appliance.grants.updateWhere
      (fun row => selected row && row.revokedAt.isNone) change
      (fun _ _ => none)
      (.integrity "UNIQUE constraint failed: enrollment_tokens") with
  | .ok (count, grants) => .ok (count, { appliance with grants })
  | .error failure => .error failure

/-- Consume the open challenges the selection names. -/
def consumeChallenges (selected : ChallengeRow → Bool) (now : Timestamp) :
    Program Log Nat := fun appliance =>
  let chosen := fun row : ChallengeRow =>
    selected row && row.consumedAt.isNone
  .ok (appliance.challenges.countP chosen,
    { appliance with
      challenges := appliance.challenges.map
        (Table.applyWhere chosen fun row =>
          { row with consumedAt := some now }) })

end Programs

end Access

end ControlForge
