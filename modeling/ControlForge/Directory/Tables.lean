import ControlForge.Access.Enrollment
import ControlForge.Access.Lifecycle

/-!
# The records of people, networks and accounts

The database of an appliance with the tables of its bootstrap, its passkeys,
its network namespaces and its endpoint accounts beside those of
`Access.Appliance`.  A program of the appliance runs on the whole through it.
-/

namespace ControlForge

namespace Directory

open Access

/-! ## Rows -/

/-- A row of `bootstrap_tokens`. -/
structure BootstrapTokenRow where
  tokenHash : String
  expiresAt : Timestamp
  usedAt : Option Timestamp
  revokedAt : Option Timestamp

def BootstrapTokenRow.clash (left right : BootstrapTokenRow) : Bool :=
  left.tokenHash = right.tokenHash

/-- `used_at IS NULL AND revoked_at IS NULL AND expires_at > ?`. -/
def BootstrapTokenRow.isOpen (row : BootstrapTokenRow) (now : Timestamp) :
    Bool :=
  row.usedAt.isNone && row.revokedAt.isNone && now < row.expiresAt

/-- A row of `passkey_credentials`. -/
structure PasskeyRow where
  tenantId : String
  userId : String
  credentialId : String
  publicKey : List UInt8
  signCount : Nat
  label : String
  createdAt : Timestamp
  lastUsedAt : Option Timestamp
  revokedAt : Option Timestamp

def PasskeyRow.hasKey (tenantId credentialId : String) (row : PasskeyRow) :
    Bool :=
  row.tenantId = tenantId ∧ row.credentialId = credentialId

def PasskeyRow.clash (left right : PasskeyRow) : Bool :=
  left.hasKey right.tenantId right.credentialId

/-- A row of `network_namespaces`. -/
structure NamespaceRow where
  tenantId : String
  loginDomain : String

/-- The primary key, and `UNIQUE` on the login domain. -/
def NamespaceRow.clash (left right : NamespaceRow) : Bool :=
  left.tenantId = right.tenantId ∨ left.loginDomain = right.loginDomain

/-- A row of `endpoint_accounts`. -/
structure AccountRow where
  tenantId : String
  accountId : String
  username : String
  displayName : String
  passwordHash : String
  passwordVersion : Nat
  initialPasswordExpiresAt : Option Timestamp
  setupCompletedAt : Option Timestamp
  status : String
deriving DecidableEq

def AccountRow.hasKey (tenantId accountId : String) (row : AccountRow) : Bool :=
  row.tenantId = tenantId ∧ row.accountId = accountId

/-- The primary key, and `UNIQUE` on the user name. -/
def AccountRow.clash (left right : AccountRow) : Bool :=
  left.hasKey right.tenantId right.accountId ||
    (left.username = right.username : Bool)

/-- A row of `management_revisions` of the kind `account`. -/
structure AccountRevisionRow where
  tenantId : String
  accountId : String
  revision : Int

/-- A row of `account_enrollment_grants`. -/
structure AccountGrantRow where
  tokenId : String
  tenantId : String
  accountId : String
  passwordVersion : Nat

def AccountGrantRow.clash (left right : AccountGrantRow) : Bool :=
  left.tokenId = right.tokenId

/-- A row of `password_reset_requests`. -/
structure ResetRequestRow where
  requestId : String
  tenantId : String
  accountId : String
  requestedAt : Timestamp
  resolvedAt : Option Timestamp
  resolvedBy : Option String

/-- The primary key, and the index on the open requests of an account. -/
def ResetRequestRow.clash (left right : ResetRequestRow) : Bool :=
  (left.requestId = right.requestId : Bool) ||
    (left.resolvedAt.isNone && right.resolvedAt.isNone &&
      (left.tenantId = right.tenantId ∧ left.accountId = right.accountId : Bool))

/-- The columns of `devices` that only an enrollment reads. -/
structure DeviceProfileRow where
  tenantId : String
  deviceId : String
  displayName : String
  platform : String
deriving DecidableEq

/-! ## The database -/

structure Records (Log : Type) extends Appliance Log where
  bootstrapTokens : Table BootstrapTokenRow BootstrapTokenRow.clash
  passkeys : Table PasskeyRow PasskeyRow.clash
  namespaces : Table NamespaceRow NamespaceRow.clash
  accounts : Table AccountRow AccountRow.clash
  accountRevisions : List AccountRevisionRow
  accountGrants : Table AccountGrantRow AccountGrantRow.clash
  resetRequests : Table ResetRequestRow ResetRequestRow.clash
  deviceProfiles : List DeviceProfileRow
  /-- The credentials whose `name` is `initial enrollment`. -/
  initialCredentials : List String

inductive DirectoryError where
  | access (failure : AccessError)
  | bootstrap (message : String)
  | password (message : String)
  | ownerSetup (message : String)

abbrev Program (Log : Type) : Type → Type :=
  Transaction (Records Log) DirectoryError

section Programs

variable {Log Value : Type}

/-- A program of the appliance. -/
def inAppliance (program : Access.Program Log Value) : Program Log Value :=
  fun records =>
    match program records.toAppliance with
    | .ok (value, appliance) =>
        .ok (value, { records with toAppliance := appliance })
    | .error failure => .error (.access failure)

/-- A failure of the services of the appliance. -/
def raise (failure : AccessError) : Program Log Value :=
  throw (.access failure)

def require (condition : Prop) [Decidable condition] (failure : AccessError) :
    Program Log Unit :=
  Transaction.require condition (.access failure)

/-- An append to the audit log. -/
def audit (append : AuditAppend Log) (record : AuditRecord) :
    Program Log Unit :=
  inAppliance (Access.audit append record)

/-! ## Statements -/

variable {Row : Type} {clash : Row → Row → Bool}

/-- An `INSERT` into the table that `store` puts back. -/
def insertInto (table : Records Log → Table Row clash)
    (store : Records Log → Table Row clash → Records Log)
    (failure : DirectoryError) (row : Row) : Program Log Unit :=
  fun records =>
    match (table records).insert row with
    | some rows => .ok ((), store records rows)
    | none => .error failure

/-- An `UPDATE` of the table that `store` puts back, and its row count. -/
def updateIn (table : Records Log → Table Row clash)
    (store : Records Log → Table Row clash → Records Log)
    (failure : DirectoryError) (selected : Row → Bool) (change : Row → Row) :
    Program Log Nat :=
  fun records =>
    match (table records).updateWhere selected change (fun _ _ => none)
        failure with
    | .ok (count, rows) => .ok (count, store records rows)
    | .error failure => .error failure

def notUnique (table : String) : DirectoryError :=
  .access (.integrity ("UNIQUE constraint failed: " ++ table))

def noForeignKey : AccessError :=
  .integrity "FOREIGN KEY constraint failed"

def insertBootstrapToken : BootstrapTokenRow → Program Log Unit :=
  insertInto Records.bootstrapTokens
    (fun records bootstrapTokens => { records with bootstrapTokens })
    (notUnique "bootstrap_tokens")

def updateBootstrapTokens :
    (BootstrapTokenRow → Bool) → (BootstrapTokenRow → BootstrapTokenRow) →
      Program Log Nat :=
  updateIn Records.bootstrapTokens
    (fun records bootstrapTokens => { records with bootstrapTokens })
    (notUnique "bootstrap_tokens")

/-- The foreign key of a table that names a user. -/
def requireUser (tenantId userId : String) : Program Log Unit := do
  let records ← get
  require (records.users.rows.any (·.hasKey tenantId userId) = true)
    noForeignKey

/-- The triggers on the identities of owner memberships. -/
def requireNoProjection (tenantId userId : String) : Program Log Unit := do
  let records ← get
  require
    (records.ownerMemberships.any (fun membership =>
      membership.tenantId = tenantId ∧ membership.userId = userId) = false)
    (.integrity "owner projections cannot become login identities")

/-- `_insert_passkey`. -/
def insertPasskey (row : PasskeyRow) : Program Log Unit := do
  requireNoProjection row.tenantId row.userId
  insertInto Records.passkeys
    (fun records passkeys => { records with passkeys })
    (notUnique "passkey_credentials") row
  requireUser row.tenantId row.userId

def updatePasskeys :
    (PasskeyRow → Bool) → (PasskeyRow → PasskeyRow) → Program Log Nat :=
  updateIn Records.passkeys (fun records passkeys => { records with passkeys })
    (notUnique "passkey_credentials")

/-- An `INSERT` into `auth_challenges`. -/
def insertChallenge (row : ChallengeRow) : Program Log Unit := do
  let records ← get
  Transaction.require
    (records.challenges.any (fun stored =>
      stored.challengeId = row.challengeId) = false)
    (notUnique "auth_challenges")
  set { records with challenges := records.challenges ++ [row] }
  match row.tenantId, row.userId with
  | some tenantId, some userId => requireUser tenantId userId
  | _, _ => return ()

/-- An `INSERT` into `human_invite_challenges`. -/
def insertInviteChallenge (row : InviteChallengeRow) : Program Log Unit := do
  let records ← get
  Transaction.require
    (records.inviteChallenges.any (fun stored =>
      stored.challengeId = row.challengeId) = false)
    (notUnique "human_invite_challenges")
  set { records with
    inviteChallenges := records.inviteChallenges ++ [row] }

/-- An `INSERT` into `recovery_codes`. -/
def insertRecoveryCode (row : RecoveryCodeRow) : Program Log Unit := do
  requireNoProjection row.tenantId row.userId
  let records ← get
  Transaction.require
    (records.recoveryCodes.any (fun stored =>
      stored.tenantId = row.tenantId ∧ stored.codeHash = row.codeHash) = false)
    (notUnique "recovery_codes")
  set { records with recoveryCodes := records.recoveryCodes ++ [row] }

def insertTenant : TenantRecord → Program Log Unit :=
  insertInto (fun records => records.tenants)
    (fun records tenants => { records with tenants }) (notUnique "tenants")

/-- An `INSERT` into `platform_owners`, whose key is a constant. -/
def insertOwner (row : PlatformOwnerRow) : Program Log Unit := do
  let records ← get
  Transaction.require (records.platformOwners = [])
    (notUnique "platform_owners")
  set { records with platformOwners := [row] }
  requireUser row.homeTenantId row.userId

/-- An `INSERT` into `owner_memberships`. -/
def insertMembership (row : OwnerMembershipRow) : Program Log Unit := do
  let records ← get
  Transaction.require
    (records.ownerMemberships.any (fun stored =>
      stored.tenantId = row.tenantId ∧ stored.userId = row.userId) = false)
    (notUnique "owner_memberships")
  set { records with ownerMemberships := records.ownerMemberships ++ [row] }
  requireUser row.tenantId row.userId
  requireUser row.homeTenantId row.userId

def insertNamespace : NamespaceRow → Program Log Unit :=
  insertInto Records.namespaces
    (fun records namespaces => { records with namespaces })
    (notUnique "network_namespaces")

def insertAccount : AccountRow → Program Log Unit :=
  insertInto Records.accounts (fun records accounts => { records with accounts })
    (notUnique "endpoint_accounts")

def updateAccounts :
    (AccountRow → Bool) → (AccountRow → AccountRow) → Program Log Nat :=
  updateIn Records.accounts (fun records accounts => { records with accounts })
    (notUnique "endpoint_accounts")

def insertAccountGrant : AccountGrantRow → Program Log Unit :=
  insertInto Records.accountGrants
    (fun records accountGrants => { records with accountGrants })
    (notUnique "account_enrollment_grants")

/-- `INSERT OR IGNORE INTO password_reset_requests` and its row count. -/
def insertResetRequest (row : ResetRequestRow) : Program Log Nat :=
  fun records =>
    match records.resetRequests.insert row with
    | some resetRequests => .ok (1, { records with resetRequests })
    | none => .ok (0, records)

def updateResetRequests :
    (ResetRequestRow → Bool) → (ResetRequestRow → ResetRequestRow) →
      Program Log Nat :=
  updateIn Records.resetRequests
    (fun records resetRequests => { records with resetRequests })
    (notUnique "password_reset_requests")

end Programs

end Directory

end ControlForge
