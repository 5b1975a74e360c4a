import ControlForge.Directory.Ceremonies

/-!
# Networks, their owner and the revisions of their management

`NetworkService.create_network`, `PlatformOwnerSetup.designate` and
`NetworkLifecycleService`.
-/

namespace ControlForge

namespace Directory

open Access

section Networks

variable {Log : Type} (services : Services Log)

/-! ## Names of networks -/

/-- `[a-z0-9](?:[a-z0-9-]{0,61}[a-z0-9])?`. -/
def isDomainLabel (part : List Char) : Bool :=
  part.length ≤ 63 && part.head?.any isLowerAlphanumeric &&
    part.getLast?.any isLowerAlphanumeric &&
    part.all fun character => isLowerAlphanumeric character || character = '-'

/-- `normalize_domain`. -/
def normalizeDomain (value : String) : Except AccessError String :=
  let domain := services.lower (Text.strip value)
  let parts := domain.toList.splitOn '.'
  if 190 < domain.length ∨ parts.length < 2 ∨
      parts.all isDomainLabel = false then
    .error (.network
      "Use a DNS domain without a scheme, port, path, or wildcard.")
  else .ok domain

def reservedSlugs : List String :=
  ["www", "admin", "api", "soc", "mail", "owner", "support"]

def isNetworkSlug (slug : String) : Bool :=
  isSlug slug && 3 ≤ slug.length && slug.length ≤ 48 &&
    !reservedSlugs.contains slug

/-- A name of 1 to 120 printable characters. -/
def isDisplayName (name : String) : Bool :=
  (name ≠ "" ∧ name.length ≤ 120 : Bool) &&
    name.toList.all fun character => 32 ≤ character.toNat

/-- The login domain of a network slug. -/
def networkDomain (slug : String) : Except AccessError String :=
  match services.baseDomain with
  | none => .error (.network
      "Configure CONTROLFORGE_NETWORK_BASE_DOMAIN on the appliance first.")
  | some baseDomain => normalizeDomain services (slug ++ "." ++ baseDomain)

/-- `except sqlite3.IntegrityError` around inserts that raise nothing else. -/
def replaceFailure {Value : Type} (program : Program Log Value)
    (failure : AccessError) : Program Log Value := fun records =>
  match program records with
  | .ok result => .ok result
  | .error _ => .error (.access failure)

/-! ## A new network -/

/-- The arguments of `create_network` and the email of its principal. -/
structure NetworkInput where
  slug : String
  displayName : String
  ownerEmail : String

/-- What `create_network` checks of its arguments: the login domain. -/
def checkNetwork (input : NetworkInput) : Except AccessError String :=
  if isNetworkSlug input.slug = false then
    .error (.network
      "Choose a 3-48 character network name using letters and hyphens.")
  else if isDisplayName (Text.strip input.displayName) = false then
    .error (.network "Enter a network display name of 1-120 characters.")
  else networkDomain services input.slug

def requireAdminIn (principal : SessionPrincipal) (now : Timestamp) :
    Program Log Unit :=
  inAppliance (requireCurrentCapability principal .manage now)

/-- The identity of the owner in a network. -/
def projection (tenantId userId email : String) : UserRecord where
  tenantId
  userId
  role := .admin
  status := "active"
  email

def auditCreation (principal : SessionPrincipal) (logTenantId : String)
    (networkId : String) (payload : Dict) (now : Timestamp) :
    Program Log Unit :=
  audit services.cases.append (record logTenantId "network.created"
    "platform_owner" principal.userId "network" networkId payload now)

/-- `create_network`. -/
def createNetwork (principal : SessionPrincipal) (input : NetworkInput)
    (draw : Draw) : Program Log Unit := do
  let domain ← inAppliance
    (Transaction.ofExcept (checkNetwork services input))
  requireAdminIn principal draw.now
  let records ← get
  require (isOwner records.identity principal = true)
    (.authorization "only the platform owner can create networks")
  require (records.tenants.rows.length < 200)
    (.network "This appliance has reached its 200-network safety limit.")
  replaceFailure
    (do
      insertTenant ⟨⟨draw.id, "active"⟩, input.slug,
        Text.strip input.displayName⟩
      insertNamespace ⟨draw.id, domain⟩)
    (.network "That network name is already in use.")
  inAppliance (insertUser
    (projection draw.id principal.userId input.ownerEmail))
  insertMembership ⟨draw.id, principal.userId, principal.tenantId⟩
  auditCreation services principal draw.id draw.id
    { members := [("login_domain", .str domain)] } draw.now
  auditCreation services principal principal.tenantId draw.id
    { members := [] } draw.now

/-! ## The designation of the owner -/

/-- The arguments of `designate`. -/
structure Designation where
  tenantId : String
  userId : String
  confirmation : String

def ownerConfirmation : String :=
  "DESIGNATE-PLATFORM-OWNER"

/-- The checks before the database is read. -/
def checkDesignation (input : Designation) (ready : Bool) :
    Except DirectoryError Unit :=
  if input.confirmation ≠ ownerConfirmation then
    .error (.ownerSetup
      "owner designation requires --confirm DESIGNATE-PLATFORM-OWNER")
  else if ready then .ok ()
  else .error (.ownerSetup
    "stop the standalone runtime before designating its owner")

/-- The networks `_designate_locked` reads before its transaction. -/
def readTenants (records : Records Log) : Except DirectoryError (List String) :=
  if 200 < records.tenants.rows.length then
    .error (.ownerSetup "owner setup supports at most 200 networks")
  else .ok (records.tenants.rows.map fun row => row.tenantId)

def verifyChain (records : Records Log) (tenantId : String) :
    Except DirectoryError Unit :=
  if services.verifyAudit records.audit tenantId then .ok ()
  else .error (.ownerSetup
    "verify the appliance audit key and chain before owner setup")

/-- The candidate: an active administrator with a passkey. -/
def ownerCandidate (records : Records Log) (tenantId userId : String) :
    Option UserRecord :=
  records.users.rows.find? fun user =>
    (user.hasKey tenantId userId &&
      (user.status = "active" ∧ user.role = .admin : Bool)) &&
      Identity.activeTenant records.identity tenantId &&
      hasPasskey records tenantId userId

/-- The membership of the owner in another network. -/
def projectOwner (input : Designation) (candidate : UserRecord)
    (now : Timestamp) (target : String) : Program Log Unit := do
  let records ← get
  Transaction.require
    (records.users.rows.any (fun user =>
      user.tenantId = target ∧
        (user.userId = input.userId ∨ user.email = candidate.email)) = false)
    (.ownerSetup
      "an existing network identity conflicts; no identities were merged")
  inAppliance (insertUser (projection target input.userId candidate.email))
  insertMembership ⟨target, input.userId, input.tenantId⟩
  audit services.cases.append (record target
    "platform_owner.membership_created" "local_operator" services.operatorId
    "user" input.userId
    { members := [("home_tenant_id", .str input.tenantId)] } now)

/-- The owner, and the end of the sign-ins of the owner's home identity. -/
def installOwner (input : Designation) (candidate : UserRecord)
    (tenants : List String) (now : Timestamp) : Program Log Unit := do
  (tenants.filter (· ≠ input.tenantId)).forM
    (projectOwner services input candidate now)
  insertOwner ⟨input.tenantId, input.userId⟩
  let _ ← inAppliance (revokeSessions (fun row =>
    row.tenantId = input.tenantId ∧ row.userId = input.userId) now)
  let _ ← inAppliance (consumeChallenges (fun row =>
    row.tenantId = some input.tenantId ∧ row.userId = some input.userId) now)
  audit services.cases.append (record input.tenantId
    "platform_owner.designated" "local_operator" services.operatorId "user"
    input.userId { members := [("networks", .int tenants.length)] } now)

/-- The transaction of `designate`; an owner who is already designated is left
alone. -/
def designate (input : Designation) (tenants : List String)
    (now : Timestamp) : Program Log Unit := do
  let records ← get
  match records.platformOwners with
  | previous :: _ =>
      Transaction.require
        (previous.homeTenantId = input.tenantId ∧
          previous.userId = input.userId)
        (.ownerSetup ("an owner is already designated; this is not an " ++
          "owner-transfer command"))
  | [] => do
      Transaction.require (records.ownerMemberships = [])
        (.ownerSetup
          "existing owner membership data needs explicit recovery")
      match ownerCandidate records input.tenantId input.userId with
      | none => throw (.ownerSetup
          "select an active administrator with an active passkey")
      | some candidate => installOwner services input candidate tenants now

/-! ## Revisioned changes -/

/-- The update changes the stored name or status. -/
def changesNetwork (records : Records Log) (input : NetworkUpdate) : Bool :=
  records.tenants.rows.any fun row =>
    row.tenantId = input.tenantId ∧
      ¬ (row.displayName = Text.strip input.displayName ∧
        row.status = input.status)

/-- `update_network`: whether it changes anything, and its suspension. -/
def updateNetwork (principal : SessionPrincipal) (input : NetworkUpdate)
    (now : Timestamp) : Program Log (Bool × Option AuthorityChange) := do
  let records ← get
  let suspension ← inAppliance
    (Access.updateNetwork services.toDeployment principal input now)
  return (changesNetwork records input, suspension)

/-- `update_member`: whether it changes anything. -/
def updateMember (principal : SessionPrincipal) (input : MemberUpdate)
    (now : Timestamp) : Program Log Bool := do
  let change ← inAppliance
    (Access.updateMember services.toDeployment principal input now)
  return change.isSome

/-- The arguments of `adopt_namespace`. -/
structure NamespaceInput where
  tenantId : String
  slug : String
  revision : Int

/-- What `adopt_namespace` checks of its arguments: the login domain. -/
def checkNamespace (input : NamespaceInput) : Except AccessError String :=
  match services.baseDomain with
  | none =>
      .error (.network "configure CONTROLFORGE_NETWORK_BASE_DOMAIN first")
  | some baseDomain =>
      if isNetworkSlug input.slug then
        normalizeDomain services (input.slug ++ "." ++ baseDomain)
      else .error (.network ("choose a 3-48 character account subdomain " ++
        "using letters and hyphens"))

/-- `_network`, for a namespace. -/
def requireAdoptable (input : NamespaceInput) : Program Log Unit := do
  let records ← get
  match records.tenants.rows.find? fun row =>
      row.tenantId = input.tenantId with
  | none => raise (.network "that network is unavailable")
  | some previous => do
      require (networkRevision records.toAppliance input.tenantId =
          input.revision)
        (.networkConflict "the network changed; refresh before trying again")
      require (records.namespaces.rows.any (fun row =>
          row.tenantId = input.tenantId) = false)
        (.networkConflict
          "this network already has an immutable login namespace")
      require (previous.status = "active")
        (.network
          "resume the network before configuring its account namespace")

/-- `adopt_namespace`. -/
def adoptNamespace (principal : SessionPrincipal) (input : NamespaceInput)
    (now : Timestamp) : Program Log Unit := do
  let domain ← inAppliance
    (Transaction.ofExcept (checkNamespace services input))
  inAppliance (requireOwner principal now)
  requireAdoptable input
  replaceFailure (insertNamespace ⟨input.tenantId, domain⟩)
    (.networkConflict "that account subdomain is already in use")
  inAppliance (bumpNetwork input.tenantId input.revision)
  audit services.cases.append (record input.tenantId
    "network.namespace_adopted" "platform_owner" principal.userId "network"
    input.tenantId
    { members := [("login_domain", .str domain),
        ("revision", .int (input.revision + 1))] } now)

/-- The arguments of `update_account`. -/
structure AccountUpdate where
  accountId : String
  displayName : String
  status : String
  revision : Int

/-- What an update does to an account. -/
inductive AccountChange where
  | unchanged
  | renamed
  | signIn
deriving DecidableEq

/-- The stored revision of an account, `1` before the first change. -/
def accountRevision (records : Records Log) (tenantId accountId : String) :
    Int :=
  match records.accountRevisions.find? fun row =>
      row.tenantId = tenantId ∧ row.accountId = accountId with
  | some row => row.revision
  | none => 1

/-- `_bump_identity` of the kind `account`. -/
def bumpAccount (tenantId accountId : String) (revision : Int) :
    Program Log Unit :=
  modify fun records => { records with
    accountRevisions := ⟨tenantId, accountId, revision + 1⟩ ::
      records.accountRevisions.filter fun row =>
        ¬ (row.tenantId = tenantId ∧ row.accountId = accountId) }

/-- `DELETE FROM endpoint_sessions` and its row count. -/
def deleteSessions (selected : EndpointSessionRow → Bool) : Program Log Nat :=
  fun records =>
    .ok (records.endpointSessions.countP selected,
      { records with
        endpointSessions := records.endpointSessions.filter fun row =>
          !selected row })

def EndpointSessionRow.ofAccount (tenantId accountId : String)
    (row : EndpointSessionRow) : Bool :=
  row.tenantId = tenantId ∧ row.accountId = accountId

/-- The enrollment tokens that were issued to an account. -/
def ownsToken (records : Records Log) (tenantId accountId tokenId : String) :
    Bool :=
  records.accountGrants.rows.any fun row =>
    row.tokenId = tokenId ∧ row.tenantId = tenantId ∧ row.accountId = accountId

/-- `UPDATE enrollment_tokens SET revoked_at=?` for the tokens of an account,
whether they were revoked before or not. -/
def revokeTokens (tenantId accountId : String) (selected : GrantRow → Bool)
    (now : Timestamp) : Program Log Nat := do
  let records ← get
  updateIn (fun records => records.grants)
    (fun records grants => { records with grants })
    (notUnique "enrollment_tokens")
    (fun row => selected row && ownsToken records tenantId accountId row.tokenId)
    fun row => { row with revokedAt := some now }

/-- What a change of the sign-in state revokes. -/
def revokeSignIn (principal : SessionPrincipal) (input : AccountUpdate)
    (now : Timestamp) : Program Log Nat := do
  let revoked ← deleteSessions
    (EndpointSessionRow.ofAccount principal.tenantId input.accountId)
  let _ ← revokeTokens principal.tenantId input.accountId (fun _ => true) now
  let _ ← updateAccounts (·.hasKey principal.tenantId input.accountId)
    fun row => { row with passwordVersion := row.passwordVersion + 1 }
  if input.status = "disabled" then
    let _ ← updateResetRequests
      (fun row =>
        (row.tenantId = principal.tenantId ∧
          row.accountId = input.accountId : Bool) && row.resolvedAt.isNone)
      fun row => { row with
        resolvedAt := some now, resolvedBy := some principal.userId }
  return revoked

/-- The sign-ins end with a change of the state, and only then. -/
def changeSignIn (principal : SessionPrincipal) (input : AccountUpdate)
    (previous : AccountRow) (now : Timestamp) : Program Log Nat :=
  if previous.status ≠ input.status then revokeSignIn principal input now
  else return 0

def accountPayload (previous : AccountRow) (input : AccountUpdate)
    (revoked : Nat) : Dict where
  members :=
    [("previous_status", .str previous.status), ("status", .str input.status),
      ("display_name", .str (Text.strip input.displayName)),
      ("revision", .int (input.revision + 1)),
      ("revoked_sessions", .int revoked),
      ("collector_credentials_unchanged", .bool true)]

/-- The new name and status of an account. -/
def setAccount (tenantId : String) (input : AccountUpdate) :
    Program Log Nat :=
  updateAccounts (·.hasKey tenantId input.accountId) fun row =>
    { row with
      displayName := Text.strip input.displayName, status := input.status }

/-- The writes of `update_account`. -/
def changeAccount (principal : SessionPrincipal) (input : AccountUpdate)
    (previous : AccountRow) (now : Timestamp) : Program Log Unit := do
  let revoked ← changeSignIn principal input previous now
  let _ ← setAccount principal.tenantId input
  bumpAccount principal.tenantId input.accountId input.revision
  audit services.cases.append (record principal.tenantId
    "endpoint_account.updated" "user" principal.userId "endpoint_account"
    input.accountId (accountPayload previous input revoked) now)

/-- `update_account`. -/
def updateAccount (principal : SessionPrincipal) (input : AccountUpdate)
    (now : Timestamp) : Program Log AccountChange := do
  require (isDisplayName (Text.strip input.displayName) = true ∧
      (input.status = "active" ∨ input.status = "disabled"))
    (.network "enter a valid name and sign-in state")
  requireAdminIn principal now
  let records ← get
  match records.accounts.rows.find?
      (·.hasKey principal.tenantId input.accountId) with
  | none => raise (.network "this person is not in the selected network")
  | some previous => do
      require (accountRevision records principal.tenantId input.accountId =
          input.revision)
        (.networkConflict
          "this account changed; refresh before trying again")
      if previous.displayName = Text.strip input.displayName ∧
          previous.status = input.status then
        return .unchanged
      else do
        changeAccount services principal input previous now
        return if previous.status = input.status then .renamed else .signIn

end Networks

end Directory

end ControlForge
