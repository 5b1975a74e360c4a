import ControlForge.Directory.Networks

/-!
# Endpoint accounts

`EndpointAccountService`: accounts with an initial password, their sign-in
sessions, the replacement of passwords, and the enrollment grants an account
requests for a device.
-/

namespace ControlForge

namespace Directory

open Access

section Accounts

variable {Log : Type} (services : Services Log)

/-! ## Names and passwords -/

def isNameCharacter (character : Char) : Bool :=
  isLowerAlphanumeric character || ['.', '_', '-'].contains character

/-- `[a-z0-9][a-z0-9._-]{0,63}`. -/
def isAlias (text : List Char) : Bool :=
  text.head?.any isLowerAlphanumeric && text.length ≤ 64 &&
    text.all isNameCharacter

/-- `EndpointAccountService.username`. -/
def username (value : String) : Except AccessError String :=
  let normalized := services.lower (Text.strip value)
  let domain := (normalized.toList.dropWhile (· ≠ '@')).drop 1
  if normalized.length ≤ 254 ∧ '@' ∈ normalized.toList ∧
      isAlias (normalized.toList.takeWhile (· ≠ '@')) = true ∧ domain ≠ [] ∧
      domain.all (fun character => isLowerAlphanumeric character ||
        ['.', '-'].contains character) = true then
    .ok normalized
  else .error
    (.network "Enter the full account name your network admin gave you.")

/-- `normalized.split("@")[1]`. -/
def loginDomain (normalized : String) : String :=
  String.ofList ((normalized.toList.dropWhile (· ≠ '@')).drop 1)

def predictablePasswords : List String :=
  ["password123456789", "123456789012345", "qwertyuiop123456",
    "letmeinletmeinletmein"]

/-- `PasswordHasher.hash`. -/
def hashPassword (password : String) (salt : List UInt8) :
    Except DirectoryError String :=
  if password.length < 15 ∨ 128 < password.length then
    .error (.password "Use a password or passphrase of 15-128 characters.")
  else if password.toList.eraseDups.length < 5 ∨
      predictablePasswords.contains
        (services.cases.library.casefold password) then
    .error (.password "Choose a less predictable password or passphrase.")
  else .ok (services.derivePassword password salt)

/-! ## The authority of an administrator -/

/-- The live session `require_admin` joins: the network it was opened in. -/
def adminSession (tables : IdentityTables) (principal : SessionPrincipal) :
    Option String := do
  let session ← tables.sessions.find? fun session =>
    session.sessionId = principal.sessionId ∧
      session.userId = principal.userId ∧ session.revokedAt = none
  let home ← Identity.activeUser tables session.tenantId session.userId
  let member ← Identity.activeUser tables principal.tenantId session.userId
  if home.role = .admin ∧ member.role = .admin ∧
      Identity.activeTenant tables principal.tenantId = true then
    some session.tenantId
  else none

/-- `require_admin`, the read before a transaction. -/
def requireAdmin (principal : SessionPrincipal) (records : Records Log) :
    Except DirectoryError Unit := do
  (requireCapability principal .manage).mapError .access
  match adminSession records.identity principal with
  | none => .error (.access
      (.authorization "network administrator authority is inactive"))
  | some home =>
      if home = principal.tenantId ∨
          isOwner records.identity { principal with tenantId := home } = true
      then .ok ()
      else .error (.access
        (.authorization "platform owner authority is inactive"))

/-! ## New accounts -/

def auditAccount (tenantId action actorId resourceId : String)
    (now : Timestamp) : Program Log Unit :=
  audit services.cases.append (record tenantId action "account_workflow"
    actorId "endpoint_account" resourceId { members := [] } now)

/-- The arguments of `create_account`. -/
structure AccountInput where
  loginAlias : String
  displayName : String

/-- What `create_account` checks of its arguments; the encoded password. -/
def checkAccount (input : AccountInput) (draw : Draw) :
    Except DirectoryError String :=
  if isAlias input.loginAlias.toList = false then
    .error (.access (.network
      "Use a lowercase account name without an @domain suffix."))
  else if isDisplayName (Text.strip input.displayName) = false then
    .error (.access (.network "Enter a display name of 1-120 characters."))
  else hashPassword services draw.token draw.salt

/-- The login domain of an active network. -/
def activeDomain (records : Records Log) (tenantId : String) :
    Option String :=
  if Identity.activeTenant records.identity tenantId then
    (records.namespaces.rows.find? fun row => row.tenantId = tenantId).map
      (·.loginDomain)
  else none

def newAccount (tenantId userName encoded : String) (input : AccountInput)
    (draw : Draw) : AccountRow where
  tenantId
  accountId := draw.id
  username := userName
  displayName := Text.strip input.displayName
  passwordHash := encoded
  passwordVersion := 1
  initialPasswordExpiresAt := some (draw.now + Devices.days 7)
  setupCompletedAt := none
  status := "active"

/-- The transaction of `create_account`. -/
def createAccount (principal : SessionPrincipal) (input : AccountInput)
    (encoded : String) (draw : Draw) : Program Log Unit := do
  requireAdminIn principal draw.now
  let records ← get
  match activeDomain records principal.tenantId with
  | none => raise (.network
      "This network needs a login namespace before adding people.")
  | some domain => do
      let userName ← inAppliance (Transaction.ofExcept
        (username services (input.loginAlias ++ "@" ++ domain)))
      require (records.accounts.rows.countP (fun row =>
          row.tenantId = principal.tenantId) < 1000)
        (.network "This network has reached its 1,000-account safety limit.")
      replaceFailure
        (insertAccount
          (newAccount principal.tenantId userName encoded input draw))
        (.network "That account name is already in use.")
      auditAccount services principal.tenantId "endpoint_account.created"
        principal.userId draw.id draw.now

/-! ## Sessions -/

def inactiveSession : AccessError :=
  .session "endpoint session is inactive"

def invalidCredentials : DirectoryError :=
  .access (.session "account credentials are invalid")

/-- `status='active'` of the account and of its network. -/
def isActiveAccount (records : Records Log) (account : AccountRow) : Bool :=
  (account.status = "active" : Bool) &&
    Identity.activeTenant records.identity account.tenantId

/-- The account `login` reads, while the password verifies. -/
def readLogin (records : Records Log) (userName password : String) :
    Except DirectoryError AccountRow :=
  match username services userName with
  | .error _ => .error invalidCredentials
  | .ok normalized =>
      let found := records.accounts.rows.find? fun account =>
        (account.username = normalized : Bool) &&
          isActiveAccount records account &&
          records.namespaces.rows.any fun row =>
            row.tenantId = account.tenantId ∧
              row.loginDomain = loginDomain normalized
      match found with
      | none => .error invalidCredentials
      | some account =>
          if services.verifyPassword password account.passwordHash then
            .ok account
          else .error invalidCredentials

/-- What an account signs in with. -/
def endpointSession (account : AccountRow) (draw : Draw) :
    EndpointSessionRow where
  tokenHash := services.tokenHash draw.token
  tenantId := account.tenantId
  accountId := account.accountId
  passwordVersion := account.passwordVersion
  expiresAt := draw.now + Devices.minutes 15

/-- `_issue_session`. -/
def issueEndpointSession (account : AccountRow) (draw : Draw) :
    Program Log Unit := do
  let _ ← deleteSessions fun row => row.expiresAt ≤ draw.now
  let _ ← deleteSessions
    (EndpointSessionRow.ofAccount account.tenantId account.accountId)
  let records ← get
  Transaction.require
    (records.endpointSessions.any (fun row =>
      row.tokenHash = services.tokenHash draw.token) = false)
    (notUnique "endpoint_sessions")
  set { records with
    endpointSessions :=
      records.endpointSessions ++ [endpointSession services account draw] }

/-- The account `login` finds again: active, with the version it has read. -/
def currentLogin (records : Records Log) (read : AccountRow) :
    Option AccountRow :=
  records.accounts.rows.find? fun account =>
    account.hasKey read.tenantId read.accountId &&
      isActiveAccount records account &&
      account.passwordVersion = read.passwordVersion

/-- The transaction of `login`: the account it signs in. -/
def login (read : AccountRow) (draw : Draw) : Program Log AccountRow := do
  let records ← get
  match currentLogin records read with
  | none => throw invalidCredentials
  | some current => do
      Transaction.require
        (current.initialPasswordExpiresAt.all (draw.now < ·) = true)
        invalidCredentials
      issueEndpointSession services current draw
      return current

/-- The account behind a session, while both are good. -/
def sessionOf (records : Records Log) (token : String) (now : Timestamp) :
    Option (EndpointSessionRow × AccountRow) := do
  let session ← records.endpointSessions.find? fun row =>
    row.tokenHash = services.tokenHash token ∧ now < row.expiresAt
  let account ← records.accounts.rows.find? fun account =>
    account.hasKey session.tenantId session.accountId &&
      isActiveAccount records account &&
      session.passwordVersion = account.passwordVersion
  return (session, account)

/-- `_session`. -/
def readSession (records : Records Log) (token : String) (now : Timestamp)
    (ready : Bool) : Except AccessError AccountRow :=
  if token.length < 32 ∨ 128 < token.length then .error inactiveSession
  else
    match sessionOf services records token now with
    | none => .error inactiveSession
    | some (_, account) =>
        if ready && account.setupCompletedAt.isNone then
          .error (.authorization
            "change the initial password before connecting this Mac")
        else .ok account

/-- `logout`. -/
def logout (token : String) : Program Log Nat :=
  deleteSessions fun row => row.tokenHash = services.tokenHash token

/-! ## New passwords -/

/-- The account after the replacement of its password. -/
def replacedPassword (account : AccountRow) (encoded : String)
    (completeSetup : Bool) (now : Timestamp) (row : AccountRow) : AccountRow :=
  let completed :=
    account.setupCompletedAt.or (if completeSetup then some now else none)
  { row with
    passwordHash := encoded
    passwordVersion := row.passwordVersion + 1
    setupCompletedAt := completed
    initialPasswordExpiresAt :=
      if completed.isSome then none else some (now + Devices.days 7) }

/-- `_replace_password`. -/
def replacePassword (account : AccountRow) (encoded : String)
    (completeSetup : Bool) (now : Timestamp) : Program Log Unit := do
  let _ ← updateAccounts (·.hasKey account.tenantId account.accountId)
    (replacedPassword account encoded completeSetup now)
  let _ ← deleteSessions
    (EndpointSessionRow.ofAccount account.tenantId account.accountId)
  let _ ← revokeTokens account.tenantId account.accountId
    (fun row => row.usedAt.isNone) now

/-- What `change_password` reads and checks before its transaction: the
encoded password. -/
def checkChange (records : Records Log) (token password : String)
    (draw : Draw) : Except DirectoryError String := do
  let prior ← (readSession services records token draw.now false).mapError
    .access
  if prior.setupCompletedAt.isSome then
    .error (.access
      (.authorization "ask your network admin for a password reset"))
  if services.verifyPassword password prior.passwordHash then
    .error (.access (.network
      "Choose a different password from the one your admin supplied."))
  hashPassword services password draw.salt

/-- The stored account, after a change of it. -/
def storedAccount (account : AccountRow) : Program Log AccountRow := do
  let records ← get
  match records.accounts.rows.find?
      (·.hasKey account.tenantId account.accountId) with
  | some stored => return stored
  | none => raise (.integrity "assert updated is not None")

/-- The transaction of `change_password`: the account it signs in again. -/
def changePassword (token encoded : String) (draw : Draw) :
    Program Log AccountRow := do
  let records ← get
  let account ← inAppliance (Transaction.ofExcept
    (readSession services records token draw.now false))
  replacePassword account encoded true draw.now
  auditAccount services account.tenantId "endpoint_account.password_changed"
    account.accountId account.accountId draw.now
  let updated ← storedAccount account
  issueEndpointSession services updated draw
  return updated

/-- The account `request_reset` reads. -/
def requestedAccount (records : Records Log) (userName : String) :
    Option AccountRow :=
  match username services userName with
  | .error _ => none
  | .ok normalized => records.accounts.rows.find? fun account =>
      (account.username = normalized : Bool) && isActiveAccount records account

/-- `request_reset`; a request that is open already is not repeated. -/
def requestReset (userName : String) (draw : Draw) : Program Log Unit := do
  let records ← get
  match requestedAccount services records userName with
  | none => return ()
  | some account => do
      let changed ← insertResetRequest
        ⟨draw.id, account.tenantId, account.accountId, draw.now, none, none⟩
      if changed ≠ 0 then
        auditAccount services account.tenantId
          "endpoint_account.reset_requested" "unauthenticated"
          account.accountId draw.now

/-- The account of an open reset request. -/
def resetTarget (records : Records Log) (tenantId requestId : String) :
    Option AccountRow := do
  let request ← records.resetRequests.rows.find? fun row =>
    (row.tenantId = tenantId ∧ row.requestId = requestId : Bool) &&
      row.resolvedAt.isNone
  records.accounts.rows.find? fun account =>
    account.hasKey request.tenantId request.accountId &&
      (account.status = "active" : Bool)

/-- The transaction of `reset_password`: the account it was reset for. -/
def resetPassword (principal : SessionPrincipal) (requestId encoded : String)
    (draw : Draw) : Program Log AccountRow := do
  requireAdminIn principal draw.now
  let records ← get
  match resetTarget records principal.tenantId requestId with
  | none =>
      raise (.network "That reset request is unavailable or already resolved.")
  | some account => do
      replacePassword account encoded false draw.now
      let _ ← updateResetRequests (fun row => row.requestId = requestId)
        fun row => { row with
          resolvedAt := some draw.now, resolvedBy := some principal.userId }
      auditAccount services principal.tenantId
        "endpoint_account.password_reset" principal.userId account.accountId
        draw.now
      return account

/-! ## Enrollment grants of an account -/

/-- The enrollment token an account receives. -/
def accountToken (account : AccountRow) (deviceId : String) (draw : Draw) :
    GrantRow where
  tokenId := draw.id
  tenantId := account.tenantId
  tokenHash := services.cases.library.sha256 draw.token
  expectedDeviceId := some deviceId
  createdBy := account.accountId
  createdAt := draw.now
  expiresAt := draw.now + Devices.minutes 5
  usedAt := none
  revokedAt := none
  claimedDeviceId := none

/-- `enrollment_grant`: the account the grant was issued to. -/
def enrollmentGrant (token deviceId : String) (draw : Draw) :
    Program Log AccountRow := do
  require (Devices.isCredentialId deviceId = true)
    (.network "This Mac needs a valid device identity.")
  let records ← get
  let account ← inAppliance (Transaction.ofExcept
    (readSession services records token draw.now true))
  let _ ← revokeTokens account.tenantId account.accountId
    (fun row => row.usedAt.isNone) draw.now
  inAppliance (insertGrant (accountToken services account deviceId draw))
  insertAccountGrant ⟨draw.id, account.tenantId, account.accountId,
    account.passwordVersion⟩
  auditAccount services account.tenantId
    "endpoint_account.enrollment_requested" account.accountId draw.id draw.now
  return account

end Accounts

end Directory

end ControlForge
