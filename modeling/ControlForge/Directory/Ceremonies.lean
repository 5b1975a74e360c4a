import ControlForge.Directory.Tables

/-!
# Passkey ceremonies, invitations and recovery

`HumanIdentityService`.  A ceremony reads its challenge, lets the passkey
adapter verify the response, and consumes the challenge in the transaction that
uses it.  Every read and every transaction is a definition of its own here.
-/

namespace ControlForge

namespace Directory

open Access

/-! ## The services -/

structure RegistrationVerification where
  credentialId : String
  publicKey : List UInt8
  signCount : Nat

structure AuthenticationVerification where
  credentialId : String
  newSignCount : Nat

/-- `PasskeyAdapter`; a method that raises returns nothing. -/
structure PasskeyAdapter where
  verifyRegistration : (response : Dict) → (challenge : List UInt8) →
    Option RegistrationVerification
  responseCredentialId : (response : Dict) → Option String
  verifyAuthentication : (response : Dict) →
    (challenge publicKey : List UInt8) → (currentSignCount : Nat) →
    Option AuthenticationVerification

/-- The services of an appliance with the adapters they call. -/
structure Services (Log : Type) extends Deployment Log where
  passkeys : PasskeyAdapter
  challengeTtlSeconds : Int
  /-- `CONTROLFORGE_NETWORK_BASE_DOMAIN`. -/
  baseDomain : Option String
  /-- `str.lower`. -/
  lower : String → String
  /-- The encoded form of a password with a salt. -/
  derivePassword : (password : String) → (salt : List UInt8) → String
  /-- `PasswordHasher.verify`. -/
  verifyPassword : (password encoded : String) → Bool
  /-- `EndpointAccountService._token_hash`. -/
  tokenHash : String → String
  /-- The operator who runs the owner setup. -/
  operatorId : String
  challengeTtl : 60 ≤ challengeTtlSeconds ∧ challengeTtlSeconds ≤ 900

/-- What a step draws: challenges and salts beside the rest. -/
structure Draw extends Access.Draw where
  challenge : List UInt8
  salt : List UInt8
  /-- The owner setup trusts its directory and database, and the appliance is
  stopped. -/
  operatorReady : Bool

/-! ## Names -/

def isLowerAlphanumeric (character : Char) : Bool :=
  character.isDigit || character.isLower

/-- `[a-z0-9]+(?:-[a-z0-9]+)*`. -/
def isSlug (text : String) : Bool :=
  (text.toList.splitOn '-').all fun part =>
    part ≠ [] && part.all isLowerAlphanumeric

section Ceremonies

variable {Log : Type} (services : Services Log)

/-! ## Challenges -/

/-- `_hash` of a bootstrap token. -/
def bootstrapHash (token : String) : String :=
  services.hash "bootstrap" token

/-- `_hash` of the token of an invitation. -/
def inviteHash (token : String) : String :=
  services.hash "human-invite" token

/-- `_create_challenge`. -/
def createChallenge (purpose : ChallengePurpose)
    (tenantId userId : Option String) (context : Option BootstrapContext)
    (draw : Draw) : Program Log Unit :=
  insertChallenge {
    challengeId := draw.id
    tenantId
    userId
    purpose
    challenge := draw.challenge
    context
    expiresAt := draw.now + seconds services.challengeTtlSeconds
    consumedAt := none }

def inactiveChallenge : DirectoryError :=
  .access (.challenge "passkey challenge is inactive")

/-- `_load_challenge`. -/
def loadChallenge (records : Records Log) (challengeId : String)
    (purpose : ChallengePurpose) (now : Timestamp) :
    Except DirectoryError ChallengeRow :=
  match records.challenges.find? fun row => row.challengeId = challengeId with
  | none => .error inactiveChallenge
  | some row =>
      if row.purpose ≠ purpose ∨ row.consumedAt ≠ none ∨ row.expiresAt ≤ now
      then .error inactiveChallenge
      else .ok row

/-- `_consume_challenge`. -/
def consumeChallenge (challengeId : String) (now : Timestamp) :
    Program Log Unit := do
  let count ← inAppliance (consumeChallenges (fun row =>
    row.challengeId = challengeId && now < row.expiresAt) now)
  require (count = 1)
    (.challenge "passkey challenge was already consumed or expired")

def issueSession (tenantId userId : String) (draw : Draw) : Program Log Unit :=
  inAppliance (Access.issueSession services.toDeployment tenantId userId
    draw.toDraw)

def passkeyRow (tenantId userId label : String)
    (verified : RegistrationVerification) (now : Timestamp) : PasskeyRow where
  tenantId
  userId
  credentialId := verified.credentialId
  publicKey := verified.publicKey
  signCount := verified.signCount
  label
  createdAt := now
  lastUsedAt := none
  revokedAt := none

def insertRecoveryCodes (tenantId userId : String) (codes : List String) :
    Program Log Unit :=
  codes.forM fun code =>
    insertRecoveryCode ⟨tenantId, userId, services.recoveryHash code, none⟩

/-! ## The bootstrap -/

/-- `bootstrap_status`. -/
def configured (records : Records Log) : Bool :=
  records.users.rows.any fun user =>
    user.role = .admin ∧ user.status = "active"

/-- The insertion of `issue_bootstrap_token`. -/
def issueBootstrapToken (ttlSeconds : Int) (draw : Draw) : Program Log Unit :=
  insertBootstrapToken {
    tokenHash := bootstrapHash services draw.token
    expiresAt := draw.now + seconds ttlSeconds
    usedAt := none
    revokedAt := none }

/-- `revoke_pending_bootstrap_tokens`. -/
def revokeBootstrapTokens (now : Timestamp) : Program Log Nat :=
  updateBootstrapTokens (fun row => row.usedAt.isNone && row.revokedAt.isNone)
    fun row => { row with revokedAt := some now }

/-- The token row `_require_bootstrap_token` reads. -/
def openBootstrapToken (records : Records Log) (tokenHash : String)
    (now : Timestamp) : Bool :=
  records.bootstrapTokens.rows.any fun row =>
    (row.tokenHash = tokenHash : Bool) && row.isOpen now

/-- The arguments of `begin_bootstrap`. -/
structure BootstrapInput where
  token : String
  tenantSlug : String
  tenantDisplayName : String
  email : String
  displayName : String

/-- What `begin_bootstrap` checks, and the context it makes. -/
def bootstrapContext (input : BootstrapInput) (userId : String) :
    Except DirectoryError BootstrapContext := do
  let email ←
    (normalizeEmail services.toDeployment input.email).mapError .access
  if isSlug input.tenantSlug = false ∨ 48 < input.tenantSlug.length then
    .error (.bootstrap "tenant slug is invalid")
  if Text.strip input.tenantDisplayName = "" ∨
      120 < input.tenantDisplayName.length then
    .error (.bootstrap "tenant display name is invalid")
  if Text.strip input.displayName = "" ∨ 120 < input.displayName.length then
    .error (.bootstrap "administrator display name is invalid")
  return {
    tokenHash := bootstrapHash services input.token
    tenantSlug := input.tenantSlug
    tenantDisplayName := Text.strip input.tenantDisplayName
    email
    displayName := Text.strip input.displayName
    userId }

/-- The context of a loaded challenge, while the token matches it. -/
def matchedContext (challenge : ChallengeRow) (token : String) :
    Except DirectoryError BootstrapContext :=
  match challenge.context with
  | none =>
      .error (.access (.challenge "passkey challenge context is invalid"))
  | some context =>
      if context.tokenHash = bootstrapHash services token then .ok context
      else .error (.bootstrap "bootstrap token does not match the challenge")

/-- The administrator of a new appliance, its first user. -/
def firstUser (tenantId : String) (context : BootstrapContext) :
    UserRecord where
  tenantId
  userId := context.userId
  role := .admin
  status := "active"
  email := context.email

/-- The bootstrap token is used, while it is active and nobody administers the
appliance. -/
def useBootstrapToken (context : BootstrapContext) (now : Timestamp) :
    Program Log Unit := do
  let count ← updateBootstrapTokens
    (fun row => row.tokenHash = context.tokenHash && row.isOpen now)
    fun row => { row with usedAt := some now }
  let records ← get
  Transaction.require (count = 1 ∧ configured records = false)
    (.bootstrap "bootstrap token is no longer active")

/-- The first tenant with its administrator, the platform owner. -/
def installAdministrator (context : BootstrapContext)
    (verified : RegistrationVerification) (draw : Draw) :
    Program Log Unit := do
  insertTenant ⟨⟨draw.secondId, "active"⟩, context.tenantSlug,
    context.tenantDisplayName⟩
  inAppliance (insertUser (firstUser draw.secondId context))
  insertPasskey (passkeyRow draw.secondId context.userId "Initial passkey"
    verified draw.now)
  insertOwner ⟨draw.secondId, context.userId⟩
  insertRecoveryCodes services draw.secondId context.userId draw.recoveryCodes

/-- The transaction of `complete_bootstrap`. -/
def completeBootstrap (challengeId : String) (context : BootstrapContext)
    (verified : RegistrationVerification) (draw : Draw) :
    Program Log Unit := do
  consumeChallenge challengeId draw.now
  useBootstrapToken context draw.now
  installAdministrator services context verified draw
  issueSession services draw.secondId context.userId draw

/-! ## Sign-in with a passkey -/

/-- The identity `begin_authentication` reads. -/
def signInIdentity (records : Records Log) (tenantSlug email : String) :
    Option UserRecord :=
  records.users.rows.find? fun user =>
    (user.email = email ∧ user.status = "active" : Bool) &&
      records.tenants.rows.any fun tenant =>
        tenant.tenantId = user.tenantId ∧ tenant.slug = tenantSlug ∧
          tenant.status = "active"

def PasskeyRow.usableBy (tenantId userId : String) (row : PasskeyRow) : Bool :=
  (row.tenantId = tenantId ∧ row.userId = userId : Bool) &&
    row.revokedAt.isNone

/-- The user has a passkey that is not revoked. -/
def hasPasskey (records : Records Log) (tenantId userId : String) : Bool :=
  records.passkeys.rows.any (PasskeyRow.usableBy tenantId userId)

/-- The credential `complete_authentication` reads. -/
def readPasskey (records : Records Log)
    (tenantId userId credentialId : String) : Option PasskeyRow :=
  records.passkeys.rows.find? fun row =>
    row.usableBy tenantId userId && row.credentialId = credentialId

/-- The identity of a challenge, `_required_row_text` of both columns. -/
def challengeIdentity (challenge : ChallengeRow) :
    Except DirectoryError (String × String) :=
  match challenge.tenantId, challenge.userId with
  | some tenantId, some userId =>
      if tenantId = "" ∨ userId = "" then
        .error (.access (.challenge "passkey challenge identity is incomplete"))
      else .ok (tenantId, userId)
  | _, _ =>
      .error (.access (.challenge "passkey challenge identity is incomplete"))

/-- The verdict on an assertion, with the counter the credential was read
with. -/
def verifyAssertion (response : Dict) (challenge : ChallengeRow)
    (credential : PasskeyRow) :
    Except DirectoryError AuthenticationVerification :=
  match services.passkeys.verifyAuthentication response challenge.challenge
      credential.publicKey credential.signCount with
  | none =>
      .error (.access (.challenge "passkey assertion verification failed"))
  | some verified =>
      if verified.credentialId = credential.credentialId then .ok verified
      else .error
        (.access (.challenge "passkey assertion credential does not match"))

def PasskeyRow.isLive (tenantId credentialId : String) (row : PasskeyRow) :
    Bool :=
  row.hasKey tenantId credentialId && row.revokedAt.isNone

def PasskeyRow.counted (newSignCount : Nat) (now : Timestamp)
    (row : PasskeyRow) : PasskeyRow :=
  { row with signCount := newSignCount, lastUsedAt := some now }

/-- `UPDATE passkey_credentials SET sign_count=?`. -/
def recordAssertion (tenantId credentialId : String) (newSignCount : Nat)
    (now : Timestamp) : Program Log Nat :=
  updatePasskeys (PasskeyRow.isLive tenantId credentialId)
    (PasskeyRow.counted newSignCount now)

/-- The transaction of `complete_authentication`. -/
def completeAuthentication (challengeId tenantId userId credentialId : String)
    (newSignCount : Nat) (draw : Draw) : Program Log Unit := do
  consumeChallenge challengeId draw.now
  let _ ← recordAssertion tenantId credentialId newSignCount draw.now
  issueSession services tenantId userId draw

/-! ## Further passkeys -/

/-- What `complete_passkey_registration` checks before it verifies. -/
def checkRegistration (principal : SessionPrincipal)
    (challenge : ChallengeRow) (label : String) :
    Except DirectoryError Unit :=
  if challenge.tenantId ≠ some principal.tenantId ∨
      challenge.userId ≠ some principal.userId then
    .error (.access
      (.authorization "passkey challenge belongs to another principal"))
  else if Text.strip label = "" ∨ 120 < label.length then
    .error (.access (.challenge "passkey label is invalid"))
  else .ok ()

/-- The transaction of `complete_passkey_registration`. -/
def completeRegistration (principal : SessionPrincipal)
    (challengeId label : String) (verified : RegistrationVerification)
    (draw : Draw) : Program Log Unit := do
  consumeChallenge challengeId draw.now
  insertPasskey (passkeyRow principal.tenantId principal.userId
    (Text.strip label) verified draw.now)

/-! ## Invitations -/

/-- `issue_human_invite`. -/
def issueInvite (principal : SessionPrincipal) (input : InviteInput)
    (draw : Draw) : Program Log Unit := inAppliance do
  Transaction.ofExcept (requireCapability principal .manage)
  let email ← Transaction.ofExcept
    (normalizeEmail services.toDeployment input.email)
  Transaction.ofExcept (checkInvite input)
  issueHumanInvite services.toDeployment principal input email draw.toDraw

/-- The invitation `begin_human_invite` reads. -/
def openInvite (records : Records Log) (token : String) (now : Timestamp) :
    Option InviteRow :=
  records.invites.rows.find? fun invite =>
    (invite.tokenHash = inviteHash services token : Bool) && invite.isOpen &&
      (now < invite.expiresAt : Bool) &&
      Identity.activeTenant records.identity invite.tenantId

/-- The insertion of `begin_human_invite`. -/
def beginInvite (invite : InviteRow) (draw : Draw) : Program Log Unit :=
  insertInviteChallenge {
    challengeId := draw.id
    inviteId := invite.inviteId
    userId := draw.secondId
    challenge := draw.challenge
    expiresAt :=
      min invite.expiresAt (draw.now + seconds services.challengeTtlSeconds)
    consumedAt := none }

def invitedUser (invitation : Invitation) : UserRecord where
  tenantId := invitation.invite.tenantId
  userId := invitation.challenge.userId
  role := invitation.invite.role
  status := "active"
  email := invitation.invite.email

/-- `UPDATE human_invites SET consumed_at=?` and its row count. -/
def consumeInvite (invite : InviteRow) (now : Timestamp) : Program Log Nat :=
  inAppliance (closeInvites
    (fun row =>
      (row.inviteId = invite.inviteId ∧ row.tokenHash = invite.tokenHash ∧
        now < row.expiresAt : Bool))
    fun row => { row with consumedAt := some now })

theorem acceptance_wellFormed (invitation : Invitation) :
    (Json.obj [("role", .str (Role.text invitation.invite.role))]).WellFormed := by
  simp [Json.WellFormed, Json.WellFormedMembers]

def acceptance (invitation : Invitation) (now : Timestamp) : AuditRecord :=
  record invitation.invite.tenantId "human_invite.accepted" "user"
    invitation.challenge.userId "human_invite" invitation.invite.inviteId
    { members := [("role", .str (Role.text invitation.invite.role))]
      wellFormed := acceptance_wellFormed invitation } now

/-- The invitation is used with its challenge, while both are open. -/
def useInvitation (invitation : Invitation) (now : Timestamp) :
    Program Log Unit := do
  let challenges ← inAppliance
    (consumeInviteChallenge invitation.challenge.challengeId now)
  let invites ← consumeInvite invitation.invite now
  require (challenges = 1 ∧ invites = 1)
    (.humanInvite "human invite was already consumed or expired")

/-- The new member, while the issuer of the invitation may invite. -/
def installMember (invitation : Invitation)
    (verified : RegistrationVerification) (draw : Draw) :
    Program Log Unit := do
  let tenantId := invitation.invite.tenantId
  let userId := invitation.challenge.userId
  let _ ← inAppliance (requireIssuer tenantId invitation.invite.inviteId)
  inAppliance (insertUser (invitedUser invitation))
  insertPasskey (passkeyRow tenantId userId "Invited passkey" verified draw.now)
  insertRecoveryCodes services tenantId userId draw.recoveryCodes
  audit services.cases.append (acceptance invitation draw.now)

/-- The transaction of `complete_human_invite`. -/
def completeInvite (invitation : Invitation)
    (verified : RegistrationVerification) (draw : Draw) :
    Program Log Unit := do
  useInvitation invitation draw.now
  installMember services invitation verified draw
  issueSession services invitation.invite.tenantId invitation.challenge.userId
    draw

/-- `revoke_invite`. -/
def revokeInvite (principal : SessionPrincipal) (inviteId : String)
    (now : Timestamp) : Program Log Unit := do
  inAppliance (requireCurrentCapability principal .manage now)
  let count ← inAppliance (revokeInvites (fun row =>
    row.tenantId = principal.tenantId ∧ row.inviteId = inviteId) now)
  require (count = 1)
    (.networkConflict
      "this invitation was already used or revoked; refresh the team list")
  audit services.cases.append (record principal.tenantId
    "human_invite.revoked" "user" principal.userId "human_invite" inviteId
    { members := [] } now)

end Ceremonies

end Directory

end ControlForge
