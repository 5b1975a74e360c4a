import ControlForge.Access.Tables

/-!
# Sessions, sign-in and invitations

What `HumanIdentityService` reads and writes, one definition for every
transaction and for every read that precedes one.  The passkey verification is
not modelled: its verdict comes with what the caller draws.
-/

namespace ControlForge

namespace Access

/-- The services of an appliance and the functions they call. -/
structure Deployment (Log : Type) where
  expectedOrigin : String
  /-- `_hash` with the session pepper, of a value for a purpose. -/
  hash : (purpose value : String) → String
  /-- `_recovery_hash`. -/
  recoveryHash : String → String
  sessionTtlSeconds : Int
  cases : Cases.Service Log
  responses : Response.Service Log
  rotations : Devices.RotationService
  /-- The verdict of `StandaloneAuditLog.verify` on the log of a tenant. -/
  verifyAudit : Log → String → Bool

/-- What a step draws or is told from outside: the clock, identifiers, secrets,
and the verdicts of what is not modelled. -/
structure Draw where
  now : Timestamp
  id : String
  secondId : String
  token : String
  recoveryCodes : List String
  rotation : Devices.RotationDraw
  nonce : List UInt8
  /-- The passkey response of the request is authentic. -/
  verified : Bool
  /-- The endpoint account behind an enrollment grant, if any, is active. -/
  accountActive : Bool

section Sessions

variable {Log : Type} (deployment : Deployment Log)

/-! ## Session authentication -/

/-- The session identifier of a token, the part before its first dot; the
secret after the dot is not empty. -/
def sessionIdOf (token : String) : Option String :=
  let sessionId := token.toList.takeWhile (· ≠ '.')
  let secret := (token.toList.dropWhile (· ≠ '.')).drop 1
  if sessionId ≠ [] ∧ secret ≠ [] then some (String.ofList sessionId)
  else none

/-- The session joined with its user and its tenant. -/
def joinedSession (appliance : Appliance Log) (sessionId : String) :
    Option (SessionRecord × UserRecord × TenantRecord) := do
  let session ← appliance.sessions.rows.find? fun row =>
    row.sessionId = sessionId
  let user ← appliance.users.rows.find? fun row =>
    row.hasKey session.tenantId session.userId
  let tenant ← appliance.tenants.rows.find? fun row =>
    row.tenantId = session.tenantId
  return (session, user, tenant)

/-- The checks of `authenticate_session` on the joined row. -/
def checkSession (token : String) (now : Timestamp)
    (session : SessionRecord) (user : UserRecord) (tenant : TenantRecord) :
    Except AccessError Unit :=
  if session.secretHash ≠ deployment.hash "session" token then
    .error (.session "session is invalid")
  else if session.revokedAt ≠ none ∨ user.status ≠ "active" ∨
      tenant.status ≠ "active" ∨ session.expiresAt ≤ now then
    .error (.session "session is inactive")
  else .ok ()

/-- `_principal_from_row`. -/
def principalOf (session : SessionRecord) (user : UserRecord) :
    SessionPrincipal where
  tenantId := session.tenantId
  userId := session.userId
  role := user.role
  sessionId := session.sessionId

/-- `authenticate_session`, with the csrf hash of the session. -/
def authenticateSession (token : String) (now : Timestamp)
    (appliance : Appliance Log) :
    Except AccessError (SessionPrincipal × String) := do
  match sessionIdOf token with
  | none => .error (.session "session is invalid")
  | some sessionId =>
      match joinedSession appliance sessionId with
      | none => .error (.session "session is invalid")
      | some (session, user, tenant) => do
          checkSession deployment token now session user tenant
          return (principalOf session user, session.csrfHash)

/-- `verify_csrf`. -/
def verifyCsrf (csrfHash csrfToken : String) : Except AccessError Unit :=
  if csrfToken = "" ∨ csrfHash ≠ deployment.hash "csrf" csrfToken then
    .error (.authorization "csrf verification failed")
  else .ok ()

/-! ## The choice of a network -/

/-- `NetworkService._owner`. -/
def isOwner (tables : IdentityTables) (principal : SessionPrincipal) : Bool :=
  Identity.activeTenantAdmin tables principal.tenantId principal.userId &&
    tables.platformOwners.any fun owner =>
      owner.homeTenantId = principal.tenantId ∧ owner.userId = principal.userId

/-- The membership `scope` looks up for a verified owner. -/
def hasProjection (tables : IdentityTables) (principal : SessionPrincipal)
    (tenantId : String) : Bool :=
  tables.ownerMemberships.any (fun membership =>
      membership.tenantId = tenantId ∧
        membership.homeTenantId = principal.tenantId ∧
        membership.userId = principal.userId) &&
    Identity.activeTenantAdmin tables tenantId principal.userId

/-- The principal `scope` returns for another network. -/
def projected (principal : SessionPrincipal) (tenantId : String) :
    SessionPrincipal :=
  { principal with tenantId, role := .admin }

/-! ## New sessions -/

/-- The row `_issue_session` looks for. -/
def signInAllowed (tables : IdentityTables) (tenantId userId : String) :
    Bool :=
  (Identity.activeUser tables tenantId userId).isSome &&
    Identity.activeTenant tables tenantId &&
    !tables.ownerMemberships.any fun membership =>
      membership.tenantId = tenantId ∧ membership.userId = userId

def sessionRow (tenantId userId : String) (draw : Draw) : SessionRecord where
  sessionId := draw.id
  tenantId
  userId
  revokedAt := none
  expiresAt := draw.now + seconds deployment.sessionTtlSeconds
  secretHash := deployment.hash "session" (draw.id ++ "." ++ draw.token)
  csrfHash := deployment.hash "csrf"
    (deployment.hash "session-csrf-token-v1" draw.id)

/-- `_issue_session`. -/
def issueSession (tenantId userId : String) (draw : Draw) :
    Program Log Unit := do
  let appliance ← get
  Transaction.require (signInAllowed appliance.identity tenantId userId = true)
    (.session "sign-in identity is inactive")
  insertSession (sessionRow deployment tenantId userId draw)

/-- The identity of a challenge `complete_authentication` may use. -/
def loadAuthentication (appliance : Appliance Log) (challengeId : String)
    (now : Timestamp) : Except AccessError (String × String) :=
  match appliance.challenges.find? fun row =>
      row.challengeId = challengeId with
  | none => .error (.challenge "passkey challenge is inactive")
  | some row =>
      if row.purpose ≠ .authentication ∨ row.consumedAt ≠ none ∨
          row.expiresAt ≤ now then
        .error (.challenge "passkey challenge is inactive")
      else
        match row.tenantId, row.userId with
        | some tenantId, some userId =>
            if tenantId = "" ∨ userId = "" then
              .error (.challenge "passkey challenge identity is incomplete")
            else .ok (tenantId, userId)
        | _, _ =>
            .error (.challenge "passkey challenge identity is incomplete")

/-- The transaction of `complete_authentication`. -/
def completeAuthentication (challengeId tenantId userId : String)
    (draw : Draw) : Program Log Unit := do
  Transaction.require (draw.verified = true)
    (.challenge "passkey assertion verification failed")
  let count ← consumeChallenges (fun row =>
    row.challengeId = challengeId && draw.now < row.expiresAt) draw.now
  Transaction.require (count = 1)
    (.challenge "passkey challenge was already consumed or expired")
  issueSession deployment tenantId userId draw

/-- `_normalize_email`. -/
def normalizeEmail (value : String) : Except AccessError String :=
  let normalized := deployment.cases.library.casefold (Text.strip value)
  let characters := normalized.toList
  let localPart := characters.takeWhile (· ≠ '@')
  let domain := (characters.dropWhile (· ≠ '@')).drop 1
  if 320 < characters.length ∨ characters.count '@' ≠ 1 ∨ localPart = [] ∨
      '.' ∉ domain then
    .error (.identity "email identity is invalid")
  else .ok normalized

/-- The unused recovery code of an active user of an active tenant. -/
def recoverable (appliance : Appliance Log) (tenantSlug email codeHash : String) :
    Option RecoveryCodeRow :=
  appliance.recoveryCodes.find? fun code =>
    code.codeHash = codeHash && code.usedAt.isNone &&
      appliance.users.rows.any (fun user =>
        user.hasKey code.tenantId code.userId && user.email = email &&
          user.status = "active") &&
      appliance.tenants.rows.any fun tenant =>
        tenant.tenantId = code.tenantId ∧ tenant.slug = tenantSlug ∧
          tenant.status = "active"

/-- `UPDATE recovery_codes SET used_at=?`. -/
def useRecoveryCode (code : RecoveryCodeRow) (now : Timestamp) :
    Program Log Unit :=
  modify fun appliance => { appliance with
    recoveryCodes := appliance.recoveryCodes.map
      (Table.applyWhere (fun row =>
        (row.tenantId = code.tenantId ∧ row.userId = code.userId ∧
          row.codeHash = code.codeHash : Bool) && row.usedAt.isNone)
        fun row => { row with usedAt := some now }) }

/-- `recover_session`: the identity it signs in. -/
def recoverSession (tenantSlug email recoveryCode : String) (draw : Draw) :
    Program Log (String × String) := do
  let normalizedEmail ← Transaction.ofExcept (normalizeEmail deployment email)
  let appliance ← get
  match recoverable appliance tenantSlug normalizedEmail
      (deployment.recoveryHash recoveryCode) with
  | none => throw (.session "recovery credentials are invalid")
  | some code => do
      useRecoveryCode code draw.now
      issueSession deployment code.tenantId code.userId draw
      return (code.tenantId, code.userId)

/-- `revoke_session`. -/
def revokeSession (principal : SessionPrincipal) (now : Timestamp) :
    Program Log Unit := do
  let _ ← revokeSessions (fun row =>
    row.tenantId = principal.tenantId ∧ row.sessionId = principal.sessionId)
    now

end Sessions

/-! ## Invitations -/

section Invitations

variable {Log : Type} (deployment : Deployment Log)

/-- The audit record of a change of an identity. -/
def record (tenantId action actorType actorId resourceType resourceId : String)
    (payload : Dict) (now : Timestamp) : AuditRecord where
  tenantId
  action
  actorType
  actorId
  resourceType
  resourceId
  payload
  now

def Role.text : Role → String
  | .viewer => "viewer"
  | .analyst => "analyst"
  | .responder => "responder"
  | .admin => "admin"

/-- The arguments of `issue_human_invite`. -/
structure InviteInput where
  email : String
  displayName : String
  role : Role
  expiresInMinutes : Int

def checkInvite (input : InviteInput) : Except AccessError Unit :=
  let name := Text.strip input.displayName
  if name.length = 0 ∨ 120 < name.length then
    .error (.humanInvite "invite display name is invalid")
  else if input.role ≠ .responder ∧ input.role ≠ .admin then
    .error (.humanInvite "invite role must be responder or admin")
  else if input.expiresInMinutes * 60 < 60 ∨ 3600 < input.expiresInMinutes * 60
      then
    .error (.humanInvite "invite ttl must be between 60 and 3600 seconds")
  else .ok ()

def inviteRow (principal : SessionPrincipal) (input : InviteInput)
    (email : String) (draw : Draw) : InviteRow where
  inviteId := draw.id
  tenantId := principal.tenantId
  tokenHash := deployment.hash "human-invite" draw.token
  email
  displayName := Text.strip input.displayName
  role := input.role
  createdBy := principal.userId
  createdAt := draw.now
  expiresAt := draw.now + seconds (input.expiresInMinutes * 60)
  consumedAt := none
  revokedAt := none

/-- The transaction of `issue_human_invite`. -/
def issueHumanInvite (principal : SessionPrincipal) (input : InviteInput)
    (email : String) (draw : Draw) : Program Log Unit := do
  requireCurrentCapability principal .manage draw.now
  let appliance ← get
  Transaction.require
    ((appliance.users.rows.any (fun user =>
        user.tenantId = principal.tenantId ∧ user.email = email) ||
      appliance.invites.rows.any fun invite =>
        (invite.tenantId = principal.tenantId ∧ invite.email = email : Bool) &&
          invite.isOpen && draw.now < invite.expiresAt) = false)
    (.humanInvite "invite identity is already active")
  let row := inviteRow deployment principal input email draw
  insertInvite row
  audit deployment.cases.append (record principal.tenantId
    "human_invite.issued" "user" principal.userId "human_invite" draw.id
    { members := [("expires_at", .str (utcText row.expiresAt)),
        ("role", .str (Role.text input.role))] } draw.now)

/-- An invitation with the challenge that accepts it. -/
structure Invitation where
  challenge : InviteChallengeRow
  invite : InviteRow

/-- The invitation `complete_human_invite` reads before its transaction. -/
def loadInvitation (appliance : Appliance Log) (token challengeId : String)
    (now : Timestamp) : Except AccessError Invitation :=
  let joined : Option Invitation := do
    let challenge ← appliance.inviteChallenges.find? fun row =>
      row.challengeId = challengeId
    let invite ← appliance.invites.rows.find? fun row =>
      row.inviteId = challenge.inviteId ∧
        row.tokenHash = deployment.hash "human-invite" token
    if appliance.tenants.rows.any fun tenant =>
        tenant.tenantId = invite.tenantId ∧ tenant.status = "active" then
      some ⟨challenge, invite⟩
    else none
  match joined with
  | none => .error (.humanInvite "human invite challenge is inactive")
  | some invitation =>
      if invitation.challenge.consumedAt ≠ none ∨
          invitation.invite.isOpen = false ∨
          invitation.challenge.expiresAt ≤ now ∨
          invitation.invite.expiresAt ≤ now then
        .error (.humanInvite "human invite challenge is inactive")
      else .ok invitation

/-- `UPDATE human_invite_challenges SET consumed_at=?` and its row count. -/
def consumeInviteChallenge (challengeId : String) (now : Timestamp) :
    Program Log Nat := fun appliance =>
  let chosen := fun row : InviteChallengeRow =>
    (row.challengeId = challengeId : Bool) && row.consumedAt.isNone &&
      now < row.expiresAt
  .ok (appliance.inviteChallenges.countP chosen,
    { appliance with
      inviteChallenges := appliance.inviteChallenges.map
        (Table.applyWhere chosen fun row =>
          { row with consumedAt := some now }) })

/-- The new user's recovery codes. -/
def insertRecoveryCodes (tenantId userId : String) (codes : List String) :
    Program Log Unit :=
  modify fun appliance => { appliance with
    recoveryCodes := appliance.recoveryCodes ++
      codes.map fun code =>
        ⟨tenantId, userId, deployment.recoveryHash code, none⟩ }

/-- The stored issuer of an invitation, while an active administrator. -/
def requireIssuer (tenantId inviteId : String) : Program Log String := do
  let appliance ← get
  match appliance.invites.rows.find? fun row => row.inviteId = inviteId with
  | none =>
      throw (.humanInvite "human invite issuer is no longer authorized")
  | some issuer =>
      Transaction.require
        (Identity.activeAdmin appliance.identity tenantId issuer.createdBy =
          true)
        (.humanInvite "human invite issuer is no longer authorized")
      return issuer.createdBy

/-- The transaction of `complete_human_invite`: the issuer it relied on. -/
def completeHumanInvite (invitation : Invitation) (draw : Draw) :
    Program Log String := do
  Transaction.require (draw.verified = true)
    (.humanInvite "invite passkey verification failed")
  let invite := invitation.invite
  let userId := invitation.challenge.userId
  let challenges ←
    consumeInviteChallenge invitation.challenge.challengeId draw.now
  let invites ← closeInvites
    (fun row =>
      (row.inviteId = invite.inviteId ∧ row.tokenHash = invite.tokenHash ∧
        draw.now < row.expiresAt : Bool))
    (fun row => { row with consumedAt := some draw.now })
  Transaction.require (challenges = 1 ∧ invites = 1)
    (.humanInvite "human invite was already consumed or expired")
  let issuer ← requireIssuer invite.tenantId invite.inviteId
  insertUser {
    tenantId := invite.tenantId
    userId
    role := invite.role
    status := "active"
    email := invite.email }
  insertRecoveryCodes deployment invite.tenantId userId draw.recoveryCodes
  audit deployment.cases.append (record invite.tenantId
    "human_invite.accepted" "user" userId "human_invite" invite.inviteId
    { members := [("role", .str (Role.text invite.role))] } draw.now)
  issueSession deployment invite.tenantId userId draw
  return issuer

end Invitations

end Access

end ControlForge
