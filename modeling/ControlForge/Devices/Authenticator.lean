import ControlForge.Devices.Tables
import ControlForge.Foundation.Transaction

/-!
# Device-bound request authentication

`authenticate` checks a signed collector request, consumes its nonce, and
returns the device.  The hash, the keyed hash, the time parser and the cipher
that opens stored secrets are parameters.
-/

namespace ControlForge

namespace Devices

structure SignedCollectorRequest where
  method : String
  path : String
  body : List UInt8
  credentialId : String
  timestamp : String
  nonce : String
  signature : String
deriving DecidableEq

structure AuthenticatedDevice where
  tenantId : String
  deviceId : String
  credentialId : String
deriving DecidableEq

inductive CollectorError where
  | authentication (message : String)
  | replay (message : String)
deriving DecidableEq

/-- `DeviceHmacAuthenticator`; its constructor refuses other skews. -/
structure Authenticator where
  /-- The secret of a stored credential, unless the cipher raises. -/
  resolve : (credentialId ciphertext iv : String) → Option (List UInt8)
  /-- The hexadecimal SHA-256 digest. -/
  sha256 : List UInt8 → String
  /-- The hexadecimal HMAC-SHA-256 of a UTF-8 text. -/
  hmac : (secret : List UInt8) → String → String
  /-- The instant an ISO text names: `none` for an invalid text, and
  `some none` for a text without offset. -/
  fromIsoFormat : String → Option (Option Timestamp)
  maxClockSkewSeconds : Int
  admitted : 30 ≤ maxClockSkewSeconds ∧ maxClockSkewSeconds ≤ 900

theorem defaultSkew_admitted : (30 : Int) ≤ 300 ∧ (300 : Int) ≤ 900 := by
  decide

/-! ## The shape of a request -/

def ingestionPath : String := "/v1/ingest/events"

def actionPollPath : String := "/v1/agent/actions"

def rotationPollPath : String := "/v1/agent/credential-rotation"

def rotationAckPath : String := "/v1/agent/credential-rotation/ack"

def isLowerHex (character : Char) : Bool :=
  character.isDigit || ('a' ≤ character && character ≤ 'f')

/-- Drop exactly `count` lower-case hexadecimal digits. -/
def dropHex (count : Nat) (text : List Char) : Option (List Char) :=
  let group := text.take count
  if group.length = count && group.all isLowerHex then some (text.drop count)
  else none

/-- `_ACTION_RESULT_PATH`. -/
def isActionResultPath (path : String) : Bool :=
  (do
    let rest ← "/v1/agent/actions/".toList.isPrefixOf? path.toList
    let rest ← dropHex 8 rest
    let rest ← ['-'].isPrefixOf? rest
    let rest ← dropHex 4 rest
    let rest ← ['-'].isPrefixOf? rest
    let rest ← dropHex 4 rest
    let rest ← ['-'].isPrefixOf? rest
    let rest ← dropHex 4 rest
    let rest ← ['-'].isPrefixOf? rest
    let rest ← dropHex 12 rest
    let rest ← "/result".toList.isPrefixOf? rest
    if rest = [] then some () else none).isSome

/-- `_request_semantics_allowed`. -/
def requestSemanticsAllowed (method path : String) : Bool :=
  (method = "POST" ∧ path = ingestionPath) ||
    (method = "GET" ∧ path = actionPollPath) ||
    (method = "GET" ∧ path = rotationPollPath) ||
    (method = "POST" ∧ path = rotationAckPath) ||
    ((method = "POST" : Bool) && isActionResultPath path)

def matchesClass (allowed : Char → Bool) (least most : Nat) (text : String) :
    Bool :=
  text.toList.all allowed && least ≤ text.length && text.length ≤ most

/-- `_CREDENTIAL_ID`. -/
def isCredentialId : String → Bool :=
  matchesClass (fun character => character.isAlphanum ||
    ['.', '_', ':', '-'].contains character) 1 128

/-- `_NONCE`. -/
def isNonce : String → Bool :=
  matchesClass (fun character => character.isAlphanum ||
    ['_', '-'].contains character) 16 128

/-- `_SIGNATURE`. -/
def isSignature : String → Bool :=
  matchesClass isLowerHex 64 64

namespace Authenticator

variable (authenticator : Authenticator)

/-- `canonical_request`. -/
def canonicalRequest (request : SignedCollectorRequest) : String :=
  "\n".intercalate [request.method, request.path, request.timestamp,
    request.nonce, authenticator.sha256 request.body]

/-- `_parse_timestamp`. -/
def parseTimestamp (value : String) : Except CollectorError Timestamp :=
  match authenticator.fromIsoFormat value with
  | none => .error (.authentication "collector timestamp is invalid")
  | some none =>
      .error (.authentication "collector timestamp must include an offset")
  | some (some time) => .ok time

def raiseUnless (condition : Bool) (message : String) :
    Except CollectorError Unit :=
  if condition then .ok () else .error (.authentication message)

/-- `timedelta(seconds=max_clock_skew_seconds)`. -/
def skew : Int :=
  seconds authenticator.maxClockSkewSeconds

/-- The checks before the database is opened. -/
def checkRequest (request : SignedCollectorRequest) (now : Timestamp) :
    Except CollectorError Unit := do
  raiseUnless (requestSemanticsAllowed request.method request.path)
    "collector request semantics are not allowed"
  raiseUnless (isCredentialId request.credentialId)
    "collector credential identity is invalid"
  raiseUnless (isNonce request.nonce) "collector nonce is invalid"
  raiseUnless (isSignature request.signature) "collector signature is invalid"
  let requestTime ← authenticator.parseTimestamp request.timestamp
  raiseUnless ((now - requestTime).natAbs ≤ authenticator.skew)
    "collector timestamp is outside the allowed window"

/-! ## The credential of a request -/

def activeDevice (database : Database) (credential : CredentialRow) : Bool :=
  database.devices.any fun device =>
    device.tenantId = credential.tenantId ∧
      device.deviceId = credential.deviceId ∧ device.status = "active"

def activeTenant (database : Database) (credential : CredentialRow) : Bool :=
  database.tenants.any fun tenant =>
    tenant.tenantId = credential.tenantId ∧ tenant.status = "active"

/-- The credential is the replacement of a delivered rotation of its device. -/
def awaitsAcknowledgment (database : Database) (credential : CredentialRow) :
    Bool :=
  database.rotations.rows.any fun rotation =>
    rotation.replacementCredentialId = credential.credentialId ∧
      rotation.tenantId = credential.tenantId ∧
      rotation.deviceId = credential.deviceId ∧ rotation.status = .delivered

/-- An inactive credential may only acknowledge its own rotation. -/
def usable (database : Database) (path : String) (now : Timestamp)
    (credential : CredentialRow) : Bool :=
  (credential.revokedAt = none : Bool) &&
    (credential.activatedAt.isSome ||
      ((path = rotationAckPath : Bool) &&
        awaitsAcknowledgment database credential)) &&
    activeDevice database credential && activeTenant database credential &&
    (now < credential.expiresAt : Bool)

/-- The signature of the request is the one its secret makes. -/
def checkSignature (request : SignedCollectorRequest)
    (credential : CredentialRow) : Except CollectorError Unit :=
  match authenticator.resolve credential.credentialId
      credential.secretCiphertext credential.secretIv with
  | none =>
      .error (.authentication "collector credential material is unavailable")
  | some secret => do
      raiseUnless (32 ≤ secret.length)
        "collector credential material is invalid"
      raiseUnless
        (request.signature =
          authenticator.hmac secret (authenticator.canonicalRequest request))
        "collector signature is invalid"

/-- The credential a request is signed with. -/
def authorizedCredential (database : Database)
    (request : SignedCollectorRequest) (now : Timestamp) :
    Except CollectorError CredentialRow :=
  match database.credentials.rows.find?
      fun row => row.credentialId = request.credentialId with
  | none => .error (.authentication "collector credential is not active")
  | some credential => do
      raiseUnless (usable database request.path now credential)
        "collector credential is not active"
      authenticator.checkSignature request credential
      return credential

/-- Every check but the one on the nonce. -/
def authorize (database : Database) (request : SignedCollectorRequest)
    (now : Timestamp) : Except CollectorError CredentialRow := do
  authenticator.checkRequest request now
  authenticator.authorizedCredential database request now

/-! ## The nonce -/

/-- Purge the expired nonces. -/
def purgeNonces (now : Timestamp)
    (nonces : Table NonceRow NonceRow.clash) :
    Table NonceRow NonceRow.clash where
  rows := nonces.rows.filter fun row => now < row.expiresAt
  unique := nonces.unique.filter _

abbrev Program : Type → Type :=
  Transaction Database CollectorError

/-- Purge, and insert the nonce of the request. -/
def consumeNonce (request : SignedCollectorRequest) (now : Timestamp) :
    Program Unit := fun database =>
  match (purgeNonces now database.nonces).insert
      ⟨request.credentialId, request.nonce,
        now + seconds (authenticator.maxClockSkewSeconds * 2)⟩ with
  | some nonces => .ok ((), { database with nonces })
  | none => .error (.replay "collector request nonce was replayed")

/-- Record the use of a row of the table that no constraint depends on. -/
def touchCredential (credentialId : String) (now : Timestamp)
    (credentials : Table CredentialRow CredentialRow.clash) :
    Table CredentialRow CredentialRow.clash where
  rows := credentials.rows.map fun row =>
    if row.credentialId = credentialId then
      { row with lastUsedAt := some now } else row
  unique := by
    apply credentials.unique.map
    intro left right apart
    simp only [CredentialRow.clash] at apart ⊢
    split <;> split <;> exact apart

def touchDevice (credential : CredentialRow) (now : Timestamp)
    (devices : List DeviceRow) : List DeviceRow :=
  devices.map fun row =>
    if row.tenantId = credential.tenantId ∧
        row.deviceId = credential.deviceId ∧ row.status = "active" then
      { row with lastSeenAt := some now } else row

/-- The database after a use of the credential and of the device. -/
def recordUse (credential : CredentialRow) (now : Timestamp)
    (database : Database) : Database :=
  { database with
    credentials :=
      touchCredential credential.credentialId now database.credentials
    devices := touchDevice credential now database.devices }

def authenticateTransaction (request : SignedCollectorRequest)
    (now : Timestamp) : Program AuthenticatedDevice := do
  let database ← get
  let credential ← Transaction.ofExcept
    (authenticator.authorizedCredential database request now)
  authenticator.consumeNonce request now
  modify (recordUse credential now)
  return ⟨credential.tenantId, credential.deviceId, credential.credentialId⟩

def authenticate (request : SignedCollectorRequest) (now : Timestamp)
    (database : Database) :
    Except CollectorError AuthenticatedDevice × Database :=
  match authenticator.checkRequest request now with
  | .error failure => (.error failure, database)
  | .ok () => (authenticator.authenticateTransaction request now).commit database

end Authenticator

end Devices

end ControlForge
