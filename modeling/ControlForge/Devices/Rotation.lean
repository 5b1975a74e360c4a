import ControlForge.Devices.Authenticator

/-!
# Credential rotation on the server

`initiate` stages an inactive replacement, `poll` hands it to its predecessor
alone, `acknowledge` activates it and retires the predecessor, and `cancel`
withdraws a rotation that was not delivered.  `revokeCredential` is the
administrator's independent way to retire a credential.
-/

namespace ControlForge

namespace Devices

/-! ## Materials and envelopes -/

inductive RotationError where
  | value (message : String)
  | enrollment (message : String)
  | collector (failure : CollectorError)
  | envelope (message : String)
  | validation (model : String)
  | integrity (message : String)
deriving DecidableEq

/-- The pattern `^[0-9a-f-]{36}$`. -/
def isUuidText : String → Bool :=
  matchesClass (fun character => isLowerHex character || character = '-') 36 36

/-- The pattern `^[A-Za-z0-9_-]+$` with a length range. -/
def isUrlSafeText (least most : Nat) : String → Bool :=
  matchesClass (fun character => character.isAlphanum ||
    ['_', '-'].contains character) least most

/-- `CredentialRotationMaterial`.  Secrets are ASCII texts, kept as bytes. -/
structure CredentialRotationMaterial where
  rotationId : String
  deviceId : String
  predecessorCredentialId : String
  replacementCredentialId : String
  replacementSecret : List UInt8
  replacementExpiresAt : Timestamp
deriving DecidableEq

/-- The fields and the validators of the schema. -/
def CredentialRotationMaterial.valid (material : CredentialRotationMaterial) :
    Bool :=
  isUuidText material.rotationId && isCredentialId material.deviceId &&
    isUuidText material.predecessorCredentialId &&
    isUuidText material.replacementCredentialId &&
    32 ≤ material.replacementSecret.length &&
    material.replacementSecret.length ≤ 256 &&
    material.predecessorCredentialId ≠ material.replacementCredentialId

/-- `CredentialRotationEnvelope`; its schema version and algorithm are fixed. -/
structure CredentialRotationEnvelope where
  rotationId : String
  deviceId : String
  predecessorCredentialId : String
  deliveryExpiresAt : Timestamp
  ciphertext : String
  iv : String
deriving DecidableEq

def CredentialRotationEnvelope.valid (envelope : CredentialRotationEnvelope) :
    Bool :=
  isUuidText envelope.rotationId && isCredentialId envelope.deviceId &&
    isUuidText envelope.predecessorCredentialId &&
    isUrlSafeText 64 2048 envelope.ciphertext &&
    isUrlSafeText 16 32 envelope.iv

def raiseValueUnless (condition : Bool) (failure : RotationError) :
    Except RotationError Unit :=
  if condition then .ok () else .error failure

def CredentialRotationMaterial.validate (material : CredentialRotationMaterial) :
    Except RotationError CredentialRotationMaterial := do
  raiseValueUnless material.valid (.validation "CredentialRotationMaterial")
  return material

def CredentialRotationEnvelope.validate (envelope : CredentialRotationEnvelope) :
    Except RotationError CredentialRotationEnvelope := do
  raiseValueUnless envelope.valid (.validation "CredentialRotationEnvelope")
  return envelope

/-- What `_key_and_aad` derives the key and the associated data from, next to
the secret of the predecessor. -/
structure EnvelopeBinding where
  rotationId : String
  deviceId : String
  predecessorCredentialId : String
deriving DecidableEq

def CredentialRotationMaterial.binding
    (material : CredentialRotationMaterial) : EnvelopeBinding :=
  ⟨material.rotationId, material.deviceId, material.predecessorCredentialId⟩

def CredentialRotationEnvelope.binding
    (envelope : CredentialRotationEnvelope) : EnvelopeBinding :=
  ⟨envelope.rotationId, envelope.deviceId, envelope.predecessorCredentialId⟩

/-- The rotation service with the cryptography it and the endpoint call. -/
structure RotationService where
  authenticator : Authenticator
  /-- The stored form of a secret, ciphertext and nonce. -/
  encrypt : (credentialId : String) → (secret : List UInt8) →
    (draw : List UInt8) → String × String
  /-- AES-256-GCM of the material's JSON, ciphertext and nonce as texts. -/
  wrap : EnvelopeBinding → (secret : List UInt8) → (draw : List UInt8) →
    CredentialRotationMaterial → String × String
  /-- The validated material of an authentic ciphertext. -/
  unwrap : EnvelopeBinding → (secret : List UInt8) →
    (ciphertext iv : String) → Option CredentialRotationMaterial

/-- What decrypts was encrypted, and the texts have the shape of a schema. -/
structure RotationService.Lawful (service : RotationService) : Prop where
  resolve_encrypt : ∀ credentialId secret draw,
    service.authenticator.resolve credentialId
      (service.encrypt credentialId secret draw).1
      (service.encrypt credentialId secret draw).2 = some secret
  unwrap_wrap : ∀ binding secret draw material, material.valid = true →
    service.unwrap binding secret (service.wrap binding secret draw material).1
      (service.wrap binding secret draw material).2 = some material
  wrap_shape : ∀ binding secret draw material, material.valid = true →
    material.replacementSecret.length ≤ 64 →
    isUrlSafeText 64 2048 (service.wrap binding secret draw material).1 =
        true ∧
      isUrlSafeText 16 32 (service.wrap binding secret draw material).2 = true

namespace RotationService

variable (service : RotationService)

/-- `encrypt_rotation_material`. -/
def encryptRotationMaterial (material : CredentialRotationMaterial)
    (predecessorSecret draw : List UInt8) (deliveryExpiresAt : Timestamp) :
    Except RotationError CredentialRotationEnvelope := do
  raiseValueUnless (32 ≤ predecessorSecret.length)
    (.envelope "predecessor secret is invalid")
  let (ciphertext, iv) :=
    service.wrap material.binding predecessorSecret draw material
  CredentialRotationEnvelope.validate
    ⟨material.rotationId, material.deviceId, material.predecessorCredentialId,
      deliveryExpiresAt, ciphertext, iv⟩

/-- `decrypt_rotation_envelope`. -/
def decryptRotationEnvelope (envelope : CredentialRotationEnvelope)
    (predecessorSecret : List UInt8)
    (expectedDeviceId expectedCredentialId : String) (now : Timestamp) :
    Except RotationError CredentialRotationMaterial := do
  raiseValueUnless (now < envelope.deliveryExpiresAt)
    (.envelope "credential rotation delivery expired")
  raiseValueUnless
    (envelope.deviceId = expectedDeviceId &&
      envelope.predecessorCredentialId = expectedCredentialId)
    (.envelope "credential rotation envelope binding failed")
  match service.unwrap envelope.binding predecessorSecret envelope.ciphertext
      envelope.iv with
  | none =>
      .error (.envelope "credential rotation envelope authentication failed")
  | some material => do
      raiseValueUnless
        (material.rotationId = envelope.rotationId &&
          material.deviceId = expectedDeviceId &&
          material.predecessorCredentialId = expectedCredentialId &&
          now < material.replacementExpiresAt)
        (.envelope "credential rotation material binding failed")
      return material

end RotationService

/-! ## Statements -/

abbrev RotationProgram : Type → Type :=
  Transaction Database RotationError

/-- The columns `device_rotation_identity_immutable` protects. -/
def RotationRow.sameIdentity (new old : RotationRow) : Bool :=
  new.rotationId = old.rotationId ∧ new.tenantId = old.tenantId ∧
    new.deviceId = old.deviceId ∧
    new.predecessorCredentialId = old.predecessorCredentialId ∧
    new.replacementCredentialId = old.replacementCredentialId ∧
    new.createdBy = old.createdBy ∧ new.createdAt = old.createdAt ∧
    new.deliveryExpiresAt = old.deliveryExpiresAt

/-- The status changes `device_rotation_transition_guard` lets through. -/
def RotationStatus.mayBecome : RotationStatus → RotationStatus → Bool
  | .pending, .delivered | .pending, .cancelled => true
  | .delivered, .acknowledged | .delivered, .cancelled => true
  | old, new => old = new

/-- Every trigger and check an update of a rotation meets. -/
def rotationGuard (old new : RotationRow) : Option RotationError :=
  (firstRaised [
    (!new.sameIdentity old, "device credential rotation identity is immutable"),
    (!old.status.mayBecome new.status,
      "invalid device credential rotation transition"),
    (10 < new.deliveryCount,
      "CHECK constraint failed: delivery_count BETWEEN 0 AND 10"),
    (new.envelope.isSome != (new.status = .delivered : Bool),
      "CHECK constraint failed: status and envelope")]).map .integrity

/-- An `UPDATE` of `device_credential_rotations` and its row count. -/
def updateRotations (selected : RotationRow → Bool)
    (change : RotationRow → RotationRow) : RotationProgram Nat :=
  fun database =>
    match database.rotations.updateWhere selected change rotationGuard
        (.integrity "UNIQUE constraint failed: device_credential_rotations")
        with
    | .ok (count, rotations) => .ok (count, { database with rotations })
    | .error failure => .error failure

/-- An `UPDATE` of `device_credentials`, which has no trigger. -/
def updateCredentials (selected : CredentialRow → Bool)
    (change : CredentialRow → CredentialRow) : RotationProgram Nat :=
  fun database =>
    match database.credentials.updateWhere selected change (fun _ _ => none)
        (.integrity "UNIQUE constraint failed: device_credentials") with
    | .ok (count, credentials) => .ok (count, { database with credentials })
    | .error failure => .error failure

def insertCredential (row : CredentialRow) : RotationProgram Unit :=
  fun database =>
    match database.credentials.insert row with
    | some credentials => .ok ((), { database with credentials })
    | none =>
        .error (.integrity "UNIQUE constraint failed: device_credentials")

def insertRotation (row : RotationRow) : RotationProgram Unit :=
  fun database =>
    match database.rotations.insert row with
    | some rotations => .ok ((), { database with rotations })
    | none => .error
        (.integrity "UNIQUE constraint failed: device_credential_rotations")

/-! ## Selections -/

def CredentialRow.ofDevice (tenantId deviceId : String)
    (row : CredentialRow) : Bool :=
  row.tenantId = tenantId ∧ row.deviceId = deviceId

def RotationRow.ofDevice (tenantId deviceId : String) (row : RotationRow) :
    Bool :=
  row.tenantId = tenantId ∧ row.deviceId = deviceId

/-- `activated_at IS NOT NULL AND revoked_at IS NULL`. -/
def CredentialRow.inForce (row : CredentialRow) : Bool :=
  row.activatedAt.isSome && row.revokedAt.isNone

/-- `activated_at IS NULL AND revoked_at IS NULL`. -/
def CredentialRow.staged (row : CredentialRow) : Bool :=
  row.activatedAt.isNone && row.revokedAt.isNone

def DeviceRow.isActive (tenantId deviceId : String) (row : DeviceRow) : Bool :=
  row.tenantId = tenantId ∧ row.deviceId = deviceId ∧ row.status = "active"

structure CredentialRotationState where
  rotationId : String
  deviceId : String
  predecessorCredentialId : String
  replacementCredentialId : String
  status : RotationStatus
  createdAt : Timestamp
  deliveryExpiresAt : Timestamp
  changed : Bool
deriving DecidableEq

/-- `_state`. -/
def rotationState (row : RotationRow) (changed : Bool) :
    CredentialRotationState :=
  ⟨row.rotationId, row.deviceId, row.predecessorCredentialId,
    row.replacementCredentialId, row.status, row.createdAt,
    row.deliveryExpiresAt, changed⟩

/-! ## Initiation -/

/-- What `uuid4`, `token_urlsafe` and `token_bytes` return for one rotation. -/
structure RotationDraw where
  rotationId : String
  replacementId : String
  replacementSecret : List UInt8
  iv : List UInt8
  rotationUuid : isUuidText rotationId = true
  replacementUuid : isUuidText replacementId = true
  secretLength : replacementSecret.length = 43

def minutes (count : Int) : Int :=
  seconds (count * 60)

def hours (count : Int) : Int :=
  minutes (count * 60)

def days (count : Int) : Int :=
  hours (count * 24)

namespace RotationService

variable (service : RotationService)

/-- The arguments of `initiate`. -/
structure Initiation where
  tenantId : String
  deviceId : String
  createdBy : String
  credentialLifetime : Int
  deliveryWindow : Int

/-- `_require_identifier`. -/
def requireIdentifier (value label : String) : Except RotationError Unit :=
  raiseValueUnless (isCredentialId value) (.value (label ++ " is invalid"))

def checkInitiation (input : Initiation) : Except RotationError Unit := do
  requireIdentifier input.tenantId "tenant identity"
  requireIdentifier input.deviceId "device identity"
  requireIdentifier input.createdBy "rotation creator"
  raiseValueUnless
    (days 1 ≤ input.credentialLifetime && input.credentialLifetime ≤ days 365)
    (.value "device credential lifetime must be between 1 and 365 days")
  raiseValueUnless
    (minutes 5 ≤ input.deliveryWindow && input.deliveryWindow ≤ hours 24)
    (.value "credential delivery window must be between 5 minutes and 24 hours")

/-- The credentials `initiate` counts.  Their order matters for no more than
one of them. -/
def activeCredentials (database : Database) (tenantId deviceId : String)
    (now : Timestamp) : List CredentialRow :=
  database.credentials.rows.filter fun row =>
    row.ofDevice tenantId deviceId && row.inForce && now < row.expiresAt

/-- The only active credential of the device. -/
def solePredecessor (active : List CredentialRow) :
    RotationProgram CredentialRow :=
  match active with
  | [row] => pure row
  | _ => throw (.enrollment
      "device must have exactly one active credential before rotation")

/-- The row of the staged replacement. -/
def replacementRow (input : Initiation) (draw : RotationDraw)
    (now : Timestamp) : CredentialRow where
  credentialId := draw.replacementId
  tenantId := input.tenantId
  deviceId := input.deviceId
  secretCiphertext :=
    (service.encrypt draw.replacementId draw.replacementSecret draw.iv).1
  secretIv :=
    (service.encrypt draw.replacementId draw.replacementSecret draw.iv).2
  createdAt := now
  expiresAt := now + input.credentialLifetime
  lastUsedAt := none
  revokedAt := none
  activatedAt := none

def pendingRow (input : Initiation) (draw : RotationDraw)
    (predecessorId : String) (now : Timestamp) : RotationRow where
  rotationId := draw.rotationId
  tenantId := input.tenantId
  deviceId := input.deviceId
  predecessorCredentialId := predecessorId
  replacementCredentialId := draw.replacementId
  status := .pending
  createdBy := input.createdBy
  createdAt := now
  deliveryExpiresAt := now + input.deliveryWindow
  deliveredAt := none
  acknowledgedAt := none
  cancelledAt := none
  envelope := none
  deliveryCount := 0

def initiateTransaction (input : Initiation) (draw : RotationDraw)
    (now : Timestamp) : RotationProgram CredentialRotationState := do
  let database ← get
  Transaction.require
    (database.devices.any (·.isActive input.tenantId input.deviceId) = true)
    (.enrollment "active device not found")
  let predecessor ← solePredecessor
    (activeCredentials database input.tenantId input.deviceId now)
  Transaction.require
    (database.rotations.rows.any (fun row =>
      row.ofDevice input.tenantId input.deviceId && row.status.live) = false)
    (.enrollment "device already has a pending credential rotation")
  insertCredential (service.replacementRow input draw now)
  insertRotation (pendingRow input draw predecessor.credentialId now)
  return rotationState (pendingRow input draw predecessor.credentialId now) true

def initiate (input : Initiation) (draw : RotationDraw) (now : Timestamp)
    (database : Database) :
    Except RotationError CredentialRotationState × Database :=
  match checkInitiation input with
  | .error failure => (.error failure, database)
  | .ok () => (service.initiateTransaction input draw now).commit database

/-! ## Cancellation -/

/-- `_cancel_row`. -/
def cancelRow (row : RotationRow) (now : Timestamp) :
    RotationProgram Unit := do
  let _ ← updateCredentials
    (fun credential =>
      credential.credentialId = row.replacementCredentialId &&
        credential.staged)
    fun credential => { credential with revokedAt := some now }
  let _ ← updateRotations
    (fun stored => stored.rotationId = row.rotationId && stored.status.live)
    fun stored =>
      { stored with
        status := .cancelled, cancelledAt := some now, envelope := none }
  return ()

def cancelTransaction (tenantId rotationId : String) (now : Timestamp) :
    RotationProgram Bool := do
  let database ← get
  match database.rotations.rows.find? fun row =>
      row.tenantId = tenantId && row.rotationId = rotationId with
  | none => return false
  | some row =>
      if row.status = .cancelled then return false
      else
        Transaction.require (row.status = .pending) (.enrollment
          ("delivered credential rotation cannot be cancelled before " ++
            "device recovery"))
        cancelRow row now
        return true

def cancel (tenantId rotationId : String) (now : Timestamp)
    (database : Database) : Except RotationError Bool × Database :=
  (cancelTransaction tenantId rotationId now).commit database

/-! ## Delivery -/

/-- `_MAX_DELIVERIES`. -/
def maxDeliveries : Nat := 10

/-- The live rotation of the device, joined with its replacement. -/
def liveRotation (database : Database) (tenantId deviceId : String) :
    Option (RotationRow × CredentialRow) :=
  database.rotations.rows.findSome? fun row =>
    if row.ofDevice tenantId deviceId && row.status.live then
      (database.credentials.rows.find? fun credential =>
        credential.credentialId = row.replacementCredentialId).map (row, ·)
    else none

/-- `_cipher.resolve` of a stored credential. -/
def resolveSecret (row : CredentialRow) :
    Except RotationError (List UInt8) :=
  match service.authenticator.resolve row.credentialId row.secretCiphertext
      row.secretIv with
  | some secret => .ok secret
  | none => .error (.enrollment "device credential decryption failed")

/-- `_envelope`. -/
def storedEnvelope (row : RotationRow) :
    Except RotationError CredentialRotationEnvelope :=
  let (ciphertext, iv) := row.envelope.getD ("None", "None")
  CredentialRotationEnvelope.validate
    ⟨row.rotationId, row.deviceId, row.predecessorCredentialId,
      row.deliveryExpiresAt, ciphertext, iv⟩

/-- The first delivery seals the replacement for its predecessor. -/
def firstDelivery (draw : List UInt8) (deviceId credentialId : String)
    (row : RotationRow) (replacement : CredentialRow) (now : Timestamp) :
    RotationProgram CredentialRotationEnvelope := do
  let database ← get
  match database.credentials.rows.find? fun credential =>
      credential.credentialId = credentialId && credential.inForce with
  | none => throw (.enrollment "rotation predecessor is no longer active")
  | some predecessor =>
      let predecessorSecret ←
        Transaction.ofExcept (service.resolveSecret predecessor)
      let replacementSecret ←
        Transaction.ofExcept (service.resolveSecret replacement)
      let material ← Transaction.ofExcept (CredentialRotationMaterial.validate
        ⟨row.rotationId, deviceId, credentialId, row.replacementCredentialId,
          replacementSecret, replacement.expiresAt⟩)
      let envelope ← Transaction.ofExcept (service.encryptRotationMaterial
        material predecessorSecret draw row.deliveryExpiresAt)
      let _ ← updateRotations
        (fun stored =>
          stored.rotationId = row.rotationId && stored.status = .pending)
        fun stored =>
          { stored with
            status := .delivered
            deliveredAt := some now
            envelope := some (envelope.ciphertext, envelope.iv)
            deliveryCount := 1 }
      return envelope

/-- A further delivery repeats the stored envelope. -/
def repeatDelivery (row : RotationRow) :
    RotationProgram CredentialRotationEnvelope := do
  let envelope ← Transaction.ofExcept (storedEnvelope row)
  let _ ← updateRotations
    (fun stored =>
      stored.rotationId = row.rotationId && stored.status = .delivered)
    fun stored => { stored with deliveryCount := stored.deliveryCount + 1 }
  return envelope

/-- Cancel an expired rotation, or deliver a live one. -/
def deliver (draw : List UInt8) (device : AuthenticatedDevice)
    (row : RotationRow) (replacement : CredentialRow) (now : Timestamp) :
    RotationProgram (Option CredentialRotationEnvelope) := do
  Transaction.require (row.predecessorCredentialId = device.credentialId)
    (.enrollment "credential rotation is bound to another credential")
  if row.deliveryExpiresAt ≤ now then
    cancelRow row now
    return none
  else
    Transaction.require (row.deliveryCount < maxDeliveries)
      (.enrollment "credential rotation delivery retry limit reached")
    if row.status = .pending then
      some <$> service.firstDelivery draw device.deviceId device.credentialId
        row replacement now
    else some <$> repeatDelivery row

def pollTransaction (draw : List UInt8) (device : AuthenticatedDevice)
    (now : Timestamp) :
    RotationProgram (Option CredentialRotationEnvelope) := do
  let database ← get
  match liveRotation database device.tenantId device.deviceId with
  | none => return none
  | some (row, replacement) =>
      service.deliver draw device row replacement now

/-- `poll`; `draw` is the nonce `token_bytes` returns for a first delivery. -/
def poll (draw : List UInt8) (request : SignedCollectorRequest)
    (deviceId : String) (now : Timestamp) (database : Database) :
    Except RotationError (Option CredentialRotationEnvelope) × Database :=
  match service.authenticator.authenticate request now database with
  | (.error failure, after) => (.error (.collector failure), after)
  | (.ok device, after) =>
      if device.deviceId = deviceId then
        (service.pollTransaction draw device now).commit after
      else
        (.error (.enrollment
          "credential rotation target does not match device"), after)

/-! ## Acknowledgement -/

/-- Activate the replacement, retire the predecessor, close the rotation. -/
def completeRotation (row : RotationRow) (now : Timestamp) :
    RotationProgram CredentialRotationState := do
  Transaction.require (row.status = .delivered)
    (.enrollment "credential rotation is not awaiting acknowledgment")
  let activated ← updateCredentials
    (fun credential =>
      credential.credentialId = row.replacementCredentialId &&
        credential.staged && now < credential.expiresAt)
    fun credential => { credential with activatedAt := some now }
  let retired ← updateCredentials
    (fun credential =>
      credential.credentialId = row.predecessorCredentialId &&
        credential.inForce)
    fun credential => { credential with revokedAt := some now }
  let changed ← updateRotations
    (fun stored =>
      stored.rotationId = row.rotationId && stored.status = .delivered)
    fun stored =>
      { stored with
        status := .acknowledged
        acknowledgedAt := some now
        envelope := none }
  Transaction.require (activated = 1 ∧ retired = 1 ∧ changed = 1)
    (.enrollment "credential rotation acknowledgment conflicted")
  let database ← get
  match database.rotations.rows.find? fun stored =>
      stored.rotationId = row.rotationId with
  | none => throw (.enrollment
      "credential rotation acknowledgment was not retained")
  | some updated => return rotationState updated true

def acknowledgeTransaction (device : AuthenticatedDevice) (now : Timestamp) :
    RotationProgram (Option CredentialRotationState) := do
  let database ← get
  match database.rotations.rows.find? fun row =>
      row.replacementCredentialId = device.credentialId with
  | none => return none
  | some row =>
      Transaction.require
        (row.tenantId = device.tenantId ∧ row.deviceId = device.deviceId)
        (.enrollment "credential rotation acknowledgment is not device-bound")
      if row.status = .acknowledged then return some (rotationState row false)
      else some <$> completeRotation row now

def acknowledge (request : SignedCollectorRequest) (now : Timestamp)
    (database : Database) :
    Except RotationError (Option CredentialRotationState) × Database :=
  match service.authenticator.authenticate request now database with
  | (.error failure, after) => (.error (.collector failure), after)
  | (.ok device, after) => (acknowledgeTransaction device now).commit after

end RotationService

/-! ## Revocation by an administrator -/

def revokeCredentialTransaction (tenantId deviceId credentialId : String)
    (now : Timestamp) : RotationProgram Bool := do
  let database ← get
  Transaction.require
    (1 ≤ database.credentials.rows.countP fun row =>
      row.ofDevice tenantId deviceId && row.credentialId ≠ credentialId &&
        row.inForce && now < row.expiresAt)
    (.enrollment "credential cannot be retired without an active replacement")
  let count ← updateCredentials
    (fun row =>
      row.ofDevice tenantId deviceId && row.credentialId = credentialId &&
        row.revokedAt.isNone)
    fun row => { row with revokedAt := some now }
  return count = 1

/-- `DeviceEnrollmentService.revoke_credential`. -/
def revokeCredential (tenantId deviceId credentialId : String)
    (now : Timestamp) (database : Database) :
    Except RotationError Bool × Database :=
  (revokeCredentialTransaction tenantId deviceId credentialId now).commit
    database

end Devices

end ControlForge
