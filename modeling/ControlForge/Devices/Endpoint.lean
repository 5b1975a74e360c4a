import ControlForge.Devices.Rotation
import ControlForge.Foundation.Transition

/-!
# The endpoint and the rotation protocol

One run of the endpoint agent is a sequence of small steps, between any two of
which it may crash: the keychain and the row in the spool survive, the phase of
the run does not.  Requests, once sent, may reach the server at any later time,
more than once, or never; the answer to a request reaches the run only while it
waits for it.
-/

namespace ControlForge

namespace Devices

/-- The pair in the keychain. -/
structure Credential where
  id : String
  secret : List UInt8
deriving DecidableEq

/-- The row of `pending_credential_rotation`. -/
structure PendingRotation where
  rotationId : String
  predecessorId : String
  replacementId : String
deriving DecidableEq

def CredentialRotationMaterial.pending
    (material : CredentialRotationMaterial) : PendingRotation :=
  ⟨material.rotationId, material.predecessorCredentialId,
    material.replacementCredentialId⟩

def CredentialRotationMaterial.credential
    (material : CredentialRotationMaterial) : Credential :=
  ⟨material.replacementCredentialId, material.replacementSecret⟩

/-- Why a run of the agent raised. -/
inductive AgentError where
  | value (message : String)
  | collector (message : String)
  | rotation (failure : RotationError)
  /-- The control plane answered with an error. -/
  | refused (failure : RotationError)
deriving DecidableEq

abbrev PollAnswer := Except RotationError (Option CredentialRotationEnvelope)

abbrev AckAnswer := Except RotationError (Option CredentialRotationState)

/-- Where `run_once` is in `_handle_credential_rotation`. -/
inductive Phase where
  | idle
  /-- The poll was sent; the row of the spool was read before. -/
  | polling (client : Credential) (pending : Option PendingRotation)
      (request : SignedCollectorRequest) (answer : Option PollAnswer)
  | decrypted (material : CredentialRotationMaterial)
  | recorded (material : CredentialRotationMaterial)
  | replaced (material : CredentialRotationMaterial)
  | acknowledging (rotationId : String) (request : SignedCollectorRequest)
      (answer : Option AckAnswer)
  | acknowledged (rotationId : String)
  /-- The rotation was handled; telemetry is collected and delivered. -/
  | collecting
deriving DecidableEq

structure Endpoint where
  keychain : Credential
  spool : Option PendingRotation
  phase : Phase

/-- The device of the endpoint, and whether its agent rotates credentials. -/
structure Enrollment where
  tenantId : String
  deviceId : String
  rotationEnabled : Bool

/-- What a step of the agent reads: its clock, and the timestamp and the nonce
of a request. -/
structure Reading where
  now : Timestamp
  timestamp : String
  nonce : String

/-! ## The client -/

/-- `_CREDENTIAL_ID` of the client, which ignores case. -/
def isClientCredentialId : String → Bool :=
  matchesClass (fun character => isLowerHex character.toLower ||
    character = '-') 36 36

/-- The checks of `SignedControlForgeClient`. -/
def Credential.validate (credential : Credential) : Except AgentError Unit :=
  if isClientCredentialId credential.id then
    if 32 ≤ credential.secret.length then .ok ()
    else .error (.value "collector credential secret is too short")
  else .error (.value "collector credential ID must be a UUID")

/-- The request with an empty signature. -/
def unsignedRequest (client : Credential) (method path : String)
    (body : List UInt8) (reading : Reading) : SignedCollectorRequest :=
  ⟨method, path, body, client.id, reading.timestamp, reading.nonce, ""⟩

/-- The request of `_request`. -/
def signRequest (authenticator : Authenticator) (client : Credential)
    (method path : String) (body : List UInt8) (reading : Reading) :
    SignedCollectorRequest :=
  { unsignedRequest client method path body reading with
    signature := authenticator.hmac client.secret
      (authenticator.canonicalRequest
        (unsignedRequest client method path body reading)) }

def pollRequest (authenticator : Authenticator) (client : Credential)
    (reading : Reading) : SignedCollectorRequest :=
  signRequest authenticator client "GET" rotationPollPath [] reading

/-- The body of the acknowledgement is an empty JSON object. -/
def ackRequest (authenticator : Authenticator) (client : Credential)
    (reading : Reading) : SignedCollectorRequest :=
  signRequest authenticator client "POST" rotationAckPath [123, 125] reading

/-- `replace_pair`: refused unless the expected pair is the effective one. -/
def replacePair (expectedId : String) (replacement keychain : Credential) :
    Except AgentError Credential := do
  if ¬ (isClientCredentialId expectedId ∧
      isClientCredentialId replacement.id) then
    .error (.value "collector credential ID must be a UUID")
  else if replacement.secret.length < 32 then
    .error (.value "collector credential secret is too short")
  else if keychain.id = expectedId then .ok replacement
  else .error (.value "collector credential pair could not be rotated")

/-! ## One step of a run -/

section Agent

variable (service : RotationService) (enrollment : Enrollment)

/-- The wrapper loads the keychain, and the agent reads the spool and sends
its first request. -/
def Endpoint.launch (reading : Reading) (endpoint : Endpoint) :
    Except AgentError (Endpoint × Option SignedCollectorRequest) := do
  endpoint.keychain.validate
  if enrollment.rotationEnabled = false then
    .ok ({ endpoint with phase := .collecting }, none)
  else
    let poll := pollRequest service.authenticator endpoint.keychain reading
    let ack := ackRequest service.authenticator endpoint.keychain reading
    match endpoint.spool with
    | none =>
        .ok ({ endpoint with
          phase := .polling endpoint.keychain none poll none }, some poll)
    | some pending =>
        if endpoint.keychain.id = pending.replacementId then
          .ok ({ endpoint with
            phase := .acknowledging pending.rotationId ack none }, some ack)
        else
          .ok ({ endpoint with
            phase := .polling endpoint.keychain (some pending) poll none },
            some poll)

/-- Validate and decrypt the envelope, and compare it with the spool row. -/
def openEnvelope (reading : Reading) (client : Credential)
    (pending : Option PendingRotation) (envelope : CredentialRotationEnvelope) :
    Except AgentError CredentialRotationMaterial := do
  let envelope ← envelope.validate.mapError .rotation
  let material ← (service.decryptRotationEnvelope envelope client.secret
    enrollment.deviceId client.id reading.now).mapError .rotation
  if pending.isSome ∧ pending ≠ some material.pending then
    .error (.collector
      "credential rotation state conflicts with control plane")
  else .ok material

/-- The next step of the run; while it waits for an answer, nothing. -/
def Endpoint.act (reading : Reading) (endpoint : Endpoint) :
    Except AgentError (Endpoint × Option SignedCollectorRequest) :=
  match endpoint.phase with
  | .idle => endpoint.launch service enrollment reading
  | .polling _ _ _ none => .ok (endpoint, none)
  | .polling _ _ _ (some (.error failure)) => .error (.refused failure)
  | .polling _ _ _ (some (.ok none)) =>
      .ok ({ endpoint with phase := .collecting }, none)
  | .polling client pending _ (some (.ok (some envelope))) => do
      let material ←
        openEnvelope service enrollment reading client pending envelope
      .ok ({ endpoint with phase := .decrypted material }, none)
  | .decrypted material =>
      .ok ({ endpoint with
        spool := some material.pending, phase := .recorded material }, none)
  | .recorded material => do
      let keychain ← replacePair material.predecessorCredentialId
        material.credential endpoint.keychain
      .ok ({ endpoint with keychain, phase := .replaced material }, none)
  | .replaced material => do
      material.credential.validate
      let ack := ackRequest service.authenticator material.credential reading
      .ok ({ endpoint with
        phase := .acknowledging material.rotationId ack none }, some ack)
  | .acknowledging _ _ none => .ok (endpoint, none)
  | .acknowledging _ _ (some (.error failure)) => .error (.refused failure)
  | .acknowledging rotationId _ (some (.ok _)) =>
      .ok ({ endpoint with phase := .acknowledged rotationId }, none)
  | .acknowledged rotationId =>
      .ok ({ endpoint with
        spool := endpoint.spool.filter (·.rotationId ≠ rotationId)
        phase := .collecting }, none)
  | .collecting => .ok ({ endpoint with phase := .idle }, none)

/-! ## The protocol -/

/-- What the server answers to a rotation request. -/
inductive Reply where
  | poll (answer : PollAnswer)
  | ack (answer : AckAnswer)

/-- The two rotation routes of the API. -/
def serve (draw : List UInt8) (request : SignedCollectorRequest)
    (now : Timestamp) (database : Database) : Reply × Database :=
  if request.path = rotationPollPath then
    let (answer, after) :=
      service.poll draw request enrollment.deviceId now database
    (.poll answer, after)
  else
    let (answer, after) := service.acknowledge request now database
    (.ack answer, after)

/-- The run hears the answer to the request it waits for, once. -/
def Phase.hear (request : SignedCollectorRequest) (reply : Reply)
    (phase : Phase) : Phase :=
  match phase, reply with
  | .polling client pending sent none, .poll answer =>
      if sent = request then .polling client pending sent (some answer)
      else phase
  | .acknowledging rotationId sent none, .ack answer =>
      if sent = request then .acknowledging rotationId sent (some answer)
      else phase
  | _, _ => phase

end Agent

/-- The server, the endpoint, and every request it has sent. -/
structure World where
  database : Database
  endpoint : Endpoint
  sent : List SignedCollectorRequest

def Database.credentialsOf (enrollment : Enrollment) (database : Database) :
    List CredentialRow :=
  database.credentials.rows.filter
    (·.ofDevice enrollment.tenantId enrollment.deviceId)

def Database.rotationsOf (enrollment : Enrollment) (database : Database) :
    List RotationRow :=
  database.rotations.rows.filter
    (·.ofDevice enrollment.tenantId enrollment.deviceId)

/-- The device and its tenant are active. -/
def Database.admits (enrollment : Enrollment) (database : Database) : Bool :=
  database.devices.any
      (·.isActive enrollment.tenantId enrollment.deviceId) &&
    database.tenants.any fun tenant =>
      tenant.tenantId = enrollment.tenantId ∧ tenant.status = "active"

/-- Nothing about the device has changed. -/
structure SameDevice (enrollment : Enrollment) (before after : Database) :
    Prop where
  credentials : after.credentialsOf enrollment = before.credentialsOf enrollment
  rotations : after.rotationsOf enrollment = before.rotationsOf enrollment
  admits : after.admits enrollment = before.admits enrollment

inductive ProtocolLabel where
  | initiate (createdBy : String) (credentialLifetime deliveryWindow : Int)
      (draw : RotationDraw) (now : Timestamp)
  | cancel (rotationId : String) (now : Timestamp)
  | revoke (credentialId : String) (now : Timestamp)
  /-- Operations on other devices, and the purge of nonces. -/
  | elsewhere
  | serve (request : SignedCollectorRequest) (draw : List UInt8)
      (now : Timestamp)
  | act (reading : Reading)
  /-- A crash, an answer that is lost, or a keychain that fails. -/
  | interrupt

section Protocol

variable (service : RotationService) (enrollment : Enrollment)

/-- The server handles a request, and the run may be waiting for the answer. -/
def World.serve (request : SignedCollectorRequest) (draw : List UInt8)
    (now : Timestamp) (world : World) : World :=
  let (reply, database) :=
    Devices.serve service enrollment draw request now world.database
  { world with
    database
    endpoint := { world.endpoint with
      phase := world.endpoint.phase.hear request reply } }

def World.interrupt (world : World) : World :=
  { world with endpoint := { world.endpoint with phase := .idle } }

/-- A run that raises is over. -/
def World.act (reading : Reading) (world : World) : World :=
  match world.endpoint.act service enrollment reading with
  | .ok (endpoint, request) =>
      { world with endpoint, sent := world.sent ++ request.toList }
  | .error _ => world.interrupt

/-- A live rotation of another device is cancelled elsewhere. -/
def OwnRotation (database : Database) (rotationId : String) : Prop :=
  ∀ row ∈ database.rotations.rows, row.rotationId = rotationId →
    row.ofDevice enrollment.tenantId enrollment.deviceId = true

inductive ProtocolStep : World → ProtocolLabel → World → Prop
  | initiate {world : World} {createdBy : String}
      {credentialLifetime deliveryWindow : Int} {draw : RotationDraw}
      {now : Timestamp} :
      ProtocolStep world
        (.initiate createdBy credentialLifetime deliveryWindow draw now)
        { world with database := (service.initiate
          ⟨enrollment.tenantId, enrollment.deviceId, createdBy,
            credentialLifetime, deliveryWindow⟩ draw now world.database).2 }
  | cancel {world : World} {rotationId : String} {now : Timestamp}
      (own : OwnRotation enrollment world.database rotationId) :
      ProtocolStep world (.cancel rotationId now)
        { world with database := (RotationService.cancel enrollment.tenantId
          rotationId now world.database).2 }
  | revoke {world : World} {credentialId : String} {now : Timestamp} :
      ProtocolStep world (.revoke credentialId now)
        { world with database := (revokeCredential enrollment.tenantId
          enrollment.deviceId credentialId now world.database).2 }
  | elsewhere {world : World} {database : Database}
      (same : SameDevice enrollment world.database database) :
      ProtocolStep world .elsewhere { world with database }
  | serve {world : World} {request : SignedCollectorRequest}
      {draw : List UInt8} {now : Timestamp} (sent : request ∈ world.sent) :
      ProtocolStep world (.serve request draw now)
        (world.serve service enrollment request draw now)
  | act {world : World} {reading : Reading} :
      ProtocolStep world (.act reading) (world.act service enrollment reading)
  | interrupt {world : World} :
      ProtocolStep world .interrupt world.interrupt

/-- The endpoint keeps the one credential its enrollment made. -/
structure FreshlyEnrolled (world : World) : Prop where
  credential : ∃ row, world.database.credentialsOf enrollment = [row] ∧
    row.credentialId = world.endpoint.keychain.id ∧ row.inForce = true ∧
    service.authenticator.resolve row.credentialId row.secretCiphertext
      row.secretIv = some world.endpoint.keychain.secret
  rotations : world.database.rotationsOf enrollment = []
  admitted : world.database.admits enrollment = true
  uuid : isUuidText world.endpoint.keychain.id = true
  secretLength : 32 ≤ world.endpoint.keychain.secret.length
  spool : world.endpoint.spool = none
  phase : world.endpoint.phase = .idle
  sent : world.sent = []

def protocol : TransitionSystem World ProtocolLabel where
  initial := FreshlyEnrolled service enrollment
  step := ProtocolStep service enrollment

end Protocol

end Devices

end ControlForge
