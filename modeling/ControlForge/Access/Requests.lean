import ControlForge.Access.Enrollment
import ControlForge.Access.Lifecycle
import ControlForge.Foundation.Interleaving

/-!
# Requests, step by step

Every request of a person passes its points one after another: the session is
authenticated, a network is chosen, the capability of the captured principal is
checked, the operation reads what it reads beforehand, and its transaction
runs.  Sign-ins, claims of enrollment grants and calls of collectors are split
in the same way.  Between two points of a request anything may happen.
-/

namespace ControlForge

namespace Access

open Devices (AuthenticatedDevice SignedCollectorRequest)

/-! ## What may be requested -/

/-- A mutation, with the input of its endpoint. -/
inductive Operation where
  | addNote (caseId note : String)
  | assignCase (caseId : String) (assigneeUserId : Option String)
  | transitionCase (caseId status : String)
  | recordDisposition (caseId status rationale : String)
      (falsePositiveReason : Option String)
  | createEnrollmentGrant (input : GrantInput)
  | rotateDeviceCredential (deviceId : String) (lifetimeDays : Int)
  | revokeDeviceCredential (deviceId credentialId : String)
  | revokeDevice (deviceId : String)
  | updateRetentionPolicy (telemetryDays : Int)
  | applyRetention
  | issueHumanInvite (input : InviteInput)
  | proposeResponse (caseId actionType deviceId rationale : String)
      (expiresInSeconds : Int)
  | approveResponse (actionId : String)
  | rejectResponse (actionId reason : String)
  | updateMember (input : MemberUpdate)
  | updateNetwork (input : NetworkUpdate)
  | logout

namespace Operation

/-- The capability an operation requires of its principal. -/
def capability : Operation → Option Capability
  | .addNote .. | .assignCase .. | .transitionCase .. => some .triage
  | .recordDisposition .. => some .disposition
  | .proposeResponse .. => some .proposeResponse
  | .approveResponse .. | .rejectResponse .. => some .approveResponse
  | .logout => none
  | _ => some .manage

/-- The transaction of the operation calls `require_current_capability`. -/
def rechecks : Operation → Bool
  | .issueHumanInvite .. | .proposeResponse .. | .approveResponse ..
  | .rejectResponse .. | .updateMember .. | .updateNetwork .. => true
  | _ => false

/-- The endpoint honours the network a request selects. -/
def scopes : Operation → Bool
  | .updateNetwork .. | .logout => false
  | _ => true

end Operation

/-- A request of a person. -/
structure Request where
  origin : String
  token : String
  csrfToken : String
  networkId : String
  operation : Operation

/-- A request of an enrolled collector. -/
inductive CollectorCall where
  | pollActions (deviceId : String)
  | submitResult (actionId status summary : String) (evidence : List String)
  | pollRotation (deviceId : String)
  | acknowledgeRotation

inductive Point where
  | idle
  | arrived (request : Request)
  | authenticated (principal : SessionPrincipal) (networkId : String)
      (operation : Operation)
  | ownerVerified (principal : SessionPrincipal) (networkId : String)
      (operation : Operation)
  | scoped (principal : SessionPrincipal) (operation : Operation)
  | permitted (principal : SessionPrincipal) (operation : Operation)
  | prepared (principal : SessionPrincipal) (operation : Operation)
  | login (challengeId : String)
  | challengeLoaded (challengeId tenantId userId : String)
  | recovery (tenantSlug email recoveryCode : String)
  | acceptance (token challengeId : String)
  | invitationLoaded (invitation : Invitation)
  | claim (input : ClaimInput)
  | collector (request : SignedCollectorRequest) (call : CollectorCall)
  | deviceAuthenticated (device : AuthenticatedDevice) (call : CollectorCall)

/-- The points at which a request arrives. -/
def Point.isArrival : Point → Prop
  | .arrived _ | .login _ | .recovery .. | .acceptance .. | .claim _
  | .collector .. => True
  | _ => False

/-- Authority of a person in a network. -/
structure Authority where
  tenantId : String
  userId : String
  capability : Capability
deriving DecidableEq

/-- What a step commits: on whose authority, and which change of authority. -/
structure Effect where
  onBehalf : Option Authority := none
  change : Option AuthorityChange := none

section Steps

variable {Log : Type} (deployment : Deployment Log)

/-! ## What precedes a transaction -/

def refuseUnless (condition : Bool) (failure : AccessError) :
    Except AccessError Unit :=
  if condition then .ok () else .error failure

/-- The bounds of `propose`. -/
def checkProposal (actionType rationale : String) (expiresInSeconds : Int) :
    Except AccessError Unit := do
  refuseUnless (Response.actionTypes.contains actionType)
    (.response (.validation "response action type is not allowlisted"))
  refuseUnless (Response.bounded (Text.strip rationale) 500)
    (.response (.validation
      "response rationale must contain between 1 and 500 characters"))
  refuseUnless (60 ≤ expiresInSeconds && expiresInSeconds ≤ 900)
    (.response (.validation
      "response proposal expiry must be 60 to 900 seconds"))

def initiation (principal : SessionPrincipal) (deviceId : String)
    (lifetimeDays : Int) : Devices.RotationService.Initiation where
  tenantId := principal.tenantId
  deviceId
  createdBy := principal.userId
  credentialLifetime := Devices.days lifetimeDays
  deliveryWindow := Devices.hours 24

/-- What an operation checks and reads before its transaction begins. -/
def prepare (principal : SessionPrincipal) (operation : Operation)
    (appliance : Appliance Log) : Except AccessError Unit :=
  match operation with
  | .createEnrollmentGrant input => checkGrant principal input appliance
  | .rotateDeviceCredential deviceId lifetimeDays =>
      (Devices.RotationService.checkInitiation
        (initiation principal deviceId lifetimeDays)).mapError .rotation
  | .updateRetentionPolicy telemetryDays => validateDays telemetryDays
  | .applyRetention =>
      refuseUnless (deployment.verifyAudit appliance.audit principal.tenantId)
        (.retention "retention refused because audit verification failed")
  | .issueHumanInvite input => checkInvite input
  | .proposeResponse _ actionType _ rationale expiresInSeconds =>
      checkProposal actionType rationale expiresInSeconds
  | .rejectResponse _ reason =>
      refuseUnless (Response.bounded (Text.strip reason) 500)
        (.response (.validation
          "rejection reason must contain between 1 and 500 characters"))
  | _ => .ok ()

/-! ## The transactions -/

/-- A transaction that changes nobody's authority. -/
def unchanging {Value : Type} (program : Program Log Value) :
    Program Log (Option AuthorityChange) := do
  let _ ← program
  return none

/-- The transaction of an operation: the change of authority it commits. -/
def transaction (principal : SessionPrincipal) (draw : Draw) :
    Operation → Program Log (Option AuthorityChange)
  | .addNote caseId note =>
      unchanging (inStore (Cases.addNote deployment.cases principal draw.id
        caseId note draw.now))
  | .assignCase caseId assigneeUserId =>
      unchanging (inStore (Cases.assign deployment.cases principal draw.id
        caseId assigneeUserId draw.now))
  | .transitionCase caseId status =>
      unchanging (inStore (Cases.transition deployment.cases principal draw.id
        caseId status draw.now))
  | .recordDisposition caseId status rationale falsePositiveReason =>
      unchanging (inStore (Cases.recordDisposition deployment.cases principal
        draw.id draw.secondId caseId status rationale falsePositiveReason
        draw.now))
  | .createEnrollmentGrant input =>
      unchanging (issueGrant deployment principal input draw)
  | .rotateDeviceCredential deviceId lifetimeDays =>
      unchanging (inCollectors (deployment.rotations.initiateTransaction
        (initiation principal deviceId lifetimeDays) draw.rotation draw.now))
  | .revokeDeviceCredential deviceId credentialId =>
      unchanging (inCollectors (Devices.revokeCredentialTransaction
        principal.tenantId deviceId credentialId draw.now))
  | .revokeDevice deviceId =>
      unchanging (revokeDevice principal.tenantId deviceId draw.now)
  | .updateRetentionPolicy telemetryDays =>
      unchanging (setPolicy deployment principal telemetryDays draw.now)
  | .applyRetention => unchanging (applyRetention deployment principal draw)
  | .issueHumanInvite input => do
      let email ← Transaction.ofExcept (normalizeEmail deployment input.email)
      unchanging (issueHumanInvite deployment principal input email draw)
  | .proposeResponse caseId actionType deviceId rationale expiresInSeconds =>
      unchanging (inResponse (Response.proposeTransaction deployment.responses
        principal draw.id caseId actionType deviceId (Text.strip rationale)
        draw.now (draw.now + seconds expiresInSeconds)))
  | .approveResponse actionId =>
      unchanging (inResponse (Response.approveTransaction deployment.responses
        principal actionId draw.now))
  | .rejectResponse actionId reason =>
      unchanging (inResponse (Response.rejectTransaction deployment.responses
        principal actionId (Text.strip reason) draw.now))
  | .updateMember input => updateMember deployment principal input draw.now
  | .updateNetwork input => updateNetwork deployment principal input draw.now
  | .logout => unchanging (revokeSession principal draw.now)

/-- The transaction of a collector's call. -/
def collectorTransaction (device : AuthenticatedDevice) (draw : Draw) :
    CollectorCall → Program Log Unit
  | .pollActions deviceId => do
      Transaction.require (deviceId = device.deviceId)
        (.response (.deviceActionBinding
          "collector action poll target does not match credential"))
      let _ ← inResponse (Response.pollTransaction deployment.responses device
        draw.now)
  | .submitResult actionId status summary evidence =>
      match Response.resultStatus status with
      | none => throw
          (.response (.validation "response result status is invalid"))
      | some result => do
          Transaction.ofExcept
            ((Response.resultChecks summary evidence).mapError .response)
          let _ ← inResponse (Response.submitTransaction deployment.responses
            device actionId status result (Text.strip summary)
            (evidence.map Text.strip) draw.now)
  | .pollRotation deviceId => do
      Transaction.require (device.deviceId = deviceId)
        (.rotation (.enrollment
          "credential rotation target does not match device"))
      let _ ← inCollectors
        (deployment.rotations.pollTransaction draw.nonce device draw.now)
  | .acknowledgeRotation => do
      let _ ← inCollectors
        (Devices.RotationService.acknowledgeTransaction device draw.now)

/-! ## The steps of a request -/

/-- A read: go on, or give the request up. -/
def proceed {Value : Type} (appliance : Appliance Log)
    (verdict : Except AccessError Value) (next : Value → Point) :
    Point × Appliance Log × Effect :=
  match verdict with
  | .ok value => (next value, appliance, {})
  | .error _ => (.idle, appliance, {})

/-- The last step: the transaction commits, or rolls back. -/
def finish {Value : Type} (appliance : Appliance Log)
    (program : Program Log Value) (effect : Value → Effect) :
    Point × Appliance Log × Effect :=
  match program.commit appliance with
  | (.ok value, after) => (.idle, after, effect value)
  | (.error _, after) => (.idle, after, {})

/-- The authority an operation needs of its principal. -/
def Operation.authority (operation : Operation)
    (principal : SessionPrincipal) : Option Authority :=
  operation.capability.map fun capability =>
    ⟨principal.tenantId, principal.userId, capability⟩

/-- `require_human_mutation` up to the choice of a network. -/
def signedIn (request : Request) (now : Timestamp)
    (appliance : Appliance Log) : Except AccessError SessionPrincipal := do
  refuseUnless (request.origin = deployment.expectedOrigin)
    (.authorization "request origin is not allowed")
  let (principal, csrfHash) ←
    authenticateSession deployment request.token now appliance
  verifyCsrf deployment csrfHash request.csrfToken
  return principal

/-- The capability check on the captured principal.  The endpoints of members
and of networks leave it to the transaction. -/
def checkCapability (principal : SessionPrincipal) (operation : Operation) :
    Except AccessError Unit :=
  match operation, operation.capability with
  | .updateMember _, _ | .updateNetwork _, _ => .ok ()
  | _, none => .ok ()
  | _, some capability => requireCapability principal capability

/-- The collector's own authentication, a transaction before its call. -/
def authenticateCollector (request : SignedCollectorRequest)
    (call : CollectorCall) (now : Timestamp) (appliance : Appliance Log) :
    Point × Appliance Log × Effect :=
  match deployment.rotations.authenticator.authenticate request now
      appliance.collectors with
  | (.ok device, after) =>
      (.deviceAuthenticated device call, appliance.withCollectors after, {})
  | (.error _, after) => (.idle, appliance.withCollectors after, {})

def resume (draw : Draw) (point : Point) (appliance : Appliance Log) :
    Point × Appliance Log × Effect :=
  match point with
  | .idle => (.idle, appliance, {})
  | .arrived request =>
      proceed appliance (signedIn deployment request draw.now appliance)
        fun principal =>
          .authenticated principal request.networkId request.operation
  | .authenticated principal networkId operation =>
      if operation.scopes = false ∨ networkId = "" ∨
          networkId = principal.tenantId then
        (.scoped principal operation, appliance, {})
      else
        proceed appliance
          (refuseUnless (isOwner appliance.identity principal)
            (.authorization "network is not available to this identity"))
          fun _ => .ownerVerified principal networkId operation
  | .ownerVerified principal networkId operation =>
      proceed appliance
        (refuseUnless (hasProjection appliance.identity principal networkId)
          (.authorization "network is not available to this identity"))
        fun _ => .scoped (projected principal networkId) operation
  | .scoped principal operation =>
      proceed appliance (checkCapability principal operation)
        fun _ => .permitted principal operation
  | .permitted principal operation =>
      proceed appliance (prepare deployment principal operation appliance)
        fun _ => .prepared principal operation
  | .prepared principal operation =>
      finish appliance (transaction deployment principal draw operation)
        fun change => ⟨operation.authority principal, change⟩
  | .login challengeId =>
      proceed appliance (loadAuthentication appliance challengeId draw.now)
        fun identity => .challengeLoaded challengeId identity.1 identity.2
  | .challengeLoaded challengeId tenantId userId =>
      finish appliance
        (completeAuthentication deployment challengeId tenantId userId draw)
        fun _ => ⟨some ⟨tenantId, userId, .view⟩, none⟩
  | .recovery tenantSlug email recoveryCode =>
      finish appliance
        (recoverSession deployment tenantSlug email recoveryCode draw)
        fun identity => ⟨some ⟨identity.1, identity.2, .view⟩, none⟩
  | .acceptance token challengeId =>
      proceed appliance
        (loadInvitation deployment appliance token challengeId draw.now)
        .invitationLoaded
  | .invitationLoaded invitation =>
      finish appliance (completeHumanInvite deployment invitation draw)
        fun issuer => ⟨some ⟨invitation.invite.tenantId, issuer, .manage⟩, none⟩
  | .claim input =>
      finish appliance (claimGrant deployment input draw) fun _ => {}
  | .collector request call =>
      authenticateCollector deployment request call draw.now appliance
  | .deviceAuthenticated device call =>
      finish appliance (collectorTransaction deployment device draw call)
        fun _ => {}

end Steps

end Access

end ControlForge
