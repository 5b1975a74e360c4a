import ControlForge.Directory.Accounts
import ControlForge.Foundation.OrderBy

/-!
# Claims of enrollment grants

`DeviceEnrollmentService.claim_grant` with all it checks.  A grant that was
used answers a repeated claim with the credential it created, until that
credential is used, revoked or expired.
-/

namespace ControlForge

namespace Directory

open Access
open Devices (CredentialRow AuthenticatedDevice SignedCollectorRequest)

section Grants

variable {Log : Type} (services : Services Log)

/-! ## The arguments of a claim -/

structure ClaimRequest extends ClaimInput where
  displayName : String
  platform : String

/-- What `claim_grant` checks before it opens the database. -/
def checkClaim (request : ClaimRequest) : Except AccessError Unit := do
  requireIdentifier request.deviceId "device identity"
  let name := Text.strip request.displayName
  if name = "" ∨ 100 < name.length then
    .error (.invalidValue
      "device display name must contain between 1 and 100 characters")
  if request.platform ≠ "macos" then
    .error (.invalidValue "device platform is not supported")
  if request.token.length < 32 ∨ 128 < request.token.length then
    .error (.enrollment "enrollment grant is invalid")
  if request.credentialLifetime < Devices.days 1 ∨
      Devices.days 365 < request.credentialLifetime then
    .error (.invalidValue
      "device credential lifetime must be between 1 and 365 days")

/-- `EnrolledDeviceCredential`. -/
structure EnrolledCredential where
  tenantId : String
  deviceId : String
  credentialId : String
  secret : List UInt8
  expiresAt : Timestamp
deriving DecidableEq

def invalidGrant : AccessError :=
  .enrollment "enrollment grant is invalid or expired"

/-! ## The account behind a grant -/

/-- The grant of an account with the account, if an account requested it. -/
def grantAccount (records : Records Log) (tokenId : String) :
    Option (AccountGrantRow × AccountRow) := do
  let grant ← records.accountGrants.rows.find? fun row => row.tokenId = tokenId
  let account ← records.accounts.rows.find?
    (·.hasKey grant.tenantId grant.accountId)
  return (grant, account)

def AccountRow.mayEnroll (account : AccountRow) (grant : AccountGrantRow) :
    Bool :=
  (account.status = "active" : Bool) && account.setupCompletedAt.isSome &&
    account.passwordVersion = grant.passwordVersion

/-- `_require_account_grant`. -/
def requireAccountGrant (tokenId : String) : Program Log Unit := do
  let records ← get
  require
    ((grantAccount records tokenId).all
      (fun found => found.2.mayEnroll found.1) = true)
    (.enrollment "account enrollment authority is no longer active")

/-- The row `account_context_for_grant` reads: the grant and its account. -/
def accountContext (records : Records Log) (token : String)
    (now : Timestamp) : Option (GrantRow × AccountRow) := do
  let grant ← records.grants.rows.find? fun row =>
    row.tokenHash = services.cases.library.sha256 token &&
      (now < row.expiresAt : Bool) && row.revokedAt.isNone
  let (owner, account) ← grantAccount records grant.tokenId
  if account.mayEnroll owner &&
      Identity.activeTenant records.identity account.tenantId then
    some (grant, account)
  else none

/-! ## A repeated claim -/

/-- The first credential of the device whose name is `initial enrollment`. -/
def initialCredential (records : Records Log) (tenantId deviceId : String) :
    Option CredentialRow :=
  (orderBy CredentialRow.createdAt (orderBy CredentialRow.credentialId
    (records.credentials.rows.filter fun row =>
      row.ofDevice tenantId deviceId &&
        records.initialCredentials.contains row.credentialId))).head?

/-- The credential a repeated claim may be answered with. -/
def resumable (records : Records Log) (tenantId : String)
    (request : ClaimRequest) (now : Timestamp) : Option CredentialRow := do
  let device ← records.devices.find? fun row =>
    row.tenantId = tenantId ∧ row.deviceId = request.deviceId
  let profile ← records.deviceProfiles.find? fun row =>
    row.tenantId = tenantId ∧ row.deviceId = request.deviceId
  let credential ← initialCredential records tenantId request.deviceId
  if profile.displayName = Text.strip request.displayName ∧
      profile.platform = request.platform ∧ device.status = "active" ∧
      device.lastSeenAt = none ∧ credential.revokedAt = none ∧
      credential.activatedAt ≠ none ∧ now < credential.expiresAt then
    some credential
  else none

/-- `_resume_unchecked_grant`. -/
def resumeGrant (grant : GrantRow) (request : ClaimRequest)
    (now : Timestamp) : Program Log EnrolledCredential := do
  require (grant.claimedDeviceId = some request.deviceId) invalidGrant
  let records ← get
  match resumable records grant.tenantId request now with
  | none => raise invalidGrant
  | some credential =>
      match services.rotations.authenticator.resolve credential.credentialId
          credential.secretCiphertext credential.secretIv with
      | none => raise (.enrollment "device credential decryption failed")
      | some secret =>
          return ⟨grant.tenantId, request.deviceId, credential.credentialId,
            secret, credential.expiresAt⟩

/-! ## A first claim -/

/-- The device of a claim. -/
def enrollDevice (tenantId : String) (request : ClaimRequest) :
    Program Log Unit := do
  inAppliance (insertDevice tenantId request.deviceId)
  modify fun records => { records with
    deviceProfiles := records.deviceProfiles ++
      [⟨tenantId, request.deviceId, Text.strip request.displayName,
        request.platform⟩] }

/-- The credential of a claim. -/
def enrollCredential (tenantId : String) (request : ClaimRequest)
    (draw : Draw) : Program Log Unit := do
  inAppliance (inCollectors (Devices.insertCredential
    (enrolledCredential services.toDeployment tenantId request.toClaimInput
      draw.toDraw)))
  modify fun records => { records with
    initialCredentials := records.initialCredentials ++ [draw.id] }

/-- `UPDATE enrollment_tokens SET used_at=?, claimed_device_id=?`. -/
def useGrant (grant : GrantRow) (deviceId : String) (now : Timestamp) :
    Program Log Nat :=
  inAppliance (updateGrants
    (fun row => row.tokenId = grant.tokenId && row.usedAt.isNone)
    fun row =>
      { row with usedAt := some now, claimedDeviceId := some deviceId })

/-- The writes of a first claim. -/
def enroll (grant : GrantRow) (request : ClaimRequest) (draw : Draw) :
    Program Log EnrolledCredential := do
  let records ← get
  require
    (records.devices.any (fun row =>
      row.tenantId = grant.tenantId ∧ row.deviceId = request.deviceId) = false)
    (.enrollment "device identity is already registered")
  enrollDevice grant.tenantId request
  enrollCredential services grant.tenantId request draw
  let count ← useGrant grant request.deviceId draw.now
  require (count = 1) (.enrollment "enrollment grant is no longer available")
  return ⟨grant.tenantId, request.deviceId, draw.id,
    draw.rotation.replacementSecret, draw.now + request.credentialLifetime⟩

/-- What a successful claim returns: the grant, whether the claim created the
device, and the credential. -/
structure Claimed where
  tokenId : String
  created : Bool
  credential : EnrolledCredential

/-- The transaction of `claim_grant`. -/
def claimGrant (request : ClaimRequest) (draw : Draw) :
    Program Log Claimed := do
  inAppliance (Transaction.ofExcept (checkClaim request))
  let records ← get
  match claimable services.toDeployment records.toAppliance
      request.toClaimInput draw.now with
  | none => raise invalidGrant
  | some grant => do
      requireAccountGrant grant.tokenId
      if grant.usedAt.isSome then
        let credential ← resumeGrant services grant request draw.now
        return ⟨grant.tokenId, false, credential⟩
      else do
        let credential ← enroll services grant request draw
        return ⟨grant.tokenId, true, credential⟩

/-! ## Revocation of grants -/

/-- `revoke_grant`. -/
def revokeGrant (tenantId tokenId : String) (now : Timestamp) :
    Program Log Nat :=
  inAppliance (updateGrants
    (fun row =>
      (row.tenantId = tenantId ∧ row.tokenId = tokenId : Bool) &&
        row.usedAt.isNone)
    fun row => { row with revokedAt := some now })

end Grants

end Directory

end ControlForge
