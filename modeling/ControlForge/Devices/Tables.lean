import ControlForge.Identity
import ControlForge.Foundation.Table

/-!
# Devices, their credentials, and credential rotations

The tables the device authenticator and the rotation service share.
-/

namespace ControlForge

namespace Devices

structure DeviceRow where
  tenantId : String
  deviceId : String
  status : String
  lastSeenAt : Option Timestamp
deriving DecidableEq

/-- A row of `device_credentials`. -/
structure CredentialRow where
  credentialId : String
  tenantId : String
  deviceId : String
  secretCiphertext : String
  secretIv : String
  createdAt : Timestamp
  expiresAt : Timestamp
  lastUsedAt : Option Timestamp
  revokedAt : Option Timestamp
  activatedAt : Option Timestamp
deriving DecidableEq

inductive RotationStatus where
  | pending
  | delivered
  | acknowledged
  | cancelled
deriving DecidableEq, Repr

/-- `status IN ('pending', 'delivered')`. -/
def RotationStatus.live : RotationStatus → Bool
  | .pending | .delivered => true
  | _ => false

/-- A row of `device_credential_rotations`. -/
structure RotationRow where
  rotationId : String
  tenantId : String
  deviceId : String
  predecessorCredentialId : String
  replacementCredentialId : String
  status : RotationStatus
  createdBy : String
  createdAt : Timestamp
  deliveryExpiresAt : Timestamp
  deliveredAt : Option Timestamp
  acknowledgedAt : Option Timestamp
  cancelledAt : Option Timestamp
  envelope : Option (String × String)
  deliveryCount : Nat
deriving DecidableEq

/-- A row of `device_auth_nonces`. -/
structure NonceRow where
  credentialId : String
  nonce : String
  expiresAt : Timestamp
deriving DecidableEq

def CredentialRow.clash (left right : CredentialRow) : Bool :=
  left.credentialId = right.credentialId

/-- The primary key, the unique replacement, and the index on live rotations
of one device. -/
def RotationRow.clash (left right : RotationRow) : Bool :=
  (left.rotationId = right.rotationId : Bool) ||
    (left.replacementCredentialId = right.replacementCredentialId : Bool) ||
    (left.status.live && right.status.live &&
      (left.tenantId = right.tenantId ∧ left.deviceId = right.deviceId : Bool))

def NonceRow.clash (left right : NonceRow) : Bool :=
  left.credentialId = right.credentialId ∧ left.nonce = right.nonce

structure Database where
  tenants : List TenantRow
  devices : List DeviceRow
  credentials : Table CredentialRow CredentialRow.clash
  rotations : Table RotationRow RotationRow.clash
  nonces : Table NonceRow NonceRow.clash

end Devices

end ControlForge
