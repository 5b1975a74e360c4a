import ControlForge.Access.SignIn

/-!
# Enrollment grants, devices and retention

The transactions of `DeviceEnrollmentService` and of the retention service.
None of them looks at the authority of its caller: `issue_grant`,
`revoke_device` and the rest take a tenant and a name, and the retention
service relies on the principal it was given.
-/

namespace ControlForge

namespace Access

open Devices (CredentialRow RotationRow isCredentialId)

section Enrollment

variable {Log : Type} (deployment : Deployment Log)

/-! ## Enrollment grants -/

/-- The arguments of `issue_grant`, beside the tenant and the creator. -/
structure GrantInput where
  expiresInMinutes : Int
  expectedDeviceId : Option String

def requireIdentifier (value label : String) : Except AccessError Unit :=
  if isCredentialId value then .ok ()
  else .error (.invalidValue (label ++ " is invalid"))

/-- What `issue_grant` checks before it inserts: its arguments and, with a
statement of its own, the status of the tenant. -/
def checkGrant (principal : SessionPrincipal) (input : GrantInput)
    (appliance : Appliance Log) : Except AccessError Unit := do
  requireIdentifier principal.tenantId "tenant identity"
  requireIdentifier principal.userId "grant creator"
  match input.expectedDeviceId with
  | some deviceId => requireIdentifier deviceId "expected device identity"
  | none => .ok ()
  if input.expiresInMinutes < 5 ∨ 24 * 60 < input.expiresInMinutes then
    .error (.invalidValue
      "enrollment grants must expire between 5 minutes and 24 hours")
  if Identity.activeTenant appliance.identity principal.tenantId then .ok ()
  else .error (.enrollment "active organization not found")

def grantRow (principal : SessionPrincipal) (input : GrantInput)
    (draw : Draw) : GrantRow where
  tokenId := draw.id
  tenantId := principal.tenantId
  tokenHash := deployment.cases.library.sha256 draw.token
  expectedDeviceId := input.expectedDeviceId
  createdBy := principal.userId
  createdAt := draw.now
  expiresAt := draw.now + seconds (input.expiresInMinutes * 60)
  usedAt := none
  revokedAt := none
  claimedDeviceId := none

/-- The `INSERT` of `issue_grant`, a transaction of its own. -/
def issueGrant (principal : SessionPrincipal) (input : GrantInput)
    (draw : Draw) : Program Log Unit :=
  insertGrant (grantRow deployment principal input draw)

/-- The arguments of `claim_grant`. -/
structure ClaimInput where
  token : String
  deviceId : String
  credentialLifetime : Int

/-- The grant of a token, while it may be claimed for the device. -/
def claimable (appliance : Appliance Log) (input : ClaimInput)
    (now : Timestamp) : Option GrantRow :=
  appliance.grants.rows.find? fun grant =>
    (grant.tokenHash = deployment.cases.library.sha256 input.token : Bool) &&
      Identity.activeTenant appliance.identity grant.tenantId &&
      grant.revokedAt.isNone && now < grant.expiresAt &&
      match grant.expectedDeviceId with
      | none => true
      | some deviceId => deviceId = input.deviceId

/-- The credential of a new device. -/
def enrolledCredential (tenantId : String) (input : ClaimInput) (draw : Draw) :
    CredentialRow where
  credentialId := draw.id
  tenantId
  deviceId := input.deviceId
  secretCiphertext := (deployment.rotations.encrypt draw.id
    draw.rotation.replacementSecret draw.rotation.iv).1
  secretIv := (deployment.rotations.encrypt draw.id
    draw.rotation.replacementSecret draw.rotation.iv).2
  createdAt := draw.now
  expiresAt := draw.now + input.credentialLifetime
  lastUsedAt := none
  revokedAt := none
  activatedAt := some draw.now

/-- The `INSERT` into `devices`. -/
def insertDevice (tenantId deviceId : String) : Program Log Unit :=
  modify fun appliance => { appliance with
    devices := appliance.devices ++ [⟨tenantId, deviceId, "active", none⟩] }

/-- The transaction of `claim_grant`.  A used grant only repeats the stored
credential to the device that claimed it, which changes nothing. -/
def claimGrant (input : ClaimInput) (draw : Draw) : Program Log Unit := do
  let appliance ← get
  match claimable deployment appliance input draw.now with
  | none => throw (.enrollment "enrollment grant is invalid or expired")
  | some grant => do
      Transaction.require (draw.accountActive = true)
        (.enrollment "account enrollment authority is no longer active")
      if grant.usedAt.isSome then
        Transaction.require (grant.claimedDeviceId = some input.deviceId)
          (.enrollment "enrollment grant is invalid or expired")
      else do
        Transaction.require
          (appliance.devices.any (fun device =>
            device.tenantId = grant.tenantId ∧
              device.deviceId = input.deviceId) = false)
          (.enrollment "device identity is already registered")
        insertDevice grant.tenantId input.deviceId
        inCollectors (Devices.insertCredential
          (enrolledCredential deployment grant.tenantId input draw))
        let count ← updateGrants
          (fun row => row.tokenId = grant.tokenId && row.usedAt.isNone)
          fun row =>
            { row with
              usedAt := some draw.now
              claimedDeviceId := some input.deviceId }
        Transaction.require (count = 1)
          (.enrollment "enrollment grant is no longer available")

/-! ## The revocation of a device -/

/-- `UPDATE devices SET status='revoked'` and its row count. -/
def retireDevice (tenantId deviceId : String) : Program Log Nat :=
  fun appliance =>
    let chosen := fun row : Devices.DeviceRow =>
      (row.tenantId = tenantId ∧ row.deviceId = deviceId ∧
        row.status ≠ "revoked" : Bool)
    .ok (appliance.devices.countP chosen,
      { appliance with
        devices := appliance.devices.map
          (Table.applyWhere chosen fun row =>
            { row with status := "revoked" }) })

/-- The credentials, the live rotation and the open grants of a device. -/
def revokeAccess (tenantId deviceId : String) (now : Timestamp) :
    Program Log Unit := do
  let _ ← inCollectors (Devices.updateCredentials
    (fun row => row.ofDevice tenantId deviceId && row.revokedAt.isNone)
    fun row => { row with revokedAt := some now })
  let _ ← inCollectors (Devices.updateRotations
    (fun row => row.ofDevice tenantId deviceId && row.status.live)
    fun row => { row with
      status := .cancelled, cancelledAt := some now, envelope := none })
  let _ ← updateGrants
    (fun row =>
      (row.tenantId = tenantId ∧ row.expectedDeviceId = some deviceId : Bool) &&
        row.usedAt.isNone)
    fun row => { row with revokedAt := some now }

/-- `revoke_device`. -/
def revokeDevice (tenantId deviceId : String) (now : Timestamp) :
    Program Log Unit := do
  let count ← retireDevice tenantId deviceId
  if count = 1 then revokeAccess tenantId deviceId now

end Enrollment

/-! ## Retention -/

section Retention

variable {Log : Type} (deployment : Deployment Log)

/-- `_policy_days`. -/
def policyDays (appliance : Appliance Log) (tenantId : String) : Int :=
  match appliance.retentionPolicies.find? fun row => row.tenantId = tenantId with
  | some row => row.telemetryDays
  | none => 90

/-- `_validate_days`. -/
def validateDays (telemetryDays : Int) : Except AccessError Unit :=
  if 30 ≤ telemetryDays ∧ telemetryDays ≤ 3650 then .ok ()
  else .error (.retention
    "telemetry retention must be between 30 and 3650 days")

/-- The transaction of `set_policy`. -/
def setPolicy (principal : SessionPrincipal) (telemetryDays : Int)
    (now : Timestamp) : Program Log Unit := do
  Transaction.ofExcept (validateDays telemetryDays)
  let appliance ← get
  let previous := policyDays appliance principal.tenantId
  Transaction.ofExcept (validateDays previous)
  modify fun stored => { stored with
    retentionPolicies :=
      ⟨principal.tenantId, telemetryDays, principal.userId, now⟩ ::
        stored.retentionPolicies.filter fun row =>
          row.tenantId ≠ principal.tenantId }
  audit deployment.cases.append (record principal.tenantId
    "retention.policy_changed" "user" principal.userId "retention_policy"
    principal.tenantId
    { members := [("from_days", .int previous), ("to_days", .int telemetryDays)] }
    now)

/-- `status IN ('succeeded', 'dead') AND updated_at < ?`. -/
def terminalJob (tenantId : String) (cutoff : Timestamp)
    (row : Store.JobRow) : Bool :=
  row.tenantId = tenantId ∧ (row.status = .succeeded ∨ row.status = .dead) ∧
    row.updatedAt < cutoff

/-- The old events without a job and without an alert. -/
def unreferencedEvent (tenantId : String) (cutoff : Timestamp)
    (jobs : List Store.JobRow) (alerts : List Store.AlertRow)
    (row : Store.EventRow) : Bool :=
  (row.tenantId = tenantId ∧ row.receivedAt < cutoff : Bool) &&
    !jobs.any (fun job => job.tenantId = row.tenantId ∧ job.eventId = row.eventId) &&
    !alerts.any fun alert =>
      alert.tenantId = row.tenantId ∧ alert.eventId = row.eventId

/-- A job or an alert refers to an event that is to be deleted: the foreign
keys of `detection_jobs` and of `alerts`. -/
def dangles (selected : Store.EventRow → Bool) (events : List Store.EventRow)
    (jobs : List Store.JobRow) (alerts : List Store.AlertRow) : Bool :=
  events.any fun row => selected row &&
    (jobs.any (fun job => row.hasKey job.tenantId job.eventId) ||
      alerts.any fun alert => row.hasKey alert.tenantId alert.eventId)

/-- The two `DELETE` statements of `apply` and their row counts. -/
def purge (tenantId : String) (cutoff : Timestamp) : Program Log (Nat × Nat) :=
  fun appliance =>
    let jobs := appliance.jobs.deleteWhere (terminalJob tenantId cutoff)
    let selected := unreferencedEvent tenantId cutoff jobs.rows
      appliance.alerts.rows
    if dangles selected appliance.events.rows jobs.rows appliance.alerts.rows then
      .error (.integrity "FOREIGN KEY constraint failed")
    else
      .ok ((appliance.jobs.rows.countP (terminalJob tenantId cutoff),
          appliance.events.rows.countP selected),
        { appliance with jobs, events := appliance.events.deleteWhere selected })

/-- The events `_preview` counts: old, without an alert, and without a job that
is not terminal or not old. -/
def previewedEvent (tenantId : String) (cutoff : Timestamp)
    (jobs : List Store.JobRow) (alerts : List Store.AlertRow)
    (row : Store.EventRow) : Bool :=
  (row.tenantId = tenantId ∧ row.receivedAt < cutoff : Bool) &&
    !alerts.any (fun alert =>
      alert.tenantId = row.tenantId ∧ alert.eventId = row.eventId) &&
    !jobs.any fun job =>
      job.tenantId = row.tenantId ∧ job.eventId = row.eventId ∧
        ¬ ((job.status = .succeeded ∨ job.status = .dead) ∧
          job.updatedAt < cutoff)

/-- The two counts of `_preview`, made before anything is deleted. -/
def preview (appliance : Appliance Log) (tenantId : String)
    (cutoff : Timestamp) : Nat × Nat :=
  (appliance.jobs.rows.countP (terminalJob tenantId cutoff),
    appliance.events.rows.countP (previewedEvent tenantId cutoff
      appliance.jobs.rows appliance.alerts.rows))

def insertRun (row : RetentionRunRow) : Program Log Unit := fun appliance =>
  match appliance.retentionRuns.insert row with
  | some retentionRuns => .ok ((), { appliance with retentionRuns })
  | none => .error (.integrity "UNIQUE constraint failed: retention_runs")

/-- The transaction of `apply`. -/
def applyRetention (principal : SessionPrincipal) (draw : Draw) :
    Program Log Unit := do
  let appliance ← get
  let telemetryDays := policyDays appliance principal.tenantId
  Transaction.ofExcept (validateDays telemetryDays)
  let cutoff := draw.now - Devices.days telemetryDays
  let deleted ← purge principal.tenantId cutoff
  Transaction.require (deleted = preview appliance principal.tenantId cutoff)
    (.retention "retention counts changed inside the locked transaction")
  insertRun ⟨principal.tenantId, draw.id, cutoff, deleted.1, deleted.2,
    principal.userId, draw.now⟩
  audit deployment.cases.append (record principal.tenantId "retention.applied"
    "user" principal.userId "retention_run" draw.id
    { members := [("cutoff_at", .str (utcText cutoff)),
        ("telemetry_days", .int telemetryDays),
        ("terminal_jobs_deleted", .int deleted.1),
        ("unreferenced_events_deleted", .int deleted.2)] } draw.now)

end Retention

end Access

end ControlForge
