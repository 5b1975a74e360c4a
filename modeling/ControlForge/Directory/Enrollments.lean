import ControlForge.Directory.Claiming
import ControlForge.Directory.Origins

/-!
# Enrollment grants are used once

A grant creates one device with one credential.  `Known` says what the records
keep of a claim, and every later claim of the grant is answered from it;
`Closed` says when a grant is claimed no more, and lasts.
-/

namespace ControlForge

namespace Directory

namespace Enrollments

open Access
open Devices (AuthenticatedDevice CredentialRow DeviceRow)

variable {Log : Type} {services : Services Log}

/-! ## Claims -/

/-- A claim that created a device with a credential of the grant. -/
def creates (tokenId : String) : Event → Bool
  | .claimed claim => claim.created && (claim.tokenId = tokenId : Bool)
  | _ => false

/-- The first credential of its device. -/
def isInitial (records : Records Log) (row : CredentialRow) : Prop :=
  row ∈ records.credentials.rows ∧ row.credentialId ∈ records.initialCredentials

/-- Devices are told apart, and each has one first credential at most. -/
structure Settled (records : Records Log) : Prop where
  distinct : (records.devices.map DeviceRow.key).Nodup
  initial : ∀ credentialId ∈ records.initialCredentials,
    ∃ row ∈ records.credentials.rows, row.credentialId = credentialId ∧
      row.deviceKey ∈ records.devices.map DeviceRow.key
  once : ∀ left right, isInitial records left → isInitial records right →
    left.deviceKey = right.deviceKey → left = right

/-- What the records keep of a claim. -/
structure Known (services : Services Log) (records : Records Log)
    (claim : Claimed) : Prop where
  grant : ∃ row ∈ records.grants.rows, row.tokenId = claim.tokenId ∧
    row.tenantId = claim.credential.tenantId ∧ row.usedAt.isSome = true ∧
    row.claimedDeviceId = some claim.credential.deviceId
  credential : ∃ row, isInitial records row ∧
    row.credentialId = claim.credential.credentialId ∧
    row.deviceKey = claim.credential.deviceKey ∧
    row.expiresAt = claim.credential.expiresAt ∧
    services.rotations.authenticator.resolve row.credentialId
      row.secretCiphertext row.secretIv = some claim.credential.secret

/-- The device has been used or retired, or its first credential is revoked. -/
def DeviceClosed (records : Records Log) (key : String × String) : Prop :=
  Spent DeviceRow.key DeviceRow.ended records.devices key ∨
    ∃ row, isInitial records row ∧ row.deviceKey = key ∧
      row.revokedAt.isSome = true

/-- A grant that is claimed no more. -/
def Closed (records : Records Log) (tokenId : String) : Prop :=
  ∃ grant ∈ records.grants.rows, grant.tokenId = tokenId ∧
    (grant.revokedAt.isSome = true ∨
      ∃ deviceId, grant.usedAt.isSome = true ∧
        grant.claimedDeviceId = some deviceId ∧
        DeviceClosed records (grant.tenantId, deviceId))

section Uniqueness

variable {records : Records Log}

theorem grant_unique {left right : GrantRow}
    (leftStored : left ∈ records.grants.rows)
    (rightStored : right ∈ records.grants.rows)
    (same : left.tokenId = right.tokenId) : left = right :=
  Table.eq_of_clash leftStored rightStored (decide_eq_true (.inl same))
    (decide_eq_true (.inl same.symm))

theorem credential_unique {left right : CredentialRow}
    (leftStored : left ∈ records.credentials.rows)
    (rightStored : right ∈ records.credentials.rows)
    (same : left.credentialId = right.credentialId) : left = right :=
  Table.eq_of_clash leftStored rightStored (decide_eq_true same)
    (decide_eq_true same.symm)

/-- All claims of a grant are answered with the same credential. -/
theorem Known.same (settled : Settled records) {earlier later : Claimed}
    (known : Known services records earlier)
    (alsoKnown : Known services records later)
    (sameToken : later.tokenId = earlier.tokenId) :
    later.credential = earlier.credential := by
  obtain ⟨grant, stored, isToken, isTenant, -, isDevice⟩ := known.grant
  obtain ⟨other, alsoStored, alsoToken, alsoTenant, -, alsoDevice⟩ :=
    alsoKnown.grant
  have sameGrant : other = grant := by
    refine grant_unique alsoStored stored ?_
    rw [alsoToken, isToken, sameToken]
  rw [sameGrant] at alsoTenant alsoDevice
  have sameTenant : later.credential.tenantId = earlier.credential.tenantId :=
    alsoTenant.symm.trans isTenant
  have sameDevice : later.credential.deviceId = earlier.credential.deviceId :=
    Option.some.inj (alsoDevice.symm.trans isDevice)
  obtain ⟨row, initial, isId, isKey, expires, secret⟩ := known.credential
  obtain ⟨next, alsoInitial, alsoId, alsoKey, alsoExpires, alsoSecret⟩ :=
    alsoKnown.credential
  have sameRow : next = row := by
    refine settled.once next row alsoInitial initial ?_
    rw [alsoKey, isKey, EnrolledCredential.deviceKey, sameTenant, sameDevice]
    rfl
  rw [sameRow] at alsoId alsoExpires alsoSecret
  have sameId := alsoId.symm.trans isId
  have sameExpiry := alsoExpires.symm.trans expires
  have sameSecret := Option.some.inj (alsoSecret.symm.trans secret)
  cases later with
  | mk tokenId created credential =>
      cases credential
      cases earlier with
      | mk tokenId created credential =>
          cases credential
          simp_all

end Uniqueness

/-! ## What a step leaves -/

/-- No grant, credential or device is forgotten. -/
structure EnrollmentStep (before after : Records Log) : Prop where
  grants : Developed GrantRow.Develops before.grants.rows after.grants.rows
  credentials : Developed CredentialRow.Develops before.credentials.rows
    after.credentials.rows
  keys : Lasts (fun rows key => key ∈ rows.map DeviceRow.key) before.devices
    after.devices
  devices : Retained DeviceRow.key DeviceRow.ended before.devices after.devices
  initial : before.initialCredentials ⊆ after.initialCredentials

section Step

variable {before after : Records Log} {request : ClaimRequest} {draw : Draw}
  {grant : GrantRow}

theorem EnrollmentStep.of_touches {parts : List Part}
    (touches : Touches parts before after) (grants : .grantHistory ∉ parts)
    (credentials : .credentialHistory ∉ parts) (keys : .deviceKeys ∉ parts)
    (devices : .spentDevices ∉ parts) (initial : .initialCredentials ∉ parts) :
    EnrollmentStep before after where
  grants := touches .grantHistory grants
  credentials := touches .credentialHistory credentials
  keys := touches .deviceKeys keys
  devices := touches .spentDevices devices
  initial := by
    have same : after.initialCredentials = before.initialCredentials :=
      touches .initialCredentials initial
    rw [same]
    exact List.Subset.refl _

theorem EnrollmentStep.initialRow (step : EnrollmentStep before after)
    {row : CredentialRow} (initial : isInitial before row) :
    ∃ later, isInitial after later ∧ row.Develops later := by
  obtain ⟨later, stored, develops⟩ := step.credentials.row initial.1
  refine ⟨later, ⟨stored, ?_⟩, develops⟩
  rw [develops.credentialId]
  exact step.initial initial.2

theorem EnrollmentStep.known (step : EnrollmentStep before after)
    {claim : Claimed} (known : Known services before claim) :
    Known services after claim := by
  obtain ⟨grant, stored, isToken, isTenant, isUsed, isDevice⟩ := known.grant
  obtain ⟨row, initial, isId, isKey, expires, secret⟩ := known.credential
  constructor
  · obtain ⟨later, isLater, develops⟩ := step.grants.row stored
    obtain ⟨stillUsed, sameDevice⟩ := develops.used isUsed
    exact ⟨later, isLater, develops.tokenId.trans isToken,
      develops.tenantId.trans isTenant, stillUsed, sameDevice.trans isDevice⟩
  · obtain ⟨later, isLater, develops⟩ := step.initialRow initial
    refine ⟨later, isLater, develops.credentialId.trans isId,
      develops.deviceKey.trans isKey, develops.expiresAt.trans expires, ?_⟩
    rw [develops.credentialId, develops.secretCiphertext, develops.secretIv]
    exact secret

theorem EnrollmentStep.deviceClosed (step : EnrollmentStep before after)
    {key : String × String} (closed : DeviceClosed before key) :
    DeviceClosed after key := by
  rcases closed with spent | ⟨row, initial, isKey, isRevoked⟩
  · exact .inl (step.devices.spent key spent)
  · obtain ⟨later, isLater, develops⟩ := step.initialRow initial
    exact .inr ⟨later, isLater, develops.deviceKey.trans isKey,
      develops.revoked isRevoked⟩

/-- What is closed stays closed. -/
theorem EnrollmentStep.closed (step : EnrollmentStep before after)
    {tokenId : String} (closed : Closed before tokenId) :
    Closed after tokenId := by
  obtain ⟨grant, stored, isToken, isClosed⟩ := closed
  obtain ⟨later, isLater, develops⟩ := step.grants.row stored
  refine ⟨later, isLater, develops.tokenId.trans isToken, ?_⟩
  rcases isClosed with isRevoked | ⟨deviceId, isUsed, isDevice, device⟩
  · exact .inl (develops.revoked isRevoked)
  · obtain ⟨stillUsed, sameDevice⟩ := develops.used isUsed
    refine .inr ⟨deviceId, stillUsed, sameDevice.trans isDevice, ?_⟩
    rw [develops.tenantId]
    exact step.deviceClosed device

/-- A step that enrolls nobody keeps the first credentials apart. -/
theorem EnrollmentStep.settled (step : EnrollmentStep before after)
    (settled : Settled before)
    (same : after.initialCredentials = before.initialCredentials) :
    Settled after := by
  -- A first credential after the step is what one has become.
  have ancestor : ∀ row, isInitial after row →
      ∃ old, isInitial before old ∧ old.Develops row := by
    rintro row ⟨stored, named⟩
    rw [same] at named
    obtain ⟨old, isOld, isId, -⟩ := settled.initial _ named
    obtain ⟨later, isLater, develops⟩ := step.credentials.row isOld
    have isRow : later = row :=
      credential_unique isLater stored (develops.credentialId.trans isId)
    rw [isRow] at develops
    exact ⟨old, ⟨isOld, isId ▸ named⟩, develops⟩
  refine ⟨step.devices.distinct settled.distinct, ?_, ?_⟩
  · intro credentialId named
    rw [same] at named
    obtain ⟨old, isOld, isId, isKey⟩ := settled.initial _ named
    obtain ⟨later, isLater, develops⟩ := step.credentials.row isOld
    refine ⟨later, isLater, develops.credentialId.trans isId, ?_⟩
    rw [develops.deviceKey]
    exact step.keys _ isKey
  · intro left right leftInitial rightInitial sameKey
    obtain ⟨leftOld, leftWas, leftDevelops⟩ := ancestor left leftInitial
    obtain ⟨rightOld, rightWas, rightDevelops⟩ := ancestor right rightInitial
    have sameOld : leftOld = rightOld := by
      refine settled.once _ _ leftWas rightWas ?_
      rw [← leftDevelops.deviceKey, ← rightDevelops.deviceKey, sameKey]
    refine credential_unique leftInitial.1 rightInitial.1 ?_
    rw [leftDevelops.credentialId, rightDevelops.credentialId, sameOld]

/-! ## First claims -/

/-- The device of a first claim was unknown. -/
theorem device_unknown
    (enrolled : Enrolled services request draw grant before after) :
    (grant.tenantId, request.deviceId) ∉ before.devices.map DeviceRow.key := by
  intro member
  obtain ⟨row, stored, isKey⟩ := List.mem_map.mp member
  exact enrolled.newDevice row stored isKey

theorem enrolled_step
    (enrolled : Enrolled services request draw grant before after)
    (touches : Touches claimTables before after) :
    EnrollmentStep before after where
  grants := touches .grantHistory (by simp)
  credentials := touches .credentialHistory (by simp)
  keys := touches .deviceKeys (by simp)
  devices := by
    rw [enrolled.devices]
    exact Retained.insert enrolled.newDevice
  initial := by
    rw [enrolled.initial]
    exact List.subset_append_left _ _

/-- The first credentials after a first claim. -/
theorem initialRow_enrolled
    (enrolled : Enrolled services request draw grant before after)
    {row : CredentialRow} (initial : isInitial after row) :
    (isInitial before row ∧ row.credentialId ≠ draw.id) ∨
      row = enrolledCredential services.toDeployment grant.tenantId
        request.toClaimInput draw.toDraw := by
  obtain ⟨stored, named⟩ := initial
  rw [enrolled.credentials] at stored
  rw [enrolled.initial] at named
  rcases List.mem_append.mp stored with old | isNew
  · have isOther := enrolled.newCredential row old
    rcases List.mem_append.mp named with oldName | newName
    · exact .inl ⟨⟨old, oldName⟩, isOther⟩
    · exact absurd (List.mem_singleton.mp newName) isOther
  · exact .inr (List.mem_singleton.mp isNew)

/-- A first claim adds a device that was unknown, with its credential. -/
theorem settled_enrolled
    (enrolled : Enrolled services request draw grant before after)
    (step : EnrollmentStep before after) (settled : Settled before) :
    Settled after := by
  have devices : after.devices.map DeviceRow.key =
      before.devices.map DeviceRow.key ++
        [(grant.tenantId, request.deviceId)] := by
    rw [enrolled.devices, List.map_append]
    rfl
  -- The device of an older first credential was known.
  have known : ∀ row, isInitial before row →
      row.deviceKey ≠ (grant.tenantId, request.deviceId) := by
    rintro row ⟨stored, named⟩ isKey
    obtain ⟨other, otherStored, sameId, isKnown⟩ := settled.initial _ named
    rw [credential_unique otherStored stored sameId, isKey] at isKnown
    exact device_unknown enrolled isKnown
  refine ⟨step.devices.distinct settled.distinct, ?_, ?_⟩
  · intro credentialId named
    rw [enrolled.initial] at named
    rcases List.mem_append.mp named with old | isNew
    · obtain ⟨row, stored, isId, isKey⟩ := settled.initial _ old
      refine ⟨row, ?_, isId, step.keys _ isKey⟩
      rw [enrolled.credentials]
      exact List.mem_append_left _ stored
    · refine ⟨enrolledCredential services.toDeployment grant.tenantId
        request.toClaimInput draw.toDraw, ?_,
        (List.mem_singleton.mp isNew).symm, ?_⟩
      · rw [enrolled.credentials]
        exact List.mem_append_right _ (List.mem_singleton_self _)
      · rw [devices]
        exact List.mem_append_right _ (List.mem_singleton_self _)
  · intro left right leftInitial rightInitial sameKey
    rcases initialRow_enrolled enrolled leftInitial with ⟨leftOld, -⟩ | rfl
    · rcases initialRow_enrolled enrolled rightInitial with ⟨rightOld, -⟩ | rfl
      · exact settled.once left right leftOld rightOld sameKey
      · exact absurd sameKey (known left leftOld)
    · rcases initialRow_enrolled enrolled rightInitial with ⟨rightOld, -⟩ | rfl
      · exact absurd sameKey.symm (known right rightOld)
      · rfl

end Step

/-! ## Every claim -/

section Claims

variable {before after : Records Log} {request : ClaimRequest} {draw : Draw}
  {claim : Claimed}

/-- The cipher returns what it was given. -/
def Resolves (services : Services Log) : Prop :=
  ∀ credentialId secret iv,
    services.rotations.authenticator.resolve credentialId
      (services.rotations.encrypt credentialId secret iv).1
      (services.rotations.encrypt credentialId secret iv).2 = some secret

/-- A claim and what it leaves. -/
theorem known_of_claim (resolves : Resolves services)
    (ran : claimGrant services request draw before = .ok (claim, after)) :
    Known services after claim ∧
      claim.credential.deviceId = request.deviceId := by
  obtain ⟨grant, found, isToken, outcome⟩ := claimGrant_ok ran
  rcases outcome with ⟨isUsed, -, rfl, resumed⟩ | ⟨-, -, enrolled, answer⟩
  · obtain ⟨credential, isResumable, secret, answer⟩ := resumed.answered
    obtain ⟨stored, isKey, named⟩ := initialCredential_ok isResumable.initial
    have sameDevice : claim.credential.deviceId = request.deviceId := by
      rw [answer]
    refine ⟨⟨⟨grant, found.stored, isToken.symm, ?_, isUsed, ?_⟩,
      ⟨credential, ⟨stored, named⟩, ?_, ?_, ?_, secret⟩⟩, sameDevice⟩
    · rw [answer]
    · rw [sameDevice]
      exact resumed.claimed
    · rw [answer]
    · rw [isKey, answer]
      rfl
    · rw [answer]
  · obtain ⟨row, stored, sameToken, sameTenant, isUsed, isDevice⟩ :=
      enrolled.used
    rw [answer]
    refine ⟨⟨⟨row, stored, sameToken.trans isToken.symm, ?_, isUsed, ?_⟩,
      ⟨enrolledCredential services.toDeployment grant.tenantId
        request.toClaimInput draw.toDraw, ⟨?_, ?_⟩, ?_, ?_, ?_, ?_⟩⟩, rfl⟩
    · rw [answer, sameTenant]
    · rw [answer, isDevice]
    · rw [enrolled.credentials]
      exact List.mem_append_right _ (List.mem_singleton_self _)
    · rw [enrolled.initial]
      exact List.mem_append_right _ (List.mem_singleton_self _)
    · rw [answer]
      rfl
    · rw [answer]
      rfl
    · rw [answer]
      rfl
    · rw [answer]
      exact resolves _ _ _

/-- A grant that is closed is not claimed. -/
theorem not_closed (settled : Settled before)
    (ran : claimGrant services request draw before = .ok (claim, after)) :
    ¬ Closed before claim.tokenId := by
  rintro ⟨row, stored, isRow, isClosed⟩
  obtain ⟨grant, found, isToken, outcome⟩ := claimGrant_ok ran
  have isGrant : row = grant :=
    grant_unique stored found.stored (isRow.trans isToken)
  rw [isGrant] at isClosed
  rcases isClosed with isRevoked | ⟨deviceId, isUsed, isDevice, closed⟩
  · rw [found.unrevoked] at isRevoked
    cases isRevoked
  · rcases outcome with ⟨-, -, -, resumed⟩ | ⟨unused, -⟩
    · have sameDevice : request.deviceId = deviceId :=
        Option.some.inj (resumed.claimed.symm.trans isDevice)
      obtain ⟨credential, isResumable, -⟩ := resumed.answered
      rcases closed with spent | ⟨first, initial, isKey, isRevoked⟩
      · obtain ⟨device, isStored, isKey, notEnded⟩ := isResumable.device
        rw [sameDevice] at isKey
        rw [spent.2 device isStored isKey] at notEnded
        cases notEnded
      · obtain ⟨isStored, sameKey, named⟩ :=
          initialCredential_ok isResumable.initial
        rw [sameDevice] at sameKey
        have same : first = credential := settled.once first credential initial
          ⟨isStored, named⟩ (isKey.trans sameKey.symm)
        rw [same, isResumable.unrevoked] at isRevoked
        cases isRevoked
    · rw [unused] at isUsed
      cases isUsed

/-- A grant that was claimed creates nothing more. -/
theorem not_created {earlier : Claimed}
    (known : Known services before earlier)
    (ran : claimGrant services request draw before = .ok (claim, after))
    (sameToken : claim.tokenId = earlier.tokenId) : claim.created = false := by
  obtain ⟨row, stored, isRow, -, isUsed, -⟩ := known.grant
  obtain ⟨grant, found, isToken, outcome⟩ := claimGrant_ok ran
  rcases outcome with ⟨-, resumed, -⟩ | ⟨unused, -⟩
  · exact resumed
  · have isGrant : row = grant := by
      refine grant_unique stored found.stored ?_
      rw [isRow, ← isToken, sameToken]
    rw [isGrant, unused] at isUsed
    cases isUsed

end Claims

/-! ## What closes a grant -/

/-- The device of the claim is seen or revoked, or its credential is. -/
inductive Closes (claim : Claimed) : Point → List Event → Prop
  | seen {point : Point} {events : List Event} {device : AuthenticatedDevice}
      (member : .deviceSeen device ∈ events)
      (isOwn : device.credentialId = claim.credential.credentialId ∨
        device.key = claim.credential.deviceKey) :
      Closes claim point events
  | deviceRevoked {tenantId deviceId : String} {events : List Event}
      (isDevice : claim.credential.deviceKey = (tenantId, deviceId)) :
      Closes claim (.called (.revokeDevice tenantId deviceId)) events
  | credentialRevoked {tenantId deviceId : String} {events : List Event}
      (isDevice : claim.credential.deviceKey = (tenantId, deviceId)) :
      Closes claim (.called (.revokeCredential tenantId deviceId
        claim.credential.credentialId)) events

section Closing

variable {records after : Records Log} {claim : Claimed} {now : Timestamp}
  {tenantId deviceId credentialId : String}

theorem Known.closed (known : Known services records claim)
    (closed : DeviceClosed records claim.credential.deviceKey) :
    Closed records claim.tokenId := by
  obtain ⟨grant, stored, isToken, isTenant, isUsed, isDevice⟩ := known.grant
  refine ⟨grant, stored, isToken, .inr ⟨_, isUsed, isDevice, ?_⟩⟩
  rw [isTenant]
  exact closed

/-- The device of a claim is stored. -/
theorem Known.stored (settled : Settled records)
    (known : Known services records claim) :
    claim.credential.deviceKey ∈ records.devices.map DeviceRow.key := by
  obtain ⟨row, ⟨stored, named⟩, -, isKey, -⟩ := known.credential
  obtain ⟨other, otherStored, sameId, isStored⟩ := settled.initial _ named
  rw [credential_unique otherStored stored sameId, isKey] at isStored
  exact isStored

/-- A revoked device has ended, and its grants and credentials with it. -/
theorem revokeDevice_ok
    (ran : revokeDevice tenantId deviceId now records.toAppliance =
      .ok ((), after.toAppliance))
    (stored : (tenantId, deviceId) ∈ records.devices.map DeviceRow.key) :
    Spent DeviceRow.key DeviceRow.ended after.devices (tenantId, deviceId) := by
  obtain ⟨count, retired, retiring, revoking⟩ := Transaction.run_bind_ok.mp ran
  have spent : Spent DeviceRow.key DeviceRow.ended retired.devices
      (tenantId, deviceId) := by
    cases retiring
    obtain ⟨row, isStored, isKey⟩ := List.mem_map.mp stored
    constructor
    · refine ⟨_, List.mem_map_of_mem isStored, ?_⟩
      unfold Table.applyWhere
      split <;> exact isKey
    · intro row member isKey
      obtain ⟨old, -, rfl⟩ := List.mem_map.mp member
      unfold Table.applyWhere at isKey ⊢
      split at isKey
      · next isChosen =>
          rw [if_pos isChosen]
          simp [DeviceRow.ended]
      · next notChosen =>
          rw [if_neg notChosen]
          obtain ⟨isTenant, isDevice⟩ := Prod.mk.inj isKey
          have isRevoked : old.status = "revoked" := by
            simpa [isTenant, isDevice] using notChosen
          simp [DeviceRow.ended, isRevoked]
  split at revoking
  · have touched := touchesIn_revokeAccess _ _ _ _ _ _ revoking
    exact (touched .spentDevices (by simp)).spent _ spent
  · cases revoking
    exact spent

theorem revokeCredential_ok {result : Bool} {before after : Devices.Database}
    (ran : Devices.revokeCredentialTransaction tenantId deviceId credentialId
      now before = .ok (result, after)) {row : CredentialRow}
    (stored : row ∈ before.credentials.rows)
    (isId : row.credentialId = credentialId)
    (isDevice : row.deviceKey = (tenantId, deviceId)) :
    ∃ later ∈ after.credentials.rows, later.credentialId = credentialId ∧
      later.revokedAt.isSome = true := by
  obtain ⟨_, _, read, requiring⟩ := Transaction.run_bind_ok.mp ran
  cases read
  obtain ⟨_, _, required, updating⟩ := Transaction.run_bind_ok.mp requiring
  obtain ⟨-, rfl⟩ := Transaction.run_require_ok.mp required
  obtain ⟨count, _, updated, returned⟩ := Transaction.run_bind_ok.mp updating
  cases returned
  unfold Devices.updateCredentials at updated
  split at updated
  · next count credentials isUpdated =>
      cases updated
      have rows := (Table.updateWhere_eq_ok.mp isUpdated).2.1
      obtain ⟨isTenant, isOwn⟩ := Prod.mk.inj isDevice
      cases isRevoked : row.revokedAt with
      | none =>
          refine ⟨{ row with revokedAt := some now }, ?_, isId, rfl⟩
          change _ ∈ credentials.rows
          rw [rows]
          refine List.mem_map.mpr ⟨row, stored, Table.applyWhere_selected ?_⟩
          simp [CredentialRow.ofDevice, isTenant, isOwn, isId, isRevoked]
      | some moment =>
          refine ⟨row, ?_, isId, by rw [isRevoked]; rfl⟩
          change _ ∈ credentials.rows
          rw [rows]
          refine List.mem_map.mpr ⟨row, stored, Table.applyWhere_unselected ?_⟩
          simp [isRevoked]
  · cases updated

/-- A grant that was not used is revoked. -/
theorem revokeGrant_ok {tokenId : String} {count : Nat}
    (ran : revokeGrant tenantId tokenId now records = .ok (count, after))
    {grant : GrantRow} (stored : grant ∈ records.grants.rows)
    (isTenant : grant.tenantId = tenantId) (isToken : grant.tokenId = tokenId)
    (unused : grant.usedAt = none) : Closed after tokenId := by
  obtain ⟨appliance, updated, rfl⟩ := inAppliance_ok ran
  have rows := (updateGrants_rows updated).2
  cases isRevoked : grant.revokedAt with
  | none =>
      refine ⟨{ grant with revokedAt := some now }, ?_, isToken, .inl rfl⟩
      change _ ∈ appliance.grants.rows
      rw [rows]
      refine List.mem_map.mpr ⟨grant, stored, Table.applyWhere_selected ?_⟩
      simp [isTenant, isToken, unused, isRevoked]
  | some moment =>
      refine ⟨grant, ?_, isToken, .inl (by rw [isRevoked]; rfl)⟩
      change _ ∈ appliance.grants.rows
      rw [rows]
      refine List.mem_map.mpr ⟨grant, stored, Table.applyWhere_unselected ?_⟩
      simp [isRevoked]

end Closing

/-! ## Every step -/

section Points

variable {records after : Records Log} {draw : Draw} {point next : Point}
  {effect : Effect}

/-- Grants, credentials and devices are kept, and first credentials stay
apart. -/
structure Keeps (before after : Records Log) : Prop where
  step : EnrollmentStep before after
  settled : Settled before → Settled after

theorem Keeps.of_touches {parts : List Part} {before after : Records Log}
    (touches : Touches parts before after) (grants : .grantHistory ∉ parts)
    (credentials : .credentialHistory ∉ parts) (keys : .deviceKeys ∉ parts)
    (devices : .spentDevices ∉ parts) (initial : .initialCredentials ∉ parts) :
    Keeps before after := by
  have step := EnrollmentStep.of_touches touches grants credentials keys devices
    initial
  exact ⟨step, fun settled =>
    step.settled settled (touches .initialCredentials initial)⟩

theorem Keeps.refl (records : Records Log) : Keeps records records := by
  have touches : Touches [] records records := Std.Refl.refl _
  refine .of_touches touches ?_ ?_ ?_ ?_ ?_ <;> simp

theorem keeps_claim {request : ClaimRequest} {claim : Claimed}
    (ran : claimGrant services request draw records = .ok (claim, after)) :
    Keeps records after := by
  obtain ⟨grant, -, -, outcome⟩ := claimGrant_ok ran
  rcases outcome with ⟨-, -, rfl, -⟩ | ⟨-, -, enrolled, -⟩
  · exact .refl _
  · have step := enrolled_step enrolled (touches_claimGrant services _ _ _ _ _ ran)
    exact ⟨step, settled_enrolled enrolled step⟩

theorem keeps_step
    (moved : resume services draw point records = (next, after, effect)) :
    Keeps records after := by
  have touches := (resume_moved moved).touches
  cases point with
  | called call =>
      cases call with
      | claimGrant request =>
          rcases (finish_eq moved).2 with ⟨claim, ran, -⟩ | ⟨rfl, -⟩
          · exact keeps_claim ran
          · exact .refl _
      | _ => refine .of_touches touches ?_ ?_ ?_ ?_ ?_ <;> simp
  | _ => refine .of_touches touches ?_ ?_ ?_ ?_ ?_ <;> simp

/-- A claim is the only one of its step. -/
theorem claimed_step
    (moved : resume services draw point records = (next, after, effect))
    {claim : Claimed} (member : .claimed claim ∈ effect.events) :
    effect.events = claimEvents claim ∧ ∃ request,
      point = .called (.claimGrant request) ∧
        claimGrant services request draw records = .ok (claim, after) := by
  obtain ⟨request, rfl, ran⟩ := resume_origin moved member
  refine ⟨?_, request, rfl, ran⟩
  rcases (finish_eq moved).2 with ⟨other, succeeded, rfl⟩ | ⟨-, rfl⟩
  · rw [ran] at succeeded
    cases succeeded
    rfl
  · cases member

/-- What closes a claimed grant. -/
theorem closed_step (settled : Settled records) {claim : Claimed}
    (known : Known services records claim) {events : List Event}
    (moved : resume services draw point records =
      (next, after, .committed events))
    (closes : Closes claim point events) : Closed after claim.tokenId := by
  have keeps := keeps_step moved
  refine (keeps.step.known known).closed ?_
  have stored := known.stored settled
  cases closes with
  | @seen _ _ device member isOwn =>
      obtain ⟨request, call, collectors, rfl, authenticated, rfl⟩ :=
        resume_origin moved member
      obtain ⟨-, seen⟩ := Devices.authenticate_ok authenticated
      have isKey : device.key = claim.credential.deviceKey := by
        rcases isOwn with sameId | sameKey
        · obtain ⟨row, isStored, isId, isKey⟩ := seen.credential
          obtain ⟨first, initial, isFirst, firstKey, -⟩ := known.credential
          have same : first = row := by
            refine credential_unique initial.1 isStored ?_
            rw [isFirst, isId, sameId]
          rw [← firstKey, same, isKey]
        · exact sameKey
      refine .inl ⟨List.mem_map.mp (keeps.step.keys _ stored), ?_⟩
      intro row member sameKey
      exact seen.used row member (sameKey.trans isKey.symm)
  | @deviceRevoked tenantId deviceId _ isDevice =>
      rcases (finish_eq moved).2 with ⟨_, ran, -⟩ | ⟨-, refused⟩
      · obtain ⟨appliance, revoked, rfl⟩ := inAppliance_ok ran
        rw [isDevice] at stored ⊢
        exact .inl (revokeDevice_ok revoked stored)
      · cases refused
  | @credentialRevoked tenantId deviceId _ isDevice =>
      rcases (finish_eq moved).2 with ⟨_, ran, -⟩ | ⟨-, refused⟩
      · obtain ⟨appliance, revoked, rfl⟩ := inAppliance_ok ran
        unfold inCollectors at revoked
        split at revoked
        · next collectors revoking =>
            cases revoked
            obtain ⟨row, initial, isId, isKey, -⟩ := known.credential
            obtain ⟨later, isLater, develops⟩ := keeps.step.initialRow initial
            obtain ⟨final, isFinal, finalId, isRevoked⟩ :=
              revokeCredential_ok revoking initial.1 isId
                (isKey.trans isDevice)
            have same : later = final := by
              refine credential_unique isLater.1 isFinal ?_
              rw [develops.credentialId, isId, finalId]
            exact .inr ⟨later, isLater, develops.deviceKey.trans isKey,
              same ▸ isRevoked⟩
        · cases revoked
      · cases refused

end Points

/-! ## Runs -/

/-- Every claim that was reported is known, and created something at most
once. -/
structure Recorded (services : Services Log) (events : List Event)
    (records : Records Log) : Prop where
  settled : Settled records
  known : ∀ claim, .claimed claim ∈ events → Known services records claim
  once : ∀ tokenId, events.countP (creates tokenId) ≤ 1

/-- What a claim that succeeds is answered with, and what it writes. -/
structure Answers (events : List Event) (draw : Draw) (point : Point)
    (before after : Records Log) (claim : Claimed) : Prop where
  asked : ∃ request grant, point = .called (.claimGrant request) ∧
    ClaimFound request draw.now before grant ∧ claim.tokenId = grant.tokenId ∧
    claim.credential.deviceId = request.deviceId
  isOpen : ¬ Closed before claim.tokenId
  again : ∀ earlier, .claimed earlier ∈ events →
    earlier.tokenId = claim.tokenId →
      claim.created = false ∧ claim.credential = earlier.credential
  created : claim.created = true → ∃ device credential,
    after.devices = before.devices ++ [device] ∧
      after.credentials.rows = before.credentials.rows ++ [credential] ∧
      device.key = claim.credential.deviceKey ∧
      credential.deviceKey = claim.credential.deviceKey ∧
      credential.credentialId = claim.credential.credentialId
  repeated : claim.created = false → after = before

section Runs

variable {events : List Event} {records after : Records Log} {draw : Draw}
  {point next : Point} {effect : Effect}

/-- A grant that has created a device has a claim. -/
theorem claimed_of_creates {tokenId : String} {event : Event}
    (isCreation : creates tokenId event = true) :
    ∃ claim, event = .claimed claim ∧ claim.created = true ∧
      claim.tokenId = tokenId := by
  cases event with
  | claimed claim =>
      obtain ⟨created, isToken⟩ := Bool.and_eq_true_iff.mp isCreation
      exact ⟨claim, rfl, created, of_decide_eq_true isToken⟩
  | _ => cases isCreation

theorem countP_claimEvents (claim : Claimed) (tokenId : String) :
    (claimEvents claim).countP (creates tokenId) =
      if creates tokenId (.claimed claim) then 1 else 0 := by
  simp [claimEvents, creates, List.countP_cons]

/-- A step that claims nothing creates nothing. -/
theorem Recorded.quiet (recorded : Recorded services events records)
    (keeps : Keeps records after) {added : List Event}
    (unclaimed : ∀ claim, .claimed claim ∉ added) :
    Recorded services (events ++ added) after where
  settled := keeps.settled recorded.settled
  known claim member := by
    rcases List.mem_append.mp member with earlier | now
    · exact keeps.step.known (recorded.known claim earlier)
    · exact absurd now (unclaimed claim)
  once tokenId := by
    have none_ : added.countP (creates tokenId) = 0 := by
      rw [List.countP_eq_zero]
      intro event member isCreation
      obtain ⟨claim, rfl, -⟩ := claimed_of_creates isCreation
      exact unclaimed claim member
    rw [List.countP_append, none_]
    exact recorded.once tokenId

theorem Recorded.claim (resolves : Resolves services)
    (recorded : Recorded services events records) {request : ClaimRequest}
    {claim : Claimed}
    (ran : claimGrant services request draw records = .ok (claim, after)) :
    Recorded services (events ++ claimEvents claim) after where
  settled := (keeps_claim ran).settled recorded.settled
  known other member := by
    rcases List.mem_append.mp member with earlier | now
    · exact (keeps_claim ran).step.known (recorded.known other earlier)
    · simp only [claimEvents, List.mem_cons, reduceCtorEq, false_or,
        List.not_mem_nil, or_false, Event.claimed.injEq] at now
      rw [now]
      exact (known_of_claim resolves ran).1
  once tokenId := by
    rw [List.countP_append, countP_claimEvents]
    split
    · next isCreation =>
        obtain ⟨made, isMade, created, isToken⟩ :=
          claimed_of_creates isCreation
        cases isMade
        -- An earlier creation would have left the grant used.
        have first : events.countP (creates tokenId) = 0 := by
          rw [List.countP_eq_zero]
          intro event member wasCreation
          obtain ⟨earlier, rfl, -, sameToken⟩ := claimed_of_creates wasCreation
          have repeated := not_created (recorded.known earlier member) ran
            (isToken.trans sameToken.symm)
          rw [created] at repeated
          cases repeated
        omega
    · exact recorded.once tokenId

theorem recorded_step (resolves : Resolves services)
    (recorded : Recorded services events records)
    (moved : resume services draw point records = (next, after, effect)) :
    Recorded services (events ++ effect.events) after := by
  by_cases isClaim : ∃ claim, .claimed claim ∈ effect.events
  · obtain ⟨claim, member⟩ := isClaim
    obtain ⟨isEvents, request, -, ran⟩ := claimed_step moved member
    rw [isEvents]
    exact recorded.claim resolves ran
  · exact recorded.quiet (keeps_step moved) fun claim member =>
      isClaim ⟨claim, member⟩

theorem answers_step (resolves : Resolves services)
    (recorded : Recorded services events records)
    (moved : resume services draw point records = (next, after, effect))
    {claim : Claimed} (member : .claimed claim ∈ effect.events) :
    Answers events draw point records after claim := by
  obtain ⟨-, request, isPoint, ran⟩ := claimed_step moved member
  obtain ⟨known, sameDevice⟩ := known_of_claim resolves ran
  obtain ⟨grant, found, isToken, outcome⟩ := claimGrant_ok ran
  have keeps := keeps_claim ran
  refine ⟨⟨request, grant, isPoint, found, isToken, sameDevice⟩,
    not_closed recorded.settled ran, ?_, ?_, ?_⟩
  · intro earlier wasClaimed sameToken
    have wasKnown := recorded.known earlier wasClaimed
    exact ⟨not_created wasKnown ran sameToken.symm,
      (keeps.step.known wasKnown).same (keeps.settled recorded.settled) known
        sameToken.symm⟩
  · intro created
    rcases outcome with ⟨-, resumed, -⟩ | ⟨-, -, enrolled, answer⟩
    · rw [created] at resumed
      cases resumed
    · refine ⟨_, _, enrolled.devices, enrolled.credentials, ?_, ?_, ?_⟩ <;>
        rw [answer] <;> rfl
  · intro resumed
    rcases outcome with ⟨-, -, same, -⟩ | ⟨-, created, -⟩
    · exact same
    · rw [created] at resumed
      cases resumed

variable {first pool : Pool (Records Log) Point} {labels : List Label}

theorem keeps_pool {pool next : Pool (Records Log) Point} {label : Label}
    (step : (procedure services).Step pool label next) :
    Keeps pool.shared next.shared := by
  cases step with
  | begin free isStart => exact .refl _
  | drop index => exact .refl _
  | outside changed => refine .of_touches changed ?_ ?_ ?_ ?_ ?_ <;> simp
  | resume moved => exact keeps_step moved

theorem recorded_run (resolves : Resolves services)
    (isInitial : ((procedure services).system Settled).initial first)
    (run : ((procedure services).system Settled).Run first labels pool) :
    Recorded services (reported labels) pool.shared := by
  refine @TransitionSystem.RunWhere.historyInvariant _ _ _ _
    (fun labels (pool : Pool (Records Log) Point) =>
      Recorded services (reported labels) pool.shared) _
    ⟨isInitial.1, nofun, fun _ => Nat.zero_le _⟩ ?_ _ _ run
  intro labels pool label next recorded _ step
  rw [reported_snoc]
  have keeps := keeps_pool step
  cases step with
  | resume moved => exact recorded_step resolves recorded moved
  | _ => exact recorded.quiet keeps fun _ => List.not_mem_nil

theorem closed_run {tokenId : String} (closed : Closed first.shared tokenId)
    (run : ((procedure services).system Settled).Run first labels pool) :
    Closed pool.shared tokenId :=
  @TransitionSystem.RunWhere.historyInvariant _ _ _ _
    (fun _ (pool : Pool (Records Log) Point) => Closed pool.shared tokenId) _
    closed (fun holds _ step => (keeps_pool step).step.closed holds) _ _ run

/-- In every reachable state a grant has created one device with one credential
at most, and all its claims were answered with that credential; a claim that
succeeds finds a grant that is open and has not expired, and writes nothing when
it is a repeated one; the first use of the device, and the revocation of the
grant, of the credential or of the device, close the grant for good; and a step
that is refused changes nothing. -/
theorem grants_used_once (resolves : Resolves services)
    (isInitial : ((procedure services).system Settled).initial first)
    (run : ((procedure services).system Settled).Run first labels pool) :
    (∀ tokenId, (reported labels).countP (creates tokenId) ≤ 1) ∧
      (∀ earlier later, .claimed earlier ∈ reported labels →
        .claimed later ∈ reported labels → later.tokenId = earlier.tokenId →
        later.credential = earlier.credential) ∧
      (∀ index draw effect next,
        (procedure services).Step pool (.resume index draw effect) next →
        ∀ claim, .claimed claim ∈ effect.events →
          Answers (reported labels) draw (pool.process index) pool.shared
            next.shared claim) ∧
      (∀ index draw events next,
        (procedure services).Step pool (.resume index draw (.committed events))
          next →
        ∀ claim, .claimed claim ∈ reported labels →
          Closes claim (pool.process index) events →
          Closed next.shared claim.tokenId) ∧
      (∀ index draw events next tenantId tokenId,
        (procedure services).Step pool (.resume index draw (.committed events))
          next →
        pool.process index = .called (.revokeGrant tenantId tokenId) →
        ∀ grant ∈ pool.shared.grants.rows, grant.tenantId = tenantId →
          grant.tokenId = tokenId → grant.usedAt = none →
          Closed next.shared tokenId) ∧
      (∀ tokenId later final, Closed pool.shared tokenId →
        ((procedure services).system Settled).Run pool later final →
        Closed final.shared tokenId) ∧
      ∀ index draw effect next,
        (procedure services).Step pool (.resume index draw effect) next →
        (∀ events, effect ≠ .committed events) → next.shared = pool.shared := by
  have recorded := recorded_run resolves isInitial run
  refine ⟨recorded.once, ?_, ?_, ?_, ?_, ?_, ?_⟩
  · intro earlier later wasClaimed isClaimed sameToken
    exact (recorded.known earlier wasClaimed).same recorded.settled
      (recorded.known later isClaimed) sameToken
  · intro index draw effect next step claim member
    cases step with
    | resume moved => exact answers_step resolves recorded moved member
  · intro index draw events next step claim wasClaimed closes
    cases step with
    | resume moved =>
        exact closed_step recorded.settled (recorded.known claim wasClaimed)
          moved closes
  · intro index draw events next tenantId tokenId step isPoint grant stored
      isTenant isToken unused
    cases step with
    | resume moved =>
        have revoking : resume services draw
            (.called (.revokeGrant tenantId tokenId)) pool.shared =
            (_, _, .committed events) := isPoint ▸ moved
        rcases (finish_eq revoking).2 with ⟨count, ran, -⟩ | ⟨-, refused⟩
        · exact revokeGrant_ok ran stored isTenant isToken unused
        · cases refused
  · intro tokenId later final closed further
    exact closed_run closed further
  · intro index draw effect next step pending
    cases step with
    | resume moved => exact (resume_moved moved).unchanged pending

end Runs

/-! ### A claim whose response is lost -/

/-- A cipher that stores the bytes of a secret as characters. -/
def claimServices : Services Unit :=
  { sampleServices with
    rotations := { sampleRotations with
      authenticator := { sampleRotations.authenticator with
        resolve := fun _ ciphertext _ =>
          some (ciphertext.toList.map fun character =>
            UInt8.ofNat character.toNat) }
      encrypt := fun _ secret _ =>
        (String.ofList (secret.map fun byte => Char.ofNat byte.toNat), "") } }

theorem resolves_claimServices : Resolves claimServices := by
  intro credentialId secret iv
  refine congrArg some ?_
  simp only [claimServices, String.toList_ofList, List.map_map]
  refine List.map_id'' (fun byte => ?_) secret
  have small := byte.toNat_lt
  have isValid : Nat.isValidChar byte.toNat := .inl (by omega)
  have isCharacter :
      Char.ofNat byte.toNat = Char.ofNatAux byte.toNat isValid :=
    dif_pos isValid
  rw [Function.comp_apply, isCharacter]
  exact UInt8.ofNat_toNat

/-- A grant for any device of the network. -/
def claimRecords : Records Unit :=
  { sampleRecords with
    grants := ⟨[⟨"grant-1", "net", "token-of-the-first-laptop-of-the-net", none,
      "ana", 0, 9000, none, none, none⟩], by decide⟩ }

def laptopClaim : ClaimRequest where
  token := "token-of-the-first-laptop-of-the-net"
  deviceId := "laptop-1"
  credentialLifetime := Devices.days 90
  displayName := "Laptop"
  platform := "macos"

/-- The laptop claims the grant twice, is revoked, and claims it again. -/
def claims : List Label × Pool (Records Unit) Point :=
  (procedure claimServices).follow ⟨claimRecords, fun _ => .idle⟩
    (.begin 0 (.called (.claimGrant laptopClaim)) ::
      resumes 0 1 (drawAt 1000 "credential-1") ++
      .begin 1 (.called (.claimGrant laptopClaim)) ::
      resumes 1 1 (drawAt 1001 "credential-2") ++
      .begin 2 (.called (.revokeDevice "net" "laptop-1")) ::
      resumes 2 1 (drawAt 1002 "revocation") ++
      .begin 3 (.called (.claimGrant laptopClaim)) ::
      resumes 3 1 (drawAt 1003 "credential-3"))

theorem grants_used_once_laptop :
    (reported claims.1).length = 4 ∧ claims.2.shared.devices.length = 1 ∧
      claims.2.shared.credentials.rows.length = 1 ∧
      (reported claims.1).countP (creates "grant-1") = 1 ∧
      ∀ earlier later, .claimed earlier ∈ reported claims.1 →
        .claimed later ∈ reported claims.1 →
        later.tokenId = earlier.tokenId →
        later.credential = earlier.credential := by
  have isInitial : ((procedure claimServices).system Settled).initial
      ⟨claimRecords, fun _ => .idle⟩ :=
    ⟨⟨.nil, nofun, fun _ _ isFirst => nomatch isFirst.1⟩, fun _ => rfl⟩
  have run : ((procedure claimServices).system Settled).Run
      ⟨claimRecords, fun _ => .idle⟩ claims.1 claims.2 := by
    apply Procedure.run_follow
    exact ⟨⟨rfl, _, rfl⟩, trivial, trivial, trivial, ⟨rfl, _, rfl⟩, trivial,
      trivial, trivial, ⟨rfl, _, rfl⟩, trivial, trivial, trivial,
      ⟨rfl, _, rfl⟩, trivial, trivial, trivial, trivial⟩
  obtain ⟨-, same, -⟩ :=
    grants_used_once resolves_claimServices isInitial run
  exact ⟨by decide +kernel, by decide +kernel, by decide +kernel,
    by decide +kernel, same⟩

end Enrollments

end Directory

end ControlForge
