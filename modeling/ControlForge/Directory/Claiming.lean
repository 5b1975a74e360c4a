import ControlForge.Directory.Passwords

/-!
# What a claim of a grant finds and writes

A claim finds a grant that is neither revoked nor expired.  A first claim adds a
device with its credential and uses the grant; a repeated one is answered with
what is stored.
-/

namespace ControlForge

namespace Directory

open Access
open Devices (CredentialRow DeviceRow)

variable {Log : Type} {services : Services Log} {records after : Records Log}
  {draw : Draw} {request : ClaimRequest} {now : Timestamp} {grant : GrantRow}

/-- The device a claim is answered for. -/
def EnrolledCredential.deviceKey (credential : EnrolledCredential) :
    String × String :=
  (credential.tenantId, credential.deviceId)

/-! ## The grant of a claim -/

structure ClaimFound (request : ClaimRequest) (now : Timestamp)
    (records : Records Log) (grant : GrantRow) : Prop where
  stored : grant ∈ records.grants.rows
  unrevoked : grant.revokedAt = none
  unexpired : now < grant.expiresAt
  expected : ∀ deviceId, grant.expectedDeviceId = some deviceId →
    deviceId = request.deviceId
  /-- The account that asked for the grant may still enroll. -/
  account : (grantAccount records grant.tokenId).all
    (fun found => found.2.mayEnroll found.1) = true

/-! ## A repeated claim -/

theorem initialCredential_ok {tenantId deviceId : String}
    {credential : CredentialRow}
    (isFirst : initialCredential records tenantId deviceId = some credential) :
    credential ∈ records.credentials.rows ∧
      credential.deviceKey = (tenantId, deviceId) ∧
      credential.credentialId ∈ records.initialCredentials := by
  have member := List.mem_of_head? isFirst
  rw [mem_orderBy, mem_orderBy, List.mem_filter] at member
  obtain ⟨stored, selected⟩ := member
  simp only [CredentialRow.ofDevice, Bool.and_eq_true, decide_eq_true_eq,
    List.contains_iff_mem] at selected
  obtain ⟨⟨isTenant, isDevice⟩, named⟩ := selected
  refine ⟨stored, ?_, named⟩
  rw [CredentialRow.deviceKey, isTenant, isDevice]

/-- The device and the credential a repeated claim is answered with. -/
structure Resumable (records : Records Log) (tenantId : String)
    (request : ClaimRequest) (now : Timestamp) (credential : CredentialRow) :
    Prop where
  device : ∃ row ∈ records.devices,
    row.key = (tenantId, request.deviceId) ∧ row.ended = false
  initial : initialCredential records tenantId request.deviceId =
    some credential
  unrevoked : credential.revokedAt = none
  unexpired : now < credential.expiresAt

theorem resumable_ok {tenantId : String} {credential : CredentialRow}
    (isResumable : resumable records tenantId request now = some credential) :
    Resumable records tenantId request now credential := by
  obtain ⟨device, isDevice, rest⟩ := Option.bind_eq_some_iff.mp isResumable
  obtain ⟨profile, -, rest⟩ := Option.bind_eq_some_iff.mp rest
  obtain ⟨found, isInitial, rest⟩ := Option.bind_eq_some_iff.mp rest
  split at rest
  · next holds =>
      cases rest
      obtain ⟨-, -, isActive, unseen, unrevoked, -, unexpired⟩ := holds
      have isKey := List.find?_some isDevice
      refine ⟨⟨device, List.mem_of_find?_eq_some isDevice, ?_, ?_⟩, isInitial,
        unrevoked, unexpired⟩
      · obtain ⟨isTenant, isId⟩ := of_decide_eq_true isKey
        rw [DeviceRow.key, isTenant, isId]
      · rw [DeviceRow.ended, isActive, unseen]
        rfl
  · cases rest

/-- A repeated claim and its answer. -/
structure Resumed (services : Services Log) (records : Records Log)
    (request : ClaimRequest) (now : Timestamp) (grant : GrantRow)
    (answer : EnrolledCredential) : Prop where
  claimed : grant.claimedDeviceId = some request.deviceId
  answered : ∃ credential,
    Resumable records grant.tenantId request now credential ∧
      services.rotations.authenticator.resolve credential.credentialId
        credential.secretCiphertext credential.secretIv = some answer.secret ∧
      answer = ⟨grant.tenantId, request.deviceId, credential.credentialId,
        answer.secret, credential.expiresAt⟩

theorem resumeGrant_ok {answer : EnrolledCredential}
    (ran : resumeGrant services grant request now records =
      .ok (answer, after)) :
    Resumed services records request now grant answer ∧ after = records := by
  obtain ⟨_, start, isClaimed, afterClaimed⟩ := Transaction.run_bind_ok.mp ran
  obtain ⟨claimed, rfl⟩ := require_ok isClaimed
  obtain ⟨_, _, read, afterRead⟩ := Transaction.run_bind_ok.mp afterClaimed
  cases read
  cases isFound : resumable start grant.tenantId request now with
  | none =>
      rw [isFound] at afterRead
      cases afterRead
  | some credential =>
      rw [isFound] at afterRead
      dsimp only at afterRead
      cases resolved : services.rotations.authenticator.resolve
          credential.credentialId credential.secretCiphertext
          credential.secretIv with
      | none =>
          rw [resolved] at afterRead
          cases afterRead
      | some secret =>
          rw [resolved] at afterRead
          cases afterRead
          exact ⟨⟨claimed, credential, resumable_ok isFound, resolved, rfl⟩, rfl⟩

/-! ## A first claim -/

/-- The rows a first claim adds, and the use of the grant. -/
structure Enrolled (services : Services Log) (request : ClaimRequest)
    (draw : Draw) (grant : GrantRow) (before after : Records Log) : Prop where
  newDevice : ∀ row ∈ before.devices,
    row.key ≠ (grant.tenantId, request.deviceId)
  devices : after.devices =
    before.devices ++ [⟨grant.tenantId, request.deviceId, "active", none⟩]
  newCredential : ∀ row ∈ before.credentials.rows, row.credentialId ≠ draw.id
  credentials : after.credentials.rows = before.credentials.rows ++
    [enrolledCredential services.toDeployment grant.tenantId
      request.toClaimInput draw.toDraw]
  initial : after.initialCredentials = before.initialCredentials ++ [draw.id]
  used : ∃ row ∈ after.grants.rows, row.tokenId = grant.tokenId ∧
    row.tenantId = grant.tenantId ∧ row.usedAt.isSome = true ∧
    row.claimedDeviceId = some request.deviceId

/-- A credential is inserted under a new identifier. -/
theorem insertCredential_ok {row : CredentialRow} {result : Unit}
    (ran : inAppliance (inCollectors (Devices.insertCredential row)) records =
      .ok (result, after)) :
    ∃ credentials, after = { records with credentials } ∧
      (∀ stored ∈ records.credentials.rows,
        stored.credentialId ≠ row.credentialId) ∧
      credentials.rows = records.credentials.rows ++ [row] := by
  obtain ⟨_, inserting, rfl⟩ := inAppliance_ok ran
  unfold inCollectors at inserting
  split at inserting
  · next inserted =>
      cases inserting
      unfold Devices.insertCredential at inserted
      split at inserted
      · next credentials isInserted =>
          cases inserted
          obtain ⟨free, rows⟩ := Table.insert_eq_some.mp isInserted
          refine ⟨credentials, rfl, fun stored member same => ?_, rows⟩
          have noClash := free stored member
          rw [CredentialRow.clash, same] at noClash
          simp at noClash
      · cases inserted
  · cases inserting

theorem useGrant_ok {deviceId : String} {count : Nat}
    (ran : useGrant grant deviceId now records = .ok (count, after))
    (stored : grant ∈ records.grants.rows) (unused : grant.usedAt = none)
    (unrevoked : grant.revokedAt = none) :
    ∃ grants, after = { records with grants } ∧
      ∃ row ∈ grants.rows, row.tokenId = grant.tokenId ∧
        row.tenantId = grant.tenantId ∧ row.usedAt.isSome = true ∧
        row.claimedDeviceId = some deviceId := by
  obtain ⟨appliance, updated, rfl⟩ := inAppliance_ok ran
  obtain ⟨others, rows⟩ := updateGrants_rows updated
  refine ⟨appliance.grants, by rw [others],
    { grant with usedAt := some now, claimedDeviceId := some deviceId }, ?_,
    rfl, rfl, rfl, rfl⟩
  rw [rows]
  refine List.mem_map.mpr ⟨grant, stored, Table.applyWhere_selected ?_⟩
  simp [unused, unrevoked]

theorem enroll_ok {answer : EnrolledCredential}
    (stored : grant ∈ records.grants.rows) (unused : grant.usedAt = none)
    (unrevoked : grant.revokedAt = none)
    (ran : enroll services grant request draw records = .ok (answer, after)) :
    Enrolled services request draw grant records after ∧
      answer = ⟨grant.tenantId, request.deviceId, draw.id,
        draw.rotation.replacementSecret,
        draw.now + request.credentialLifetime⟩ := by
  obtain ⟨_, _, read, afterRead⟩ := Transaction.run_bind_ok.mp ran
  cases read
  obtain ⟨_, _, unknown, afterUnknown⟩ := Transaction.run_bind_ok.mp afterRead
  obtain ⟨isUnknown, rfl⟩ := require_ok unknown
  obtain ⟨_, _, device, afterDevice⟩ := Transaction.run_bind_ok.mp afterUnknown
  obtain ⟨_, _, inserting, listing⟩ := Transaction.run_bind_ok.mp device
  obtain ⟨_, isDevice, rfl⟩ := inAppliance_ok inserting
  cases isDevice
  cases listing
  obtain ⟨_, _, credential, afterCredential⟩ :=
    Transaction.run_bind_ok.mp afterDevice
  obtain ⟨_, _, crediting, naming⟩ := Transaction.run_bind_ok.mp credential
  obtain ⟨credentials, rfl, isNew, added⟩ := insertCredential_ok crediting
  cases naming
  obtain ⟨count, _, isUse, afterUse⟩ :=
    Transaction.run_bind_ok.mp afterCredential
  obtain ⟨grants, rfl, used⟩ := useGrant_ok isUse stored unused unrevoked
  obtain ⟨_, _, counted, returned⟩ := Transaction.run_bind_ok.mp afterUse
  obtain ⟨-, rfl⟩ := require_ok counted
  cases returned
  refine ⟨⟨fun row member isKey => ?_, rfl, isNew, added, rfl, used⟩, rfl⟩
  obtain ⟨isTenant, isId⟩ := Prod.mk.inj isKey
  exact List.any_eq_false.mp isUnknown row member
    (decide_eq_true ⟨isTenant, isId⟩)

/-! ## The claim -/

theorem claimable_ok
    (isClaimable : claimable services.toDeployment records.toAppliance
      request.toClaimInput now = some grant) :
    grant ∈ records.grants.rows ∧ grant.revokedAt = none ∧
      now < grant.expiresAt ∧
      ∀ deviceId, grant.expectedDeviceId = some deviceId →
        deviceId = request.deviceId := by
  have holds := List.find?_some isClaimable
  simp only [Bool.and_eq_true, decide_eq_true_eq, Option.isNone_iff_eq_none]
    at holds
  obtain ⟨⟨⟨-, unrevoked⟩, unexpired⟩, expected⟩ := holds
  refine ⟨List.mem_of_find?_eq_some isClaimable, unrevoked, unexpired, ?_⟩
  intro deviceId isExpected
  rw [isExpected] at expected
  exact of_decide_eq_true expected

/-- What a claim has found, and what a first claim has written. -/
theorem claimGrant_ok {claim : Claimed}
    (ran : claimGrant services request draw records = .ok (claim, after)) :
    ∃ grant, ClaimFound request draw.now records grant ∧
      claim.tokenId = grant.tokenId ∧
      ((grant.usedAt.isSome = true ∧ claim.created = false ∧ after = records ∧
          Resumed services records request draw.now grant claim.credential) ∨
        (grant.usedAt = none ∧ claim.created = true ∧
          Enrolled services request draw grant records after ∧
          claim.credential = ⟨grant.tenantId, request.deviceId, draw.id,
            draw.rotation.replacementSecret,
            draw.now + request.credentialLifetime⟩)) := by
  obtain ⟨_, _, checked, afterChecked⟩ := Transaction.run_bind_ok.mp ran
  obtain ⟨_, checking, rfl⟩ := inAppliance_ok checked
  obtain ⟨-, rfl⟩ := Transaction.run_ofExcept_eq_ok.mp checking
  obtain ⟨_, _, read, afterRead⟩ := Transaction.run_bind_ok.mp afterChecked
  cases read
  cases isFound : claimable services.toDeployment records.toAppliance
      request.toClaimInput draw.now with
  | none =>
      rw [isFound] at afterRead
      cases afterRead
  | some grant =>
      rw [isFound] at afterRead
      obtain ⟨_, _, authorized, afterAuthorized⟩ :=
        Transaction.run_bind_ok.mp afterRead
      obtain ⟨_, _, isRead, requiring⟩ := Transaction.run_bind_ok.mp authorized
      cases isRead
      obtain ⟨account, rfl⟩ := require_ok requiring
      obtain ⟨stored, unrevoked, unexpired, expected⟩ := claimable_ok isFound
      have found : ClaimFound request draw.now _ grant :=
        ⟨stored, unrevoked, unexpired, expected, account⟩
      refine ⟨grant, found, ?_⟩
      split at afterAuthorized
      · next isUsed =>
          obtain ⟨answer, _, resuming, returned⟩ :=
            Transaction.run_bind_ok.mp afterAuthorized
          cases returned
          obtain ⟨resumed, rfl⟩ := resumeGrant_ok resuming
          exact ⟨rfl, .inl ⟨isUsed, rfl, rfl, resumed⟩⟩
      · next notUsed =>
          obtain ⟨answer, _, enrolling, returned⟩ :=
            Transaction.run_bind_ok.mp afterAuthorized
          cases returned
          have unused : grant.usedAt = none := by simpa using notUsed
          obtain ⟨enrolled, isAnswer⟩ :=
            enroll_ok stored unused unrevoked enrolling
          exact ⟨rfl, .inr ⟨unused, rfl, enrolled, isAnswer⟩⟩

end Directory

end ControlForge
