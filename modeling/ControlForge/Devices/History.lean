import ControlForge.Devices.Rotation
import ControlForge.Foundation.Retention

/-!
# What the device services leave of a device and of a credential

Every program of the device services is made of four statements and an
authentication.  What those respect, a whole program respects.
-/

namespace ControlForge

namespace Devices

open Transaction (Follows)

/-! ## Histories -/

/-- A credential keeps all but its use, and stays revoked. -/
structure CredentialRow.Develops (old new : CredentialRow) : Prop where
  credentialId : new.credentialId = old.credentialId
  tenantId : new.tenantId = old.tenantId
  deviceId : new.deviceId = old.deviceId
  secretCiphertext : new.secretCiphertext = old.secretCiphertext
  secretIv : new.secretIv = old.secretIv
  createdAt : new.createdAt = old.createdAt
  expiresAt : new.expiresAt = old.expiresAt
  revoked : old.revokedAt.isSome = true → new.revokedAt.isSome = true

instance : Std.Refl CredentialRow.Develops where
  refl _ := ⟨rfl, rfl, rfl, rfl, rfl, rfl, rfl, id⟩

instance : IsTrans CredentialRow CredentialRow.Develops where
  trans _ _ _ left right :=
    ⟨right.credentialId.trans left.credentialId,
      right.tenantId.trans left.tenantId, right.deviceId.trans left.deviceId,
      right.secretCiphertext.trans left.secretCiphertext,
      right.secretIv.trans left.secretIv, right.createdAt.trans left.createdAt,
      right.expiresAt.trans left.expiresAt, right.revoked ∘ left.revoked⟩

/-- The device of a credential. -/
def CredentialRow.deviceKey (row : CredentialRow) : String × String :=
  (row.tenantId, row.deviceId)

theorem CredentialRow.Develops.deviceKey {old new : CredentialRow}
    (develops : old.Develops new) : new.deviceKey = old.deviceKey := by
  rw [CredentialRow.deviceKey, develops.tenantId, develops.deviceId]
  rfl

def DeviceRow.key (row : DeviceRow) : String × String :=
  (row.tenantId, row.deviceId)

/-- The device is retired, or has been seen. -/
def DeviceRow.ended (row : DeviceRow) : Bool :=
  (row.status ≠ "active" : Bool) || row.lastSeenAt.isSome

/-- No device goes, none that has ended is as new, and credentials develop. -/
structure Database.Develops (before after : Database) : Prop where
  keys : Lasts (fun rows key => key ∈ rows.map DeviceRow.key) before.devices
    after.devices
  devices : Retained DeviceRow.key DeviceRow.ended before.devices after.devices
  credentials : Developed CredentialRow.Develops before.credentials.rows
    after.credentials.rows

instance : Std.Refl Database.Develops where
  refl _ := ⟨.refl _, .refl _ _ _, .refl _⟩

instance : IsTrans Database Database.Develops where
  trans _ _ _ left right :=
    ⟨left.keys.trans right.keys, left.devices.trans right.devices,
      left.credentials.trans right.credentials⟩

/-! ## Programs -/

/-- The statements of the device services respect a relation. -/
structure Respects (relation : Database → Database → Prop) : Prop where
  updateCredentials : ∀ selected change,
    (∀ row : CredentialRow, selected row = true → row.Develops (change row)) →
      Follows relation (updateCredentials selected change)
  insertCredential : ∀ row, Follows relation (insertCredential row)
  updateRotations : ∀ selected change,
    Follows relation (updateRotations selected change)
  insertRotation : ∀ row, Follows relation (insertRotation row)

section Programs

open RotationService

variable {relation : Database → Database → Prop} [Std.Refl relation]
  [IsTrans Database relation]

theorem Respects.initiate (respects : Respects relation)
    (service : RotationService) (input : Initiation) (draw : RotationDraw)
    (now : Timestamp) :
    Follows relation (service.initiateTransaction input draw now) := by
  refine Follows.bind Follows.get fun _ => ?_
  refine Follows.bind (Follows.require _ _) fun _ => ?_
  refine Follows.bind ?_ fun _ => ?_
  · unfold solePredecessor
    split
    · exact Follows.pure _
    · exact Follows.throw _
  · refine Follows.bind (Follows.require _ _) fun _ => ?_
    refine Follows.bind (respects.insertCredential _) fun _ => ?_
    exact Follows.bind (respects.insertRotation _) fun _ => Follows.pure _

theorem Respects.cancelRow (respects : Respects relation) (row : RotationRow)
    (now : Timestamp) : Follows relation (cancelRow row now) := by
  refine Follows.bind (respects.updateCredentials _ _ fun credential _ => ?_)
    fun _ => ?_
  · exact ⟨rfl, rfl, rfl, rfl, rfl, rfl, rfl, fun _ => rfl⟩
  · exact Follows.bind (respects.updateRotations _ _) fun _ => Follows.pure _

theorem Respects.cancel (respects : Respects relation)
    (tenantId rotationId : String) (now : Timestamp) :
    Follows relation (cancelTransaction tenantId rotationId now) := by
  refine Follows.bind Follows.get fun _ => ?_
  split
  · exact Follows.pure _
  · refine Follows.ite (fun _ => Follows.pure _) fun _ => ?_
    refine Follows.bind (Follows.require _ _) fun _ => ?_
    exact Follows.bind (respects.cancelRow _ _) fun _ => Follows.pure _

theorem Respects.firstDelivery (respects : Respects relation)
    (service : RotationService) (draw : List UInt8)
    (deviceId credentialId : String) (row : RotationRow)
    (replacement : CredentialRow) (now : Timestamp) :
    Follows relation
      (service.firstDelivery draw deviceId credentialId row replacement
        now) := by
  refine Follows.bind Follows.get fun _ => ?_
  split
  · exact Follows.throw _
  · refine Follows.bind (Follows.ofExcept _) fun _ => ?_
    refine Follows.bind (Follows.ofExcept _) fun _ => ?_
    refine Follows.bind (Follows.ofExcept _) fun _ => ?_
    refine Follows.bind (Follows.ofExcept _) fun _ => ?_
    exact Follows.bind (respects.updateRotations _ _) fun _ => Follows.pure _

theorem Respects.repeatDelivery (respects : Respects relation)
    (row : RotationRow) : Follows relation (repeatDelivery row) := by
  refine Follows.bind (Follows.ofExcept _) fun _ => ?_
  exact Follows.bind (respects.updateRotations _ _) fun _ => Follows.pure _

theorem Respects.poll (respects : Respects relation)
    (service : RotationService) (draw : List UInt8)
    (device : AuthenticatedDevice) (now : Timestamp) :
    Follows relation (service.pollTransaction draw device now) := by
  refine Follows.bind Follows.get fun _ => ?_
  split
  · exact Follows.pure _
  · refine Follows.bind (Follows.require _ _) fun _ => ?_
    refine Follows.ite (fun _ => ?_) fun _ => ?_
    · exact Follows.bind (respects.cancelRow _ _) fun _ => Follows.pure _
    · refine Follows.bind (Follows.require _ _) fun _ => ?_
      refine Follows.ite (fun _ => ?_) fun _ => ?_
      · exact (respects.firstDelivery service _ _ _ _ _ _).map _
      · exact (respects.repeatDelivery _).map _

theorem Respects.complete (respects : Respects relation) (row : RotationRow)
    (now : Timestamp) : Follows relation (completeRotation row now) := by
  refine Follows.bind (Follows.require _ _) fun _ => ?_
  refine Follows.bind (respects.updateCredentials _ _ fun credential _ => ?_)
    fun _ => ?_
  · exact ⟨rfl, rfl, rfl, rfl, rfl, rfl, rfl, id⟩
  refine Follows.bind (respects.updateCredentials _ _ fun credential _ => ?_)
    fun _ => ?_
  · exact ⟨rfl, rfl, rfl, rfl, rfl, rfl, rfl, fun _ => rfl⟩
  refine Follows.bind (respects.updateRotations _ _) fun _ => ?_
  refine Follows.bind (Follows.require _ _) fun _ => ?_
  refine Follows.bind Follows.get fun _ => ?_
  split
  · exact Follows.throw _
  · exact Follows.pure _

theorem Respects.acknowledge (respects : Respects relation)
    (device : AuthenticatedDevice) (now : Timestamp) :
    Follows relation (acknowledgeTransaction device now) := by
  refine Follows.bind Follows.get fun _ => ?_
  split
  · exact Follows.pure _
  · refine Follows.bind (Follows.require _ _) fun _ => ?_
    refine Follows.ite (fun _ => Follows.pure _) fun _ => ?_
    exact (respects.complete _ _).map _

theorem Respects.revokeCredential (respects : Respects relation)
    (tenantId deviceId credentialId : String) (now : Timestamp) :
    Follows relation
      (revokeCredentialTransaction tenantId deviceId credentialId now) := by
  refine Follows.bind Follows.get fun _ => ?_
  refine Follows.bind (Follows.require _ _) fun _ => ?_
  refine Follows.bind (respects.updateCredentials _ _ fun credential _ => ?_)
    fun _ => Follows.pure _
  exact ⟨rfl, rfl, rfl, rfl, rfl, rfl, rfl, fun _ => rfl⟩

end Programs

/-! ## Histories last -/

theorem develops_updateCredentials (selected : CredentialRow → Bool)
    (change : CredentialRow → CredentialRow)
    (permitted : ∀ row, selected row = true → row.Develops (change row)) :
    Follows Database.Develops (updateCredentials selected change) := by
  intro before count after ran
  unfold updateCredentials at ran
  split at ran
  · next updated =>
      cases ran
      refine ⟨.refl _, .refl _ _ _, ?_⟩
      rw [(Table.updateWhere_eq_ok.mp updated).2.1]
      exact Developed.applyWhere permitted
  · cases ran

theorem develops_insertCredential (row : CredentialRow) :
    Follows Database.Develops (insertCredential row) := by
  intro before count after ran
  unfold insertCredential at ran
  split at ran
  · next inserted =>
      cases ran
      refine ⟨.refl _, .refl _ _ _, ?_⟩
      rw [(Table.insert_eq_some.mp inserted).2]
      exact Developed.append _
  · cases ran

theorem develops_updateRotations (selected : RotationRow → Bool)
    (change : RotationRow → RotationRow) :
    Follows Database.Develops (updateRotations selected change) := by
  intro before count after ran
  unfold updateRotations at ran
  split at ran
  · cases ran
    exact ⟨.refl _, .refl _ _ _, .refl _⟩
  · cases ran

theorem develops_insertRotation (row : RotationRow) :
    Follows Database.Develops (insertRotation row) := by
  intro before count after ran
  unfold insertRotation at ran
  split at ran
  · cases ran
    exact ⟨.refl _, .refl _ _ _, .refl _⟩
  · cases ran

theorem develops_statements : Respects Database.Develops where
  updateCredentials := develops_updateCredentials
  insertCredential := develops_insertCredential
  updateRotations := develops_updateRotations
  insertRotation := develops_insertRotation

/-- A use of a device is recorded. -/
theorem develops_recordUse (credential : CredentialRow) (now : Timestamp)
    (database : Database) :
    Database.Develops database
      (Authenticator.recordUse credential now database) := by
  refine ⟨?_, ?_, ?_⟩
  · intro key member
    obtain ⟨row, stored, rfl⟩ := List.mem_map.mp member
    refine List.mem_map.mpr ⟨_, List.mem_map_of_mem stored, ?_⟩
    split <;> rfl
  · refine Retained.update fun row _ => ?_
    split
    · exact ⟨rfl, fun _ => by simp [DeviceRow.ended]⟩
    · exact ⟨rfl, id⟩
  · refine Developed.map fun row _ => ?_
    split
    · exact ⟨rfl, rfl, rfl, rfl, rfl, rfl, rfl, id⟩
    · exact Std.Refl.refl row

/-! ## Authentications -/

/-- The device an authenticated request comes from. -/
def AuthenticatedDevice.key (device : AuthenticatedDevice) : String × String :=
  (device.tenantId, device.deviceId)

/-- The device of an authenticated request was active, and has been used. -/
structure Seen (device : AuthenticatedDevice) (before after : Database) :
    Prop where
  credential : ∃ row ∈ before.credentials.rows,
    row.credentialId = device.credentialId ∧ row.deviceKey = device.key
  active : ∃ row ∈ before.devices,
    row.isActive device.tenantId device.deviceId = true
  used : ∀ row ∈ after.devices, row.key = device.key → row.ended = true

/-- A credential that is authorized is stored, and its device is active. -/
theorem active_of_authorized {authenticator : Authenticator}
    {request : SignedCollectorRequest} {now : Timestamp} {database : Database}
    {credential : CredentialRow}
    (authorized : authenticator.authorizedCredential database request now =
      .ok credential) :
    credential ∈ database.credentials.rows ∧
      ∃ row ∈ database.devices,
        row.isActive credential.tenantId credential.deviceId = true := by
  unfold Authenticator.authorizedCredential at authorized
  split at authorized
  · cases authorized
  · next stored isFound =>
      obtain ⟨_, checked, signing⟩ := bind_eq_ok.mp authorized
      obtain ⟨_, -, returned⟩ := bind_eq_ok.mp signing
      cases returned
      have isUsable : Authenticator.usable database request.path now credential =
          true := by
        unfold Authenticator.raiseUnless at checked
        split at checked
        · next holds => exact holds
        · cases checked
      simp only [Authenticator.usable, Bool.and_eq_true] at isUsable
      obtain ⟨⟨⟨-, isActive⟩, -⟩, -⟩ := isUsable
      exact ⟨List.mem_of_find?_eq_some isFound, List.any_eq_true.mp isActive⟩

/-- No row of a device is as new after a use. -/
theorem touchDevice_ended {credential : CredentialRow} {now : Timestamp}
    {devices : List DeviceRow} {row : DeviceRow}
    (member : row ∈ Authenticator.touchDevice credential now devices)
    (isKey : row.key = (credential.tenantId, credential.deviceId)) :
    row.ended = true := by
  obtain ⟨stored, -, rfl⟩ := List.mem_map.mp member
  split at isKey
  · next isTouched =>
      rw [if_pos isTouched]
      simp [DeviceRow.ended]
  · next notTouched =>
      rw [if_neg notTouched]
      have notActive : stored.status ≠ "active" := fun isActive =>
        notTouched ⟨(Prod.mk.inj isKey).1, (Prod.mk.inj isKey).2, isActive⟩
      simp [DeviceRow.ended, notActive]

theorem authenticateTransaction_ok {authenticator : Authenticator}
    {request : SignedCollectorRequest} {now : Timestamp}
    {before after : Database} {device : AuthenticatedDevice}
    (ran : authenticator.authenticateTransaction request now before =
      .ok (device, after)) :
    before.Develops after ∧ Seen device before after := by
  obtain ⟨_, start, read, authorizing⟩ := Transaction.run_bind_ok.mp ran
  cases read
  obtain ⟨credential, found, checked, consuming⟩ :=
    Transaction.run_bind_ok.mp authorizing
  obtain ⟨isAuthorized, rfl⟩ := Transaction.run_ofExcept_eq_ok.mp checked
  obtain ⟨_, consumed, nonce, recording⟩ := Transaction.run_bind_ok.mp consuming
  obtain ⟨_, _, recorded, returned⟩ := Transaction.run_bind_ok.mp recording
  cases recorded
  cases returned
  unfold Authenticator.consumeNonce at nonce
  split at nonce
  · next nonces _ =>
      cases nonce
      have used := develops_recordUse credential now { found with nonces }
      obtain ⟨stored, isActive⟩ := active_of_authorized isAuthorized
      exact ⟨⟨used.keys, used.devices, used.credentials⟩,
        ⟨credential, stored, rfl, rfl⟩, isActive,
        fun row member isKey => touchDevice_ended member isKey⟩
  · cases nonce

theorem authenticate_ok {authenticator : Authenticator}
    {request : SignedCollectorRequest} {now : Timestamp}
    {before after : Database} {device : AuthenticatedDevice}
    (authenticated : authenticator.authenticate request now before =
      (.ok device, after)) :
    before.Develops after ∧ Seen device before after := by
  unfold Authenticator.authenticate at authenticated
  split at authenticated
  · cases authenticated
  · exact authenticateTransaction_ok (Transaction.commit_ok authenticated)

end Devices

end ControlForge
