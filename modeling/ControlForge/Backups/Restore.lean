import ControlForge.Backups.RoundTrip
import ControlForge.Foundation.Effect

/-!
# Restoring a backup

`restore_backup` decrypts an artifact beside the live database, checks it, and
puts it in its place.  Whatever check refuses, the live database is what it
was.
-/

namespace ControlForge

namespace Backups

/-! ## Databases as files -/

/-- What the queries of `_verify_database` read from a file. -/
structure Inspection where
  /-- `integrity_check` answers `ok`. -/
  isIntact : Bool
  /-- `foreign_key_check` has a row. -/
  violatesForeignKeys : Bool
  versions : List Int
  tenantIds : List String
  /-- The tenant of a row of `backup_history`. -/
  historyTenant : String → Option String

structure Sqlite where
  /-- Nothing, where SQLite raises. -/
  inspect : Bytes → Option Inspection
  /-- The file after the update of a row of `backup_history`, and the row
  count. -/
  markRestored : Bytes → String → Timestamp → Bytes × Nat

/-- An update of a row that is there counts it: `backup_id` is a key. -/
def Sqlite.Lawful (sqlite : Sqlite) : Prop :=
  ∀ file inspection backupId tenantId now,
    sqlite.inspect file = some inspection →
      inspection.historyTenant backupId = some tenantId →
        (sqlite.markRestored file backupId now).2 = 1

structure Appliance where
  library : Library
  sqlite : Sqlite
  sourceKey : Bytes
  /-- The versions of `MIGRATIONS`. -/
  supportedVersions : List Int

/-- What a restore meets. -/
structure RestoreSurroundings where
  /-- What `_trusted_artifact_path` objects to. -/
  untrusted : Option String
  /-- The exclusive lock is free. -/
  isStopped : Bool
  /-- The live database can be checkpointed. -/
  checkpoints : Bool

structure RestoreResult where
  backupId : String
  restoredAt : Timestamp
  databaseSha256 : String
  schemaVersions : List Int

section Restore

variable (appliance : Appliance)

/-- `_verify_database`. -/
def verifyDatabase (file : Bytes) (expectedTenantIds : List String)
    (history : String × String) : Except BackupError (List Int) :=
  match appliance.sqlite.inspect file with
  | none => .error (.backup "database verification failed")
  | some found =>
      if found.isIntact = false then
        .error (.backup "database integrity verification failed")
      else if found.violatesForeignKeys = true then
        .error (.backup "database foreign-key verification failed")
      else if found.historyTenant history.1 ≠ some history.2 then
        .error (.backup "backup history manifest does not match the database")
      else if found.versions = [] then
        .error (.backup "database has no schema migration ledger")
      else if found.versions ≠
          appliance.supportedVersions.take found.versions.length then
        .error (.backup "database schema migration ledger is unsupported")
      else if found.tenantIds ≠ expectedTenantIds then
        .error (.backup "backup tenant manifest does not match the database")
      else .ok found.versions

/-- `_validate_restore_tenant`. -/
def validateRestoreTenant (expectedTenantIds : List String) :
    Option Bytes → Except BackupError Unit
  | none => .ok ()
  | some live =>
      match appliance.sqlite.inspect live with
      | none => .error (.backup "live appliance tenant could not be verified")
      | some found =>
          if found.tenantIds ≠ [] ∧ found.tenantIds ≠ expectedTenantIds then
            .error (.backup "backup tenant does not match the live appliance")
          else .ok ()

def refuseIf (condition : Prop) [Decidable condition] (failure : BackupError) :
    Except BackupError Unit :=
  if condition then .error failure else .ok ()

/-- What a restore checks before it replaces the database: the manifest, what
has been decrypted, and its schema versions. -/
def checkRestore (surroundings : RestoreSurroundings) (artifact : Bytes)
    (live : Option Bytes) :
    Except BackupError (BackupManifest × Bytes × List Int) := do
  match surroundings.untrusted with
  | some message => throw (.backup message)
  | none =>
      refuseIf (surroundings.isStopped = false)
        (.offline "standalone runtime must be stopped before restore")
      let (manifest, plaintext) ← decryptArtifact appliance.library
        appliance.sourceKey artifact
      let schemaVersions ← verifyDatabase appliance plaintext manifest.networkIds
        (manifest.backupId, manifest.tenantId)
      refuseIf (manifest.schemaVersions ≠ schemaVersions)
        (.backup "backup schema manifest does not match the database")
      -- `max(...) > max(...)`
      refuseIf (∃ version ∈ schemaVersions,
          ∀ supported ∈ appliance.supportedVersions, supported < version)
        (.backup "backup schema is newer than this ControlForge version")
      validateRestoreTenant appliance manifest.networkIds live
      refuseIf (live.isSome = true ∧ surroundings.checkpoints = false)
        (.offline "live database could not be checkpointed for restore")
      return (manifest, plaintext, schemaVersions)

/-- `restore_backup`, on what a connection to the live database reads. -/
def restoreBackup (surroundings : RestoreSurroundings) (artifact : Bytes)
    (restoredAt : Timestamp) :
    Effect (Option Bytes) BackupError RestoreResult := do
  let live ← Effect.gets id
  let (manifest, plaintext, schemaVersions) ←
    Effect.ofExcept (checkRestore appliance surroundings artifact live)
  Effect.modify fun _ => some plaintext
  let restoredVersions ← Effect.ofExcept (verifyDatabase appliance plaintext
    manifest.networkIds (manifest.backupId, manifest.tenantId))
  Effect.ofExcept (refuseIf (restoredVersions ≠ schemaVersions)
    (.backup "restored database verification failed"))
  let (recorded, count) :=
    appliance.sqlite.markRestored plaintext manifest.backupId restoredAt
  Effect.modify fun _ => some recorded
  Effect.ofExcept (refuseIf (count ≠ 1)
    (.backup "restored database is missing its backup history record"))
  return {
    backupId := manifest.backupId
    restoredAt
    databaseSha256 := manifest.databaseSha256
    schemaVersions }

end Restore

/-! ## A restore that is refused -/

section Refusals

variable {appliance : Appliance} {surroundings : RestoreSurroundings}
  {artifact plaintext : Bytes} {live : Option Bytes} {manifest : BackupManifest}
  {schemaVersions : List Int}

/-- What has passed the checks has been verified. -/
theorem checkRestore_ok
    (checked : checkRestore appliance surroundings artifact live =
      .ok (manifest, plaintext, schemaVersions)) :
    verifyDatabase appliance plaintext manifest.networkIds
      (manifest.backupId, manifest.tenantId) = .ok schemaVersions := by
  unfold checkRestore at checked
  cases isTrusted : surroundings.untrusted with
  | some message =>
      rw [isTrusted] at checked
      cases checked
  | none =>
      rw [isTrusted] at checked
      obtain ⟨_, _, checked⟩ := bind_eq_ok.mp checked
      obtain ⟨⟨foundManifest, foundPlaintext⟩, _, checked⟩ :=
        bind_eq_ok.mp checked
      obtain ⟨versions, verified, checked⟩ := bind_eq_ok.mp checked
      obtain ⟨_, _, checked⟩ := bind_eq_ok.mp checked
      obtain ⟨_, _, checked⟩ := bind_eq_ok.mp checked
      obtain ⟨_, _, checked⟩ := bind_eq_ok.mp checked
      obtain ⟨_, _, returned⟩ := bind_eq_ok.mp checked
      cases returned
      exact verified

/-- A verified database has the row of the backup. -/
theorem verifyDatabase_ok {file : Bytes} {expectedTenantIds : List String}
    {history : String × String} {versions : List Int}
    (verified : verifyDatabase appliance file expectedTenantIds history =
      .ok versions) :
    ∃ found, appliance.sqlite.inspect file = some found ∧
      found.historyTenant history.1 = some history.2 := by
  unfold verifyDatabase at verified
  cases inspected : appliance.sqlite.inspect file with
  | none =>
      rw [inspected] at verified
      cases verified
  | some found =>
      rw [inspected] at verified
      dsimp only at verified
      split_ifs at verified with _ _ isHistory
      exact ⟨found, rfl, not_not.mp isHistory⟩

/-- What comes after the replacement of the database cannot refuse: it checks
again what has been checked before. -/
theorem restoreBackup_refused (lawful : appliance.sqlite.Lawful)
    {restoredAt : Timestamp} {failure : BackupError}
    (refused : (restoreBackup appliance surroundings artifact restoredAt live).1 =
      .error failure) :
    (restoreBackup appliance surroundings artifact restoredAt live).2 = live := by
  cases checked : checkRestore appliance surroundings artifact live with
  | error raised =>
      simp only [restoreBackup, Effect.bind_apply, Effect.gets_apply, id_eq,
        Effect.ofExcept_apply, checked]
  | ok passed =>
      obtain ⟨manifest, plaintext, schemaVersions⟩ := passed
      have verified := checkRestore_ok checked
      obtain ⟨found, inspected, isHistory⟩ := verifyDatabase_ok verified
      have counted := lawful _ _ _ _ restoredAt inspected isHistory
      simp [restoreBackup, Effect.bind_apply, Effect.gets_apply,
        Effect.ofExcept_apply, Effect.modify_apply, Effect.pure_apply, checked,
        verified, counted, refuseIf] at refused

end Refusals

end Backups

end ControlForge
