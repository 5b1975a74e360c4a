import ControlForge.Backups.Manifest
import ControlForge.Foundation.Chunks

/-!
# The container of a backup

An artifact is a magic, the length of the manifest, the manifest, the encrypted
database and the tag.  `_encrypt_snapshot` writes it and `_decrypt_artifact`
reads it, chunk by chunk.
-/

namespace ControlForge

namespace Backups

/-! ## What is called -/

/-- AES-256-GCM.  A context has been started with a key, a nonce and the
associated data, and has seen the ciphertext up to some place. -/
structure Gcm where
  Context : Type
  start : (key nonce associated : Bytes) → Context
  encrypt : Context → Bytes → Context × Bytes
  decrypt : Context → Bytes → Context × Bytes
  /-- The tag, once all has been encrypted. -/
  tag : Context → Bytes
  /-- `finalize` of a decryptor with the tag of an artifact. -/
  verify : Context → Bytes → Bool

structure Gcm.Lawful (gcm : Gcm) : Prop where
  encrypts : Splits gcm.encrypt
  decrypts : Splits gcm.decrypt
  inverse : ∀ context plaintext,
    gcm.decrypt context (gcm.encrypt context plaintext).2 =
      ((gcm.encrypt context plaintext).1, plaintext)
  length : ∀ context plaintext,
    (gcm.encrypt context plaintext).2.length = plaintext.length
  tag : ∀ context, (gcm.tag context).length = 16

/-- The functions of libraries that a backup is made with. -/
structure Library where
  conversions : Conversions
  gcm : Gcm
  sha256 : Bytes → Bytes
  /-- `HKDF` with SHA-256 and a length of 32 bytes. -/
  hkdf : (salt info sourceKey : Bytes) → Bytes

structure Library.Lawful (library : Library) : Prop where
  conversions : library.conversions.Lawful
  gcm : library.gcm.Lawful
  sha256 : ∀ bytes, (library.sha256 bytes).length = 32

inductive BackupError where
  | backup (message : String)
  | offline (message : String)
  /-- A `ValidationError` of a manifest. -/
  | validation
  /-- What a library raises. -/
  | library
deriving DecidableEq

/-! ## Constants -/

def magic : Bytes := utf8 "CFBACKUP\x01\n"
def chunkBytes : Nat := 1024 * 1024
def maxManifestBytes : Nat := 64 * 1024
def keyContext : Bytes := utf8 "controlforge/standalone/database-backup/v1"
def kdfSaltContext : Bytes := utf8 "controlforge/standalone/backup-hkdf-salt/v1"

/-- The bytes AES-GCM encrypts under one nonce, at most. -/
def maxEncryptedBytes : Nat := 2 ^ 36 - 32

/-- `struct.Struct(">I")`. -/
def packLength (value : Nat) : Option Bytes :=
  if value < 2 ^ 32 then
    some [.ofNat (value / 2 ^ 24), .ofNat (value / 2 ^ 16), .ofNat (value / 2 ^ 8),
      .ofNat value]
  else none

def unpackLength (bytes : Bytes) : Nat :=
  bytes.foldl (fun value byte => value * 256 + byte.toNat) 0

/-- `hexdigest`. -/
def hexDigest (bytes : Bytes) : String :=
  String.ofList (bytes.flatMap fun byte =>
    [Json.hexDigit (byte.toNat / 16), Json.hexDigit (byte.toNat % 16)])

/-- `_base64url`. -/
def base64url (bytes : Bytes) : String :=
  String.ofList (Base64.encode bytes)

def invalidMetadata : BackupError :=
  .backup "backup manifest contains invalid binary metadata"

/-- `_decode_base64url`. -/
def decodeBase64url (value : String) (expectedLength : Nat) :
    Except BackupError Bytes := do
  let text := value.toList
  match Base64.decode (text ++ Base64.padding text) with
  | none => throw invalidMetadata
  | some decoded =>
      if decoded.length = expectedLength then return decoded
      else throw invalidMetadata

section Functions

variable (library : Library)

/-- `_derive_key`. -/
def deriveKey (sourceKey salt : Bytes) : Except BackupError Bytes :=
  if sourceKey.length = 32 then
    .ok (library.hkdf (library.sha256 (kdfSaltContext ++ salt)) keyContext
      sourceKey)
  else .error (.backup "backup source key has an invalid length")

/-! ## The writer -/

/-- What `_create_backup` knows when it makes the manifest, besides the
snapshot. -/
structure Draft where
  backupId : String
  tenantId : String
  /-- The networks of the snapshot. -/
  tenantIds : List String
  createdAt : Timestamp
  applicationVersion : String
  schemaVersions : List Int
  salt : Bytes
  nonce : Bytes

def Draft.fields (draft : Draft) (snapshot : Bytes) : ManifestFields where
  formatVersion := if 1 < draft.tenantIds.length then .two else .one
  backupId := draft.backupId
  tenantId := draft.tenantId
  tenantIds := if 1 < draft.tenantIds.length then draft.tenantIds else []
  createdAt := draft.createdAt
  applicationVersion := draft.applicationVersion
  schemaVersions := draft.schemaVersions
  databaseSha256 := hexDigest (library.sha256 snapshot)
  databaseSizeBytes := snapshot.length
  salt := base64url draft.salt
  nonce := base64url draft.nonce

/-- `_encrypt_snapshot`: the artifact. -/
def encryptSnapshot (sourceKey snapshot : Bytes) (manifest : BackupManifest)
    (salt nonce : Bytes) : Except BackupError Bytes := do
  let associated := manifestBytes library.conversions manifest
  let key ← deriveKey library sourceKey salt
  let context := library.gcm.start key nonce associated
  match packLength associated.length with
  | none => throw .library
  | some length =>
      if maxEncryptedBytes < snapshot.length then throw .library
      else
        let (final, ciphertext) := inChunks library.gcm.encrypt chunkBytes
          snapshot.length context snapshot
        return magic ++ length ++ associated ++ ciphertext ++
          library.gcm.tag final

/-- A snapshot that is backed up, with all that was drawn for it. -/
structure BackupRun where
  sourceKey : Bytes
  draft : Draft
  snapshot : Bytes

/-- What `_create_backup` makes of a snapshot.  `os.urandom` gives as many bytes
as it is asked for. -/
def createBackup (run : BackupRun) : Except BackupError (BackupManifest × Bytes) :=
  if run.draft.salt.length = 32 ∧ run.draft.nonce.length = 12 then
    match BackupManifest.ofFields (run.draft.fields library run.snapshot) with
    | none => .error .validation
    | some manifest => do
        let artifact ← encryptSnapshot library run.sourceKey run.snapshot manifest
          run.draft.salt run.draft.nonce
        return (manifest, artifact)
  else .error .library

/-! ## The reader -/

structure ArtifactHeader where
  manifest : BackupManifest
  manifestBytes : Bytes
  ciphertextStart : Nat
  ciphertextBytes : Nat
  tag : Bytes

/-- `_read_artifact_header`. -/
def readArtifactHeader (source : Bytes) : Except BackupError ArtifactHeader := do
  if source.take magic.length ≠ magic then
    throw (.backup "backup format is not recognized")
  let lengthBytes := (source.drop magic.length).take 4
  if lengthBytes.length ≠ 4 then
    throw (.backup "backup manifest length is truncated")
  let manifestLength := unpackLength lengthBytes
  if manifestLength < 2 ∨ maxManifestBytes < manifestLength then
    throw (.backup "backup manifest length is invalid")
  let manifestBytes := (source.drop (magic.length + 4)).take manifestLength
  if manifestBytes.length ≠ manifestLength then
    throw (.backup "backup manifest is truncated")
  match validateJson library.conversions manifestBytes with
  | none => throw (.backup "backup manifest failed validation")
  | some manifest =>
      let ciphertextStart := magic.length + 4 + manifestLength
      if source.length < ciphertextStart + 16 + 1 then
        throw (.backup "backup ciphertext is missing")
      return {
        manifest, manifestBytes, ciphertextStart
        ciphertextBytes := source.length - ciphertextStart - 16
        tag := source.drop (source.length - 16) }

/-- `_decrypt_artifact`: the manifest, and what has been written. -/
def decryptArtifact (sourceKey artifact : Bytes) :
    Except BackupError (BackupManifest × Bytes) := do
  let header ← readArtifactHeader library artifact
  let salt ← decodeBase64url header.manifest.salt 32
  let key ← deriveKey library sourceKey salt
  let nonce ← decodeBase64url header.manifest.nonce 12
  let context := library.gcm.start key nonce header.manifestBytes
  if maxEncryptedBytes < header.ciphertextBytes then throw .library
  let ciphertext :=
    (artifact.drop header.ciphertextStart).take header.ciphertextBytes
  let (final, plaintext) := inChunks library.gcm.decrypt chunkBytes
    ciphertext.length context ciphertext
  if library.gcm.verify final header.tag = false then
    throw (.backup "backup authentication failed")
  if (plaintext.length : Int) ≠ header.manifest.databaseSizeBytes ∨
      hexDigest (library.sha256 plaintext) ≠ header.manifest.databaseSha256 then
    throw (.backup "backup database checksum verification failed")
  return (header.manifest, plaintext)

end Functions

end Backups

end ControlForge
