import ControlForge.Clock
import ControlForge.Foundation.Base64
import ControlForge.Foundation.JsonSort

/-!
# The manifest of a backup

`BackupManifest` is the authenticated head of an artifact: the canonical JSON
text that `_manifest_bytes` writes and `model_validate_json` reads.
-/

namespace ControlForge

namespace Backups

abbrev Bytes := List UInt8

/-! ## Records -/

inductive FormatVersion where
  | one
  | two
deriving DecidableEq

structure ManifestFields where
  formatVersion : FormatVersion
  backupId : String
  tenantId : String
  tenantIds : List String
  createdAt : Timestamp
  applicationVersion : String
  schemaVersions : List Int
  databaseSha256 : String
  databaseSizeBytes : Int
  salt : String
  nonce : String
deriving DecidableEq

namespace ManifestFields

variable (fields : ManifestFields)

/-- `^[0-9a-f-]{36}$`. -/
def isBackupId (identifier : String) : Bool :=
  identifier.length = 36 && identifier.toList.all fun character =>
    character.isDigit || ('a' ≤ character && character ≤ 'f') || character = '-'

/-- `^[a-f0-9]{64}$`. -/
def isDigest (text : String) : Bool :=
  text.length = 64 && text.toList.all fun character =>
    character.isDigit || ('a' ≤ character && character ≤ 'f')

/-- The bounds and patterns of the fields. -/
def bounded : Bool :=
  isBackupId fields.backupId &&
    1 ≤ fields.tenantId.length && fields.tenantId.length ≤ 128 &&
    fields.tenantIds.length ≤ 200 &&
    1 ≤ fields.applicationVersion.length &&
    fields.applicationVersion.length ≤ 64 &&
    1 ≤ fields.schemaVersions.length && fields.schemaVersions.length ≤ 1000 &&
    isDigest fields.databaseSha256 && 1 ≤ fields.databaseSizeBytes &&
    43 ≤ fields.salt.length && fields.salt.length ≤ 44 && fields.nonce.length = 16

/-- `validate_scope`.  A list is `sorted(set(...))` of itself when it grows
strictly. -/
def inScope : Bool :=
  match fields.formatVersion with
  | .one => fields.tenantIds = []
  | .two =>
      fields.tenantIds ≠ [] && fields.tenantIds.Pairwise (· < ·) &&
        fields.tenantIds.contains fields.tenantId &&
        fields.tenantIds.all fun value => value ≠ "" && value.length ≤ 128

end ManifestFields

structure BackupManifest extends ManifestFields where
  valid : (toManifestFields.bounded && toManifestFields.inScope) = true

/-- The constructor of the model. -/
def BackupManifest.ofFields (fields : ManifestFields) : Option BackupManifest :=
  if valid : (fields.bounded && fields.inScope) = true then some ⟨fields, valid⟩
  else none

/-- `network_ids`. -/
def BackupManifest.networkIds (manifest : BackupManifest) : List String :=
  match manifest.formatVersion with
  | .one => [manifest.tenantId]
  | .two => manifest.tenantIds

/-! ## Canonical JSON -/

/-- How the models read and write what JSON has no type for, or no single one:
the text of an instant, and what counts as an integer or an instant. -/
structure Conversions where
  dateText : Timestamp → String
  dateOf : Json → Option Timestamp
  intOf : Json → Option Int

structure Conversions.Lawful (conversions : Conversions) : Prop where
  date : ∀ time,
    conversions.dateOf (.str (conversions.dateText time)) = some time
  int : ∀ value, conversions.intOf (.int value) = some value

namespace FormatVersion

def number : FormatVersion → Int
  | one => 1
  | two => 2

def ofJson : Json → Option FormatVersion
  | .int 1 => some one
  | .int 2 => some two
  | _ => none

end FormatVersion

variable (conversions : Conversions)

/-- `model_dump`, with its keys in order.  Only `tenant_ids` has a default. -/
def ManifestFields.modelDump (fields : ManifestFields) : List (String × Json) :=
  [("application_version", .str fields.applicationVersion),
    ("backup_id", .str fields.backupId),
    ("created_at", .str (conversions.dateText fields.createdAt)),
    ("database_sha256", .str fields.databaseSha256),
    ("database_size_bytes", .int fields.databaseSizeBytes),
    ("encryption_algorithm", .str "AES-256-GCM"),
    ("format", .str "controlforge-standalone-backup"),
    ("format_version", .int fields.formatVersion.number),
    ("key_context", .str "controlforge/standalone/database-backup/v1"),
    ("key_derivation", .str "HKDF-SHA256"),
    ("nonce", .str fields.nonce),
    ("salt", .str fields.salt),
    ("schema_versions", .arr (fields.schemaVersions.map .int)),
    ("tenant_id", .str fields.tenantId)] ++
  if fields.tenantIds = [] then []
  else [("tenant_ids", .arr (fields.tenantIds.map .str))]

def utf8 (text : String) : Bytes :=
  text.toUTF8.data.toList

def utf8? (bytes : Bytes) : Option String :=
  String.fromUTF8? ⟨bytes.toArray⟩

/-- `_manifest_bytes`. -/
def manifestBytes (manifest : BackupManifest) : Bytes :=
  utf8 (Json.dumps true (.obj (manifest.modelDump conversions)))

def manifestKeys : List String :=
  ["format", "format_version", "backup_id", "tenant_id", "tenant_ids",
    "created_at", "application_version", "schema_versions", "database_sha256",
    "database_size_bytes", "encryption_algorithm", "key_derivation",
    "key_context", "salt", "nonce"]

def textOf : Json → Option String
  | .str text => some text
  | _ => none

def itemsOf : Json → Option (List Json)
  | .arr items => some items
  | _ => none

/-- A field that has one value. -/
def hasLiteral (members : List (String × Json)) (key literal : String) : Bool :=
  (members.lookup key).bind textOf = some literal

/-- The fields of a JSON object; no other is allowed. -/
def fieldsOf (members : List (String × Json)) : Option ManifestFields := do
  guard (members.all fun member => manifestKeys.contains member.1)
  guard (hasLiteral members "format" "controlforge-standalone-backup")
  let formatVersion ← (members.lookup "format_version").bind FormatVersion.ofJson
  let backupId ← (members.lookup "backup_id").bind textOf
  let tenantId ← (members.lookup "tenant_id").bind textOf
  let tenantIds ← match members.lookup "tenant_ids" with
    | none => some []
    | some value => (itemsOf value).bind (·.mapM textOf)
  let createdAt ← (members.lookup "created_at").bind conversions.dateOf
  let applicationVersion ← (members.lookup "application_version").bind textOf
  let schemaVersions ← (members.lookup "schema_versions").bind fun value =>
    (itemsOf value).bind (·.mapM conversions.intOf)
  let databaseSha256 ← (members.lookup "database_sha256").bind textOf
  let databaseSizeBytes ←
    (members.lookup "database_size_bytes").bind conversions.intOf
  guard (hasLiteral members "encryption_algorithm" "AES-256-GCM")
  guard (hasLiteral members "key_derivation" "HKDF-SHA256")
  guard (hasLiteral members "key_context"
    "controlforge/standalone/database-backup/v1")
  let salt ← (members.lookup "salt").bind textOf
  let nonce ← (members.lookup "nonce").bind textOf
  return {
    formatVersion, backupId, tenantId, tenantIds, createdAt, applicationVersion,
    schemaVersions, databaseSha256, databaseSizeBytes, salt, nonce }

/-- `model_validate_json`. -/
def validateJson (bytes : Bytes) : Option BackupManifest := do
  let text ← utf8? bytes
  match ← Json.loads text with
  | .obj members => (fieldsOf conversions members).bind BackupManifest.ofFields
  | _ => none

/-! ## Round trip -/

theorem utf8?_utf8 (text : String) : utf8? (utf8 text) = some text := by
  have valid : text.toByteArray.IsValidUTF8 := text.isValidUTF8
  simp only [utf8?, utf8, String.fromUTF8?, String.toUTF8_eq_toByteArray,
    Array.toArray_toList, valid, dite_true]
  rfl

theorem mapM_textOf (texts : List String) :
    texts.mapM (textOf ∘ Json.str) = some texts := by
  induction texts with
  | nil => rfl
  | cons text texts induction => simp [textOf, induction]

theorem FormatVersion.ofJson_number (version : FormatVersion) :
    FormatVersion.ofJson (.int version.number) = some version := by
  cases version <;> rfl

theorem BackupManifest.ofFields_toManifestFields (manifest : BackupManifest) :
    BackupManifest.ofFields manifest.toManifestFields = some manifest := by
  simp [BackupManifest.ofFields, manifest.valid]

theorem wellFormedItems_ints (values : List Int) :
    Json.WellFormedItems (values.map .int) := by
  rw [Json.wellFormedItems_iff]
  intro item member
  obtain ⟨value, -, rfl⟩ := List.mem_map.mp member
  trivial

theorem modelDump_wellFormed (fields : ManifestFields) :
    (Json.obj (fields.modelDump conversions)).WellFormed := by
  unfold ManifestFields.modelDump
  split_ifs
  · simp [Json.WellFormed, Json.WellFormedMembers, wellFormedItems_ints]
  · simp [Json.WellFormed, Json.WellFormedMembers, wellFormedItems_ints]

variable {conversions} (lawful : conversions.Lawful)

include lawful

theorem mapM_intOf (values : List Int) :
    values.mapM (conversions.intOf ∘ Json.int) = some values := by
  induction values with
  | nil => rfl
  | cons value values induction => simp [lawful.int, induction]

theorem fieldsOf_modelDump (fields : ManifestFields) :
    fieldsOf conversions (fields.modelDump conversions) = some fields := by
  by_cases single : fields.tenantIds = []
  · simp [fieldsOf, ManifestFields.modelDump, single, List.lookup_cons, List.lookup_nil,
      hasLiteral, textOf, itemsOf, manifestKeys, FormatVersion.ofJson_number,
      mapM_intOf lawful, lawful.date, lawful.int]
    rw [← single]
  · simp [fieldsOf, ManifestFields.modelDump, single, List.lookup_cons,
      hasLiteral, textOf, itemsOf, manifestKeys, FormatVersion.ofJson_number,
      mapM_intOf lawful, mapM_textOf, lawful.date, lawful.int]

/-- A manifest is read back as it was written. -/
theorem validateJson_manifestBytes (manifest : BackupManifest) :
    validateJson conversions (manifestBytes conversions manifest) =
      some manifest := by
  have read := Json.loads_dumps true
    (modelDump_wellFormed conversions manifest.toManifestFields)
  simp [validateJson, manifestBytes, utf8?_utf8, read, fieldsOf_modelDump lawful,
    BackupManifest.ofFields_toManifestFields]

end Backups

end ControlForge
