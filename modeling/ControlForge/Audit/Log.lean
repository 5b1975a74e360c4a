import ControlForge.Audit.Record
import ControlForge.Foundation.OrderBy
import ControlForge.Foundation.Table

/-!
# The audit log

`append` adds one entry and one checkpoint to the tables of the log; `verify`
recomputes every link of a tenant's chain and every checkpoint.  The keyed
hash is a parameter: the hexadecimal HMAC-SHA-256 under the audit key.
-/

namespace ControlForge

namespace Audit

/-- A row of `audit_log`. -/
@[ext] structure EntryRow where
  sequence : Int
  auditId : String
  tenantId : String
  action : String
  actorType : String
  actorId : String
  resourceType : String
  resourceId : String
  payloadJson : String
  previousHmac : Option String
  integrityHmac : String
  createdAt : String
deriving DecidableEq

/-- A row of `audit_checkpoints`. -/
@[ext] structure CheckpointRow where
  checkpointId : String
  tenantId : String
  throughSequence : Int
  terminalHmac : String
  signature : String
  createdAt : String
deriving DecidableEq

/-- The primary key of an entry, and its unique identifier. -/
def EntryRow.clash (left right : EntryRow) : Bool :=
  (left.sequence = right.sequence : Bool) ||
    (left.auditId = right.auditId : Bool)

/-- The primary key of a checkpoint, and `UNIQUE (tenant_id,
through_sequence)`. -/
def CheckpointRow.clash (left right : CheckpointRow) : Bool :=
  (left.checkpointId = right.checkpointId : Bool) ||
    (left.tenantId = right.tenantId ∧
      left.throughSequence = right.throughSequence : Bool)

/-- The stored content of the log. -/
structure Tables where
  entries : Table EntryRow EntryRow.clash
  checkpoints : Table CheckpointRow CheckpointRow.clash

/-- The tables, the counter of `AUTOINCREMENT`, and the known tenants. -/
structure Log where
  tables : Tables
  lastSequence : Int
  tenants : List String

def isAscii (text : String) : Bool :=
  text.toList.all fun character => character.toNat < 128

/-- The keyed hash of `StandaloneAuditLog`; its texts are hexadecimal. -/
structure AuditKey where
  hmac : String → String
  ascii : ∀ material, isAscii (hmac material) = true

/-! ## What is signed -/

def chainVersion : String := "controlforge-audit-v1"

def optionalText : Option String → Json
  | some text => .str text
  | none => .null

/-- The fields of an entry that its tag covers, beside the tag before it. -/
structure EntryContent where
  tenantId : String
  auditId : String
  action : String
  actorType : String
  actorId : String
  resourceType : String
  resourceId : String
  payloadJson : String
  createdAt : String
deriving DecidableEq

/-- The object `_entry_hmac` signs. -/
def entryObject (previousHmac : Option String) (content : EntryContent) :
    Json :=
  .obj [("action", .str content.action),
    ("actor_id", .str content.actorId),
    ("actor_type", .str content.actorType),
    ("audit_id", .str content.auditId),
    ("chain_version", .str chainVersion),
    ("created_at", .str content.createdAt),
    ("payload_json", .str content.payloadJson),
    ("previous_hmac", optionalText previousHmac),
    ("resource_id", .str content.resourceId),
    ("resource_type", .str content.resourceType),
    ("tenant_id", .str content.tenantId)]

def entryMaterial (previousHmac : Option String) (content : EntryContent) :
    String :=
  Json.dumps true (Json.sortKeys (entryObject previousHmac content))

/-- The object `_checkpoint_hmac` signs. -/
def checkpointObject (checkpointId tenantId : String) (throughSequence : Int)
    (terminalHmac createdAt : String) : Json :=
  .obj [("chain_version", .str chainVersion),
    ("checkpoint_id", .str checkpointId),
    ("created_at", .str createdAt),
    ("tenant_id", .str tenantId),
    ("terminal_hmac", .str terminalHmac),
    ("through_sequence", .int throughSequence)]

def checkpointMaterial (checkpointId tenantId : String)
    (throughSequence : Int) (terminalHmac createdAt : String) : String :=
  Json.dumps true (Json.sortKeys (checkpointObject checkpointId tenantId
    throughSequence terminalHmac createdAt))

def EntryRow.content (row : EntryRow) : EntryContent where
  tenantId := row.tenantId
  auditId := row.auditId
  action := row.action
  actorType := row.actorType
  actorId := row.actorId
  resourceType := row.resourceType
  resourceId := row.resourceId
  payloadJson := row.payloadJson
  createdAt := row.createdAt

def CheckpointRow.material (row : CheckpointRow) : String :=
  checkpointMaterial row.checkpointId row.tenantId row.throughSequence
    row.terminalHmac row.createdAt

/-! ## Queries -/

/-- `SELECT * FROM audit_log WHERE tenant_id = ? ORDER BY sequence`. -/
def tenantEntries (tables : Tables) (tenantId : String) : List EntryRow :=
  orderBy EntryRow.sequence
    (tables.entries.rows.filter fun row => row.tenantId = tenantId)

/-- `SELECT * FROM audit_checkpoints WHERE tenant_id = ?
ORDER BY through_sequence`. -/
def tenantCheckpoints (tables : Tables) (tenantId : String) :
    List CheckpointRow :=
  orderBy CheckpointRow.throughSequence
    (tables.checkpoints.rows.filter fun row => row.tenantId = tenantId)

/-! ## Append -/

section Append

/-- What `allow_nan=False` refuses. -/
def isFinite : FloatText → Bool
  | .finite _ _ => true
  | _ => false

mutual

def allFinite : Json → Bool
  | .float value => isFinite value
  | .arr items => allFiniteItems items
  | .obj members => allFiniteMembers members
  | _ => true

def allFiniteItems : List Json → Bool
  | [] => true
  | item :: items => allFinite item && allFiniteItems items

def allFiniteMembers : List (String × Json) → Bool
  | [] => true
  | (_, value) :: members => allFinite value && allFiniteMembers members

end

/-- `_MAX_PAYLOAD_BYTES`. -/
def maxPayloadBytes : Nat := 65536

def raiseUnless (condition : Bool) (message : String) :
    Except AuditError Unit :=
  if condition then .ok () else .error (.invalid message)

/-- An identity is present and bounded. -/
def checkName (name value : String) : Except AuditError Unit :=
  raiseUnless (1 ≤ value.length && value.length ≤ 256)
    ("audit " ++ name ++ " is invalid")

def payloadText (payload : Dict) : String :=
  Json.dumps false (Json.sortKeys payload.json)

/-- The checks of `append` before it reads the log. -/
def checkRecord (record : AuditRecord) : Except AuditError Unit := do
  checkName "tenant_id" record.tenantId
  checkName "action" record.action
  checkName "actor_type" record.actorType
  checkName "actor_id" record.actorId
  checkName "resource_type" record.resourceType
  checkName "resource_id" record.resourceId
  raiseUnless (allFinite record.payload.json)
    "audit payload is not canonical JSON"
  raiseUnless ((payloadText record.payload).utf8ByteSize ≤ maxPayloadBytes)
    "audit payload exceeds the bounded size"

/-- `SELECT integrity_hmac ... ORDER BY sequence DESC LIMIT 1`. -/
def lastHmac (tables : Tables) (tenantId : String) : Option String :=
  (tenantEntries tables tenantId).getLast?.map EntryRow.integrityHmac

def recordContent (record : AuditRecord) (auditId : String) :
    EntryContent where
  tenantId := record.tenantId
  auditId
  action := record.action
  actorType := record.actorType
  actorId := record.actorId
  resourceType := record.resourceType
  resourceId := record.resourceId
  payloadJson := payloadText record.payload
  createdAt := utcText record.now

/-- The stored form of an entry. -/
def entryRow (key : AuditKey) (sequence : Int) (previousHmac : Option String)
    (content : EntryContent) : EntryRow where
  sequence
  auditId := content.auditId
  tenantId := content.tenantId
  action := content.action
  actorType := content.actorType
  actorId := content.actorId
  resourceType := content.resourceType
  resourceId := content.resourceId
  payloadJson := content.payloadJson
  previousHmac
  integrityHmac := key.hmac (entryMaterial previousHmac content)
  createdAt := content.createdAt

/-- The checkpoint through an entry. -/
def checkpointRow (key : AuditKey) (checkpointId : String)
    (entry : EntryRow) : CheckpointRow where
  checkpointId
  tenantId := entry.tenantId
  throughSequence := entry.sequence
  terminalHmac := entry.integrityHmac
  signature := key.hmac (checkpointMaterial checkpointId entry.tenantId
    entry.sequence entry.integrityHmac entry.createdAt)
  createdAt := entry.createdAt

/-- The entry `append` writes. -/
def nextEntry (key : AuditKey) (record : AuditRecord) (auditId : String)
    (log : Log) : EntryRow :=
  entryRow key (log.lastSequence + 1) (lastHmac log.tables record.tenantId)
    (recordContent record auditId)

def insertEntry (row : EntryRow) : Transaction Log AuditError Unit :=
  fun log =>
    if row.tenantId ∈ log.tenants then
      match log.tables.entries.insert row with
      | some entries => .ok ((), { log with
          tables := { log.tables with entries }
          lastSequence := row.sequence })
      | none => .error (.integrity "UNIQUE constraint failed")
    else .error (.integrity "FOREIGN KEY constraint failed")

def insertCheckpoint (row : CheckpointRow) : Transaction Log AuditError Unit :=
  fun log =>
    match log.tables.checkpoints.insert row with
    | some checkpoints => .ok ((), { log with
        tables := { log.tables with checkpoints } })
    | none => .error (.integrity "UNIQUE constraint failed")

/-- `StandaloneAuditLog.append` inside the caller's transaction; the two
identifiers are drawn by the caller. -/
def append (key : AuditKey) (auditId checkpointId : String)
    (record : AuditRecord) : Transaction Log AuditError EntryRow := do
  Transaction.ofExcept (checkRecord record)
  let log ← get
  let entry := nextEntry key record auditId log
  insertEntry entry
  insertCheckpoint (checkpointRow key checkpointId entry)
  return entry

end Append

/-! ## Verification -/

structure AuditVerification where
  valid : Bool
  entriesChecked : Nat
  checkpointsChecked : Nat
  terminalHmac : Option String
  failureSequence : Option Int
  reason : Option String
deriving DecidableEq

/-- The `TypeError` of `hmac.compare_digest` on texts that are not ASCII. -/
structure DigestTypeError where
  message : String
deriving DecidableEq

/-- `hmac.compare_digest`. -/
def compareDigest (left right : String) : Except DigestTypeError Bool :=
  if isAscii left && isAscii right then .ok (left = right)
  else .error
    ⟨"comparing strings with non-ASCII characters is not supported"⟩

/-- `_invalid`. -/
def invalid (entriesChecked checkpointsChecked : Nat)
    (terminalHmac : Option String) (sequence : Option Int) (reason : String) :
    AuditVerification where
  valid := false
  entriesChecked
  checkpointsChecked
  terminalHmac
  failureSequence := sequence
  reason := some reason

/-- The first reason an entry does not continue the chain. -/
def entryFault (key : AuditKey) (previousHmac : Option String)
    (row : EntryRow) : Except DigestTypeError (Option String) :=
  match Json.loads row.payloadJson with
  | none => .ok (some "payload is not JSON")
  | some (.obj _) =>
      if row.previousHmac ≠ previousHmac then .ok (some "chain link mismatch")
      else do
        let same ← compareDigest row.integrityHmac
          (key.hmac (entryMaterial previousHmac row.content))
        return if same then none else some "entry HMAC mismatch"
  | some _ => .ok (some "payload is not an object")

/-- The loop over the entries: a failed report, or the tags by sequence and
the terminal tag. -/
def verifyEntries (key : AuditKey) (index : Nat)
    (previousHmac : Option String) (bySequence : List (Int × String)) :
    List EntryRow → Except DigestTypeError
      (AuditVerification ⊕ (List (Int × String) × Option String))
  | [] => .ok (.inr (bySequence, previousHmac))
  | row :: rows => do
      match ← entryFault key previousHmac row with
      | some reason =>
          return .inl (invalid index 0 previousHmac (some row.sequence) reason)
      | none =>
          verifyEntries key (index + 1) (some row.integrityHmac)
            ((row.sequence, row.integrityHmac) :: bySequence) rows

/-- The first reason a checkpoint is not one of this chain. -/
def checkpointFault (key : AuditKey) (bySequence : List (Int × String))
    (row : CheckpointRow) : Except DigestTypeError (Option String) :=
  if bySequence.lookup row.throughSequence ≠ some row.terminalHmac then
    .ok (some "checkpoint does not reference its audit entry")
  else do
    let same ← compareDigest row.signature (key.hmac row.material)
    return if same then none else some "checkpoint HMAC mismatch"

/-- The loop over the checkpoints: a failed report, if there is one. -/
def verifyCheckpoints (key : AuditKey) (entryCount : Nat)
    (terminalHmac : Option String) (bySequence : List (Int × String))
    (index : Nat) : List CheckpointRow →
      Except DigestTypeError (Option AuditVerification)
  | [] => .ok none
  | row :: rows => do
      match ← checkpointFault key bySequence row with
      | some reason =>
          return some (invalid entryCount index terminalHmac
            (some row.throughSequence) reason)
      | none =>
          verifyCheckpoints key entryCount terminalHmac bySequence (index + 1)
            rows

/-- `StandaloneAuditLog.verify`. -/
def verify (key : AuditKey) (tables : Tables) (tenantId : String) :
    Except DigestTypeError AuditVerification := do
  let entries := tenantEntries tables tenantId
  let checkpoints := tenantCheckpoints tables tenantId
  match ← verifyEntries key 0 none [] entries with
  | .inl report => return report
  | .inr (bySequence, terminalHmac) =>
      if checkpoints.length ≠ entries.length then
        return invalid entries.length 0 terminalHmac none
          "checkpoint count does not match entry count"
      else
        match ← verifyCheckpoints key entries.length terminalHmac bySequence 0
            checkpoints with
        | some report => return report
        | none =>
            return {
              valid := true
              entriesChecked := entries.length
              checkpointsChecked := checkpoints.length
              terminalHmac
              failureSequence := none
              reason := none }

end Audit

end ControlForge
