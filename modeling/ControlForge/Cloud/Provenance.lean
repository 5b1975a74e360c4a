import ControlForge.Cloud.Canonical
import ControlForge.Detection.Rules

/-!
# Compiled provenance

The cloud runtime imports the compiled artifact as JSON.  An alert keeps the
entry of its rule, without the digest, as a snapshot, and a replay accepts the
snapshot again by its digest and its shape.
-/

namespace ControlForge

namespace Cloud

open Detection (Artifact BuiltinDetectionSpec Members Number SigmaRule
  StatefulCorrelationSpec)

/-- Why a snapshot or a provenance is refused. -/
inductive SnapshotError where
  | missingProvenance (ruleId : String)
  | invalidProvenance (ruleId : String)
  | invalidSnapshot
  | nonFiniteNumber
  | digestMismatch
  | unsupportedShape
deriving DecidableEq

/-- The text of the error. -/
def SnapshotError.message : SnapshotError → String
  | .missingProvenance ruleId => "missing compiled provenance for " ++ ruleId
  | .invalidProvenance ruleId => "invalid compiled provenance for " ++ ruleId
  | .invalidSnapshot => "stored rule snapshot provenance is invalid"
  | .nonFiniteNumber => "snapshot contains a non-finite number"
  | .digestMismatch => "stored rule snapshot digest does not match"
  | .unsupportedShape => "stored rule snapshot shape is unsupported"

inductive SnapshotKind where
  | sigma
  | builtin
  | correlation
deriving DecidableEq

/-- `DetectionSnapshot`. -/
structure DetectionSnapshot where
  kind : SnapshotKind
  rule : Members

/-! ## Shapes -/

def hasOnlyKeys (value : Members) (allowed : List String) : Bool :=
  value.all fun member => member.1 ∈ allowed

def boundedString (maximum : Nat) : Option Json → Bool
  | some (.str text) =>
      0 < Json.unitLength text ∧ Json.unitLength text ≤ maximum
  | _ => false

def validVersion : Option Json → Bool
  | some (.int version) => 1 ≤ version ∧ version ≤ maxSafeInteger
  | _ => false

def severityValues : List String :=
  ["informational", "low", "medium", "high", "critical"]

def validSeverity : Option Json → Bool
  | some (.str text) => text ∈ severityValues
  | _ => false

def validTags : Option Json → Bool
  | some (.arr items) =>
      items.length ≤ 128 && items.all fun item => boundedString 128 (some item)
  | _ => false

def isRecord : Option Json → Bool
  | some (.obj _) => true
  | _ => false

def parseSigmaSnapshot (value : Members) : Bool :=
  hasOnlyKeys value
    ["id", "rule_version", "title", "description", "status", "logsource",
      "detection", "level", "tags"] &&
  boundedString 128 (value.lookup "id") &&
  validVersion (value.lookup "rule_version") &&
  boundedString 256 (value.lookup "title") &&
  validSeverity (value.lookup "level") &&
  validTags (value.lookup "tags") &&
  isRecord (value.lookup "detection")

def validOutcome : Json → Bool
  | .obj outcome =>
      hasOnlyKeys outcome ["value", "title", "severity"] &&
      boundedString 128 (outcome.lookup "value") &&
      boundedString 256 (outcome.lookup "title") &&
      validSeverity (outcome.lookup "severity")
  | _ => false

def validOutcomes : Option Json → Bool
  | some (.arr outcomes) =>
      1 ≤ outcomes.length && outcomes.length ≤ 32 && outcomes.all validOutcome
  | _ => false

def parseBuiltinSnapshot (value : Members) : Bool :=
  hasOnlyKeys value
    ["rule_id", "rule_version", "event_type", "attribute", "outcomes",
      "tags"] &&
  boundedString 128 (value.lookup "rule_id") &&
  validVersion (value.lookup "rule_version") &&
  boundedString 128 (value.lookup "event_type") &&
  boundedString 128 (value.lookup "attribute") &&
  validTags (value.lookup "tags") &&
  validOutcomes (value.lookup "outcomes")

/-- A number that is no integer is positive unless it has a sign: it is not
zero. -/
def nullablePositiveNumber : Option Json → Bool
  | some .null => true
  | some (.int value) => 0 < value
  | some (.float (.finite literal _)) => literal.head? ≠ some '-'
  | _ => false

def parseCorrelationSnapshot (value : Members) : Bool :=
  hasOnlyKeys value
    ["rule_id", "rule_version", "title", "severity", "tags", "event_type",
      "window_minutes", "event_threshold", "distinct_threshold",
      "byte_threshold", "maximum_speed_kph"] &&
  boundedString 128 (value.lookup "rule_id") &&
  validVersion (value.lookup "rule_version") &&
  boundedString 256 (value.lookup "title") &&
  validSeverity (value.lookup "severity") &&
  validTags (value.lookup "tags") &&
  boundedString 128 (value.lookup "event_type") &&
  nullablePositiveNumber (value.lookup "window_minutes") &&
  nullablePositiveNumber (value.lookup "event_threshold") &&
  nullablePositiveNumber (value.lookup "distinct_threshold") &&
  nullablePositiveNumber (value.lookup "byte_threshold") &&
  nullablePositiveNumber (value.lookup "maximum_speed_kph")

/-! ## Snapshots -/

def isHexDigit (character : Char) : Bool :=
  character.isDigit || ('a' ≤ character && character ≤ 'f')

/-- 64 hexadecimal digits. -/
def isHexDigest (text : List Char) : Bool :=
  text.length = 64 && text.all isHexDigit

/-- `/^sha256:[0-9a-f]{64}$/u`. -/
def isDigest (text : String) : Bool :=
  text.toList.take 7 = "sha256:".toList && isHexDigest (text.toList.drop 7)

section Snapshots

variable (sha256 : String → String) (reprint : Number → Number)

/-- `canonicalJson`. -/
def canonicalJson (value : Json) : Except SnapshotError String :=
  if value.isStandard = true then .ok (canonicalize value)
  else .error .nonFiniteNumber

def parseDetectionSnapshot (snapshot : Json) (expectedDigest : String) :
    Except SnapshotError DetectionSnapshot :=
  match snapshot with
  | .obj value =>
      if isDigest expectedDigest = true then do
        let text ← canonicalJson (.obj value)
        if "sha256:" ++ sha256 text ≠ expectedDigest then
          throw .digestMismatch
        let rule := value ++ [("rule_digest", .str expectedDigest)]
        if parseSigmaSnapshot value = true then return ⟨.sigma, rule⟩
        if parseBuiltinSnapshot value = true then return ⟨.builtin, rule⟩
        if parseCorrelationSnapshot value = true then
          return ⟨.correlation, rule⟩
        throw .unsupportedShape
      else .error .invalidSnapshot
  | _ => .error .invalidSnapshot

/-! ## The artifact -/

/-- The members of an object as they are read. -/
def scriptMembers (members : Members) : Members :=
  Json.renumberMembers (reprinted reprint) members

/-- The import of the compiled artifact: its text is one of JSON when its
numbers are finite. -/
def importArtifact (artifact : Artifact) : Option Artifact :=
  if artifact.json.isStandard = true then
    some {
      contractVersion := artifact.contractVersion
      rules := artifact.rules.map (scriptMembers reprint)
      builtins := artifact.builtins.map (scriptMembers reprint)
      correlations := artifact.correlations.map (scriptMembers reprint) }
  else none

/-- `CompiledDetectionProvenance`. -/
structure Provenance where
  ruleVersion : Json
  ruleDigest : String
  ruleSnapshot : Members

/-- The entry has an identifier. -/
def isNamed (key ruleId : String) (entry : Members) : Bool :=
  match entry.lookup key with
  | some (.str text) => text = ruleId
  | _ => false

/-- The entry without its digest. -/
def snapshotOf (entry : Members) : Members :=
  entry.filter fun member => member.1 ≠ "rule_digest"

def compiledDetectionProvenance (artifact : Artifact) (ruleId : String) :
    Except SnapshotError Provenance :=
  let candidate :=
    (artifact.rules.find? (isNamed "id" ruleId)).or
      ((artifact.builtins.find? (isNamed "rule_id" ruleId)).or
        (artifact.correlations.find? (isNamed "rule_id" ruleId)))
  match candidate with
  | none => .error (.missingProvenance ruleId)
  | some entry =>
      match entry.lookup "rule_version", entry.lookup "rule_digest" with
      | some ruleVersion, some (.str ruleDigest) =>
          if ruleVersion.isNumber = true then
            .ok ⟨ruleVersion, ruleDigest, snapshotOf entry⟩
          else .error (.invalidProvenance ruleId)
      | _, _ => .error (.invalidProvenance ruleId)

end Snapshots

end Cloud

end ControlForge
