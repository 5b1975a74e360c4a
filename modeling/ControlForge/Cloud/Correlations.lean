import ControlForge.Cloud.Canonical
import ControlForge.Cloud.Tables
import ControlForge.Detection.History

/-!
# Correlations of the cloud runtime

`statefulDetections` evaluates a correlation contract with one query over the
stored events of a tenant.  The contracts are compiled from those of the
standalone runtime.
-/

namespace ControlForge

namespace Cloud

open Detection (DetectionError Library Number StatefulCorrelationSpec byteCount
  coordinates distinctAccounts finiteNumber sessionText sourceAddress
  statefulCorrelations)

/-- What the correlations of the cloud runtime call. -/
structure Script (F : Type) where
  library : Library F
  /-- The number `JSON.stringify` prints for a number. -/
  reprint : Number → Number
  /-- The number an integer of the database becomes. -/
  toNumber : Int → Int
  /-- `toFixed`. -/
  toFixed : F → Nat → String
  /-- The digest of a compiled contract. -/
  ruleDigest : String → String

/-- The integers that both runtimes have exactly. -/
def IsSafe (value : Int) : Prop :=
  -maxSafeInteger ≤ value ∧ value ≤ maxSafeInteger

instance (value : Int) : Decidable (IsSafe value) :=
  inferInstanceAs (Decidable (_ ∧ _))

/-- The content of a row. -/
def EventRow.content (row : EventRow) : SecurityEvent where
  eventId := row.eventId
  eventType := row.eventType
  timestamp := row.occurredAt
  actor := row.actor
  sourceIp := row.sourceIp
  target := row.target
  deviceId := row.deviceId
  attributes := row.attributes

/-! ## Queries -/

/-- `julianday`, in milliseconds. -/
def millisecond (row : EventRow) : Int :=
  Detection.julianday 0 row.occurredAt.instant

def windowMilliseconds (windowMinutes : Nat) : Int :=
  windowMinutes * 60000

/-- `CAST(... AS INTEGER)`: the next integer towards zero, of 64 bits. -/
def castInteger {F : Type} (library : Library F) (number : Number) : Int :=
  max (-9223372036854775808) (min 9223372036854775807 (number.whole library))

/-- `lower`: no other letters than those of ASCII are mapped. -/
def lower (text : String) : String :=
  String.ofList (text.toList.map Char.toLower)

/-- `json_extract`, where it is a text. -/
def jsonExtract (reprint : Number → Number) : Json → Option String
  | .str text => some text
  | .arr items => some (canonicalize (scriptValue reprint (.arr items)))
  | .obj members => some (canonicalize (scriptValue reprint (.obj members)))
  | .null | .bool _ | .int _ | .float _ => none

/-- The order of a predecessor query. -/
def rowKey (row : EventRow) : Int ×ₗ String :=
  toLex (millisecond row, row.eventId)

section Queries

variable {F : Type} (script : Script F) (event : EventRow)
  (windowMinutes : Nat) (row : EventRow)

def isWithin : Bool :=
  millisecond event - windowMilliseconds windowMinutes ≤ millisecond row ∧
    millisecond row ≤ millisecond event

/-- The bytes of a row that the bulk-access query counts. -/
def accessBytes : Option Int :=
  if row.tenantId = event.tenantId ∧ row.actor = event.actor ∧
      row.eventType = "sensitive_data_access" ∧
      isWithin event windowMinutes row = true then
    (finiteNumber (row.attributes.get "bytes")).map
      (castInteger script.library)
  else none

def isPreviousLogin : Bool :=
  row.tenantId = event.tenantId ∧ row.actor = event.actor ∧
    row.eventType = "authentication_success" ∧
    millisecond row < millisecond event

def isFailureRow : Bool :=
  row.tenantId = event.tenantId ∧ row.sourceIp = event.sourceIp ∧
    row.eventType = "edge_auth_failure" ∧
    isWithin event windowMinutes row = true

def isPreviousUse (sessionHash : String) : Bool :=
  row.tenantId = event.tenantId ∧ row.eventType = "edge_session_use" ∧
    jsonExtract script.reprint (row.attributes.get "session_id_hash") =
      some sessionHash ∧
    millisecond row < millisecond event ∧
    millisecond event - windowMilliseconds windowMinutes ≤ millisecond row

end Queries

/-! ## Alerts -/

section Alerts

variable {F : Type} (script : Script F)

/-- `alertFingerprintV1`. -/
def alertFingerprint (tenantId ruleId eventId : String) : String :=
  String.ofList ((script.library.sha256 (Json.dumps false
    (.arr [.str "controlforge-alert", .int 1, .str tenantId, .str ruleId,
      .str eventId]))).toList.take 32)

/-- `createAlert`. -/
def createAlert (event : EventRow) (spec : StatefulCorrelationSpec)
    (reasons : List String) : DetectionAlert where
  alertId := alertFingerprint script event.tenantId spec.ruleId event.eventId
  ruleId := spec.ruleId
  title := spec.title
  severity := spec.severity
  eventId := event.eventId
  actor := event.actor
  reasons
  tags := spec.tags
  ruleVersion := spec.ruleVersion
  ruleDigest := script.ruleDigest spec.ruleId
  createdAt := event.occurredAt

/-- `correlation`. -/
def correlation (eventType : String) :
    Except DetectionError StatefulCorrelationSpec :=
  match statefulCorrelations.find? (·.eventType = eventType) with
  | some spec => .ok spec
  | none =>
      .error (.value ("missing compiled correlation for " ++ eventType))

/-- `requiredNumber`. -/
def requiredNumber {Value : Type} (value : Option Value) (name : String) :
    Except DetectionError Value :=
  match value with
  | some value => .ok value
  | none => .error (.value ("compiled correlation is missing " ++ name))

def bulkAccess (event : EventRow) (rows : List EventRow) :
    Except DetectionError (List DetectionAlert) :=
  if event.eventType = "sensitive_data_access" ∧
      (byteCount event.content).isSome = true then do
    let spec ← correlation event.eventType
    let windowMinutes ← requiredNumber spec.windowMinutes "window_minutes"
    let eventThreshold ← requiredNumber spec.eventThreshold "event_threshold"
    let byteThreshold ← requiredNumber spec.byteThreshold "byte_threshold"
    let samples := rows.filterMap (accessBytes script event windowMinutes)
    let eventCount := script.toNumber samples.length
    let totalBytes := script.toNumber samples.sum
    if eventThreshold ≤ eventCount ∨ byteThreshold ≤ totalBytes then
      return [createAlert script event spec
        [toString eventCount ++ " access events within " ++
            toString windowMinutes ++ "m",
          toString totalBytes ++ " bytes accessed"]]
    else return []
  else .ok []

def impossibleTravel (event : EventRow) (rows : List EventRow) :
    Except DetectionError (List DetectionAlert) :=
  match coordinates event.content with
  | none => .ok []
  | some current =>
      if event.eventType = "authentication_success" then do
        let spec ← correlation event.eventType
        let maximumSpeed ←
          requiredNumber spec.maximumSpeedKph "maximum_speed_kph"
        match newest rowKey (rows.filter (isPreviousLogin event)) with
        | [] => return []
        | previous :: _ =>
            match coordinates previous.content with
            | none => return []
            | some before =>
                let elapsed :=
                  event.occurredAt.instant - previous.occurredAt.instant
                let hours := script.library.hours elapsed
                let distance := script.library.haversineKm before.1 before.2
                  current.1 current.2
                let speed := script.library.divide distance hours
                if 0 < elapsed ∧
                    script.library.exceeds speed maximumSpeed = true then
                  return [createAlert script event spec
                    ["calculated travel velocity " ++
                        script.toFixed speed 0 ++ " km/h",
                      "distance " ++ script.toFixed distance 0 ++
                        " km over " ++ script.toFixed hours 2 ++ "h"]]
                else return []
      else .ok []

def credentialStuffing (event : EventRow) (rows : List EventRow) :
    Except DetectionError (List DetectionAlert) :=
  match sourceAddress event.content with
  | none => .ok []
  | some address =>
      if event.eventType = "edge_auth_failure" then do
        let spec ← correlation event.eventType
        let windowMinutes ← requiredNumber spec.windowMinutes "window_minutes"
        let eventThreshold ←
          requiredNumber spec.eventThreshold "event_threshold"
        let distinctThreshold ←
          requiredNumber spec.distinctThreshold "distinct_threshold"
        let failures := rows.filter (isFailureRow event windowMinutes)
        let eventCount := script.toNumber failures.length
        let accounts := script.toNumber
          (distinctAccounts lower (failures.map (·.actor)))
        if eventThreshold ≤ eventCount ∧ distinctThreshold ≤ accounts then
          return [createAlert script event spec
            [toString eventCount ++ " failed authentications from " ++ address,
              toString accounts ++ " distinct accounts within " ++
                toString windowMinutes ++ "m"]]
        else return []
      else .ok []

/-- `text(attrs.session_id_hash)`. -/
def sessionHash (event : EventRow) : String :=
  (sessionText event.content).getD ""

def sessionReplay (event : EventRow) (rows : List EventRow) :
    Except DetectionError (List DetectionAlert) :=
  match sourceAddress event.content with
  | none => .ok []
  | some address =>
      if event.eventType = "edge_session_use" ∧
          12 ≤ Json.unitLength (sessionHash event) then do
        let spec ← correlation event.eventType
        let windowMinutes ← requiredNumber spec.windowMinutes "window_minutes"
        match newest rowKey (rows.filter fun row =>
            isPreviousUse script event windowMinutes row
              (sessionHash event)) with
        | [] => return []
        | previous :: _ =>
            match sourceAddress previous.content with
            | none => return []
            | some before =>
                if before = address then return []
                else
                  return [createAlert script event spec
                    ["session hash reused from " ++ before ++ " and " ++
                        address,
                      "reuse occurred within " ++ toString windowMinutes ++
                        "m"]]
      else .ok []

/-- `statefulDetections`, with no snapshot to replay, on the rows of
`events`. -/
def statefulDetections (event : EventRow) (rows : List EventRow) :
    Except DetectionError (List DetectionAlert) := do
  let bulk ← bulkAccess script event rows
  let travel ← impossibleTravel script event rows
  let stuffing ← credentialStuffing script event rows
  let replay ← sessionReplay script event rows
  return bulk ++ travel ++ stuffing ++ replay

end Alerts

end Cloud

end ControlForge
