import ControlForge.Foundation.Streams
import ControlForge.Telemetry.Event

/-!
# Correlation contracts

The contracts of the stateful detections, and what the detectors share: the
attributes of an event, its numbers, and the alerts of a contract.  Hashing,
case folding and the arithmetic of floating-point numbers are parameters.
-/

namespace ControlForge

/-- `get` of a dictionary of JSON values, with a default. -/
def Dict.getD (dict : Dict) (key : String) (default : Json) : Json :=
  (dict.members.lookup key).getD default

def Dict.get (dict : Dict) (key : String) : Json :=
  dict.getD key .null

namespace Detection

inductive DetectionError where
  | value (message : String)
  | runtime (message : String)
deriving DecidableEq

/-- `timedelta(minutes=...)`. -/
def minutes (count : Nat) : Timestamp :=
  seconds (60 * count)

/-- `int(window.total_seconds() / 60)`. -/
def wholeMinutes (window : Timestamp) : Int :=
  window / 60000000

theorem wholeMinutes_minutes (count : Nat) :
    wholeMinutes (minutes count) = count := by
  unfold wholeMinutes minutes seconds
  omega

/-! ## Contracts -/

/-- `StatefulCorrelationSpec`. -/
structure StatefulCorrelationSpec where
  ruleId : String
  ruleVersion : Nat
  title : String
  severity : Severity
  tags : List String
  eventType : String
  windowMinutes : Option Nat
  eventThreshold : Option Nat
  distinctThreshold : Option Nat
  byteThreshold : Option Int
  maximumSpeedKph : Option FloatText
deriving DecidableEq

def bulkAccessSpec : StatefulCorrelationSpec where
  ruleId := "CF-INSIDER-001"
  ruleVersion := 1
  title := "Unusual sensitive-data access volume"
  severity := .high
  tags := ["insider-risk", "financial-data", "behavioral-analytics"]
  eventType := "sensitive_data_access"
  windowMinutes := some 15
  eventThreshold := some 10
  distinctThreshold := none
  byteThreshold := some 50000000
  maximumSpeedKph := none

def impossibleTravelSpec : StatefulCorrelationSpec where
  ruleId := "CF-IDENTITY-001"
  ruleVersion := 1
  title := "Impossible-travel authentication"
  severity := .high
  tags := ["identity", "account-takeover", "behavioral-analytics"]
  eventType := "authentication_success"
  windowMinutes := none
  eventThreshold := none
  distinctThreshold := none
  byteThreshold := none
  maximumSpeedKph := some (.finite ['9', '0', '0', '.', '0'] (by decide))

def credentialStuffingSpec : StatefulCorrelationSpec where
  ruleId := "CF-EDGE-002"
  ruleVersion := 1
  title := "Credential-stuffing pattern at the authentication edge"
  severity := .high
  tags := ["edge-security", "credential-access", "account-takeover",
    "attack.t1110"]
  eventType := "edge_auth_failure"
  windowMinutes := some 5
  eventThreshold := some 20
  distinctThreshold := some 10
  byteThreshold := none
  maximumSpeedKph := none

def sessionReplaySpec : StatefulCorrelationSpec where
  ruleId := "CF-EDGE-003"
  ruleVersion := 1
  title := "Possible session replay across source addresses"
  severity := .high
  tags := ["edge-security", "session-hijacking", "account-takeover"]
  eventType := "edge_session_use"
  windowMinutes := some 10
  eventThreshold := none
  distinctThreshold := none
  byteThreshold := none
  maximumSpeedKph := none

/-- `STATEFUL_CORRELATIONS`. -/
def statefulCorrelations : List StatefulCorrelationSpec :=
  [bulkAccessSpec, impossibleTravelSpec, credentialStuffingSpec,
    sessionReplaySpec]

/-- `stateful_correlation_for_event`. -/
def statefulCorrelationForEvent (eventType : String) :
    Option StatefulCorrelationSpec :=
  statefulCorrelations.find? (·.eventType = eventType)

theorem spec_bulkAccess :
    statefulCorrelationForEvent "sensitive_data_access" =
      some bulkAccessSpec := by
  decide

theorem spec_impossibleTravel :
    statefulCorrelationForEvent "authentication_success" =
      some impossibleTravelSpec := by
  decide

theorem spec_credentialStuffing :
    statefulCorrelationForEvent "edge_auth_failure" =
      some credentialStuffingSpec := by
  decide

theorem spec_sessionReplay :
    statefulCorrelationForEvent "edge_session_use" =
      some sessionReplaySpec := by
  decide

/-! ## Numbers and hashes -/

/-- A finite number of a JSON value, boolean values apart. -/
inductive Number where
  | int (value : Int)
  | float (literal : List Char)
      (wellFormed : (Json.isFiniteFloat literal &&
        literal.all Json.isNumberChar) = true)

theorem Number.int_eq_iff (left right : Int) :
    left = right ↔ Number.int left = .int right := by
  rw [Number.int.injEq]

theorem Number.float_eq_iff (left right : List Char)
    (leftFormed : (Json.isFiniteFloat left && left.all Json.isNumberChar) = true)
    (rightFormed :
      (Json.isFiniteFloat right && right.all Json.isNumberChar) = true) :
    left = right ↔ Number.float left leftFormed = .float right rightFormed := by
  rw [Number.float.injEq]

theorem Number.int_ne_float (value : Int) (literal : List Char)
    (wellFormed :
      (Json.isFiniteFloat literal && literal.all Json.isNumberChar) = true) :
    Number.int value ≠ .float literal wellFormed := by
  intro same
  cases same

theorem Number.float_ne_int (value : Int) (literal : List Char)
    (wellFormed :
      (Json.isFiniteFloat literal && literal.all Json.isNumberChar) = true) :
    Number.float literal wellFormed ≠ .int value := by
  intro same
  cases same

instance : DecidableEq Number
  | .int left, .int right =>
      decidable_of_iff (left = right) (Number.int_eq_iff left right)
  | .float left leftFormed, .float right rightFormed =>
      decidable_of_iff (left = right)
        (Number.float_eq_iff left right leftFormed rightFormed)
  | .int value, .float literal wellFormed =>
      isFalse (Number.int_ne_float value literal wellFormed)
  | .float literal wellFormed, .int value =>
      isFalse (Number.float_ne_int value literal wellFormed)

/-- The value is an `int` or a `float` that is finite, and no `bool`. -/
def finiteNumber : Json → Option Number
  | .int value => some (.int value)
  | .float (.finite literal wellFormed) => some (.float literal wellFormed)
  | _ => none

/-- What the detectors call.  The numbers they calculate with are of a type
`F`. -/
structure Library (F : Type) where
  /-- The hexadecimal SHA-256 of a text. -/
  sha256 : String → String
  casefold : String → String
  /-- `int(...)` of the `float` with a literal. -/
  truncate : List Char → Int
  haversineKm : Number → Number → Number → Number → F
  /-- `total_seconds() / 3600` of a time difference. -/
  hours : Timestamp → F
  divide : F → F → F
  exceeds : F → FloatText → Bool
  /-- The text of a number with so many decimals. -/
  fixed : Nat → F → String

/-- `int(...)`. -/
def Number.whole {F : Type} (library : Library F) : Number → Int
  | .int value => value
  | .float literal _ => library.truncate literal

/-- `_stateful_alert`. -/
def statefulAlert {F : Type} (library : Library F) (event : SecurityEvent)
    (spec : StatefulCorrelationSpec) (fingerprintScope : String)
    (reasons : List String) : DetectionAlert where
  alertId := String.ofList
    ((library.sha256 (fingerprintScope ++ ":" ++ event.eventId)).toList.take 20)
  ruleId := spec.ruleId
  title := spec.title
  severity := spec.severity
  eventId := event.eventId
  actor := event.actor
  reasons
  tags := spec.tags
  createdAt := event.timestamp.instant

/-! ## Attributes of events -/

def byteCount (event : SecurityEvent) : Option Number :=
  finiteNumber (event.attributes.get "bytes")

def coordinates (event : SecurityEvent) : Option (Number × Number) :=
  match finiteNumber (event.attributes.get "latitude"),
      finiteNumber (event.attributes.get "longitude") with
  | some latitude, some longitude => some (latitude, longitude)
  | _, _ => none

/-- The address of an event that has one and where it is not empty. -/
def sourceAddress (event : SecurityEvent) : Option String :=
  event.sourceIp.filter fun address => !address.isEmpty

/-- The attribute `session_id_hash` where it is a text. -/
def sessionText (event : SecurityEvent) : Option String :=
  match event.attributes.get "session_id_hash" with
  | .str text => some text
  | _ => none

/-- A session hash of at least twelve characters. -/
def sessionHash (event : SecurityEvent) : Option String :=
  (sessionText event).filter fun hash => 12 ≤ hash.length

end Detection

end ControlForge
