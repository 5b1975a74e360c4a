import Mathlib.Logic.Function.Basic
import ControlForge.Detection.Stateful

/-!
# The detectors of a stream, and the pipeline

Each stateful detector keeps a window or the last event for each actor, address
or session, and evaluates one event after the other.  The pipeline runs the
stateless decisions and either these detectors or the history-based ones.
-/

namespace ControlForge

namespace Detection

variable {F : Type} (library : Library F)

/-! ## The detectors -/

structure AccessSample where
  time : Timestamp
  bytes : Int
  eventId : String

structure BulkAccessDetector where
  eventThreshold : Nat
  byteThreshold : Int
  window : Timestamp
  history : String → List AccessSample

/-- `BulkAccessDetector.evaluate`. -/
def BulkAccessDetector.evaluate (detector : BulkAccessDetector)
    (event : SecurityEvent) : Option DetectionAlert × BulkAccessDetector :=
  if event.eventType ≠ "sensitive_data_access" then (none, detector)
  else
    match finiteNumber (event.attributes.getD "bytes" (.int 0)) with
    | none => (none, detector)
    | some rawBytes =>
        let cutoff := event.timestamp.instant - detector.window
        let history := slide AccessSample.time cutoff
          (detector.history event.actor ++
            [⟨event.timestamp.instant, rawBytes.whole library, event.eventId⟩])
        let next := { detector with
          history := Function.update detector.history event.actor history }
        let totalBytes := (history.map AccessSample.bytes).sum
        if history.length < detector.eventThreshold ∧
            totalBytes < detector.byteThreshold then (none, next)
        else
          ((statefulCorrelationForEvent event.eventType).map fun spec =>
            statefulAlert library event spec
              ("bulk-sensitive-access:" ++ event.actor)
              [toString history.length ++ " access events within " ++
                  toString (wholeMinutes detector.window) ++ "m",
                toString totalBytes ++ " bytes accessed"], next)

structure Login where
  time : Timestamp
  place : Number × Number
  eventId : String

structure ImpossibleTravelDetector where
  maximumSpeedKph : FloatText
  previous : String → Option Login

/-- `ImpossibleTravelDetector.evaluate`. -/
def ImpossibleTravelDetector.evaluate (detector : ImpossibleTravelDetector)
    (event : SecurityEvent) :
    Option DetectionAlert × ImpossibleTravelDetector :=
  if event.eventType ≠ "authentication_success" then (none, detector)
  else
    match coordinates event with
    | none => (none, detector)
    | some place =>
        let current : Login :=
          ⟨event.timestamp.instant, place, event.eventId⟩
        let next := { detector with
          previous := Function.update detector.previous event.actor
            (some current) }
        match detector.previous event.actor with
        | none => (none, next)
        | some previous =>
            if event.timestamp.instant ≤ previous.time then (none, next)
            else
              match travelReasons library detector.maximumSpeedKph
                  previous.place place
                  (event.timestamp.instant - previous.time) with
              | none => (none, next)
              | some reasons =>
                  ((statefulCorrelationForEvent event.eventType).map
                    fun spec => statefulAlert library event spec
                      ("impossible-travel:" ++ event.actor) reasons, next)

structure FailureSample where
  time : Timestamp
  actor : String
  eventId : String

structure CredentialStuffingDetector where
  failureThreshold : Nat
  accountThreshold : Nat
  window : Timestamp
  history : String → List FailureSample

/-- `CredentialStuffingDetector.evaluate`. -/
def CredentialStuffingDetector.evaluate (detector : CredentialStuffingDetector)
    (event : SecurityEvent) :
    Option DetectionAlert × CredentialStuffingDetector :=
  if event.eventType ≠ "edge_auth_failure" then (none, detector)
  else
    match sourceAddress event with
    | none => (none, detector)
    | some address =>
        let cutoff := event.timestamp.instant - detector.window
        let history := slide FailureSample.time cutoff
          (detector.history address ++
            [⟨event.timestamp.instant, event.actor, event.eventId⟩])
        let next := { detector with
          history := Function.update detector.history address history }
        let accounts := distinctAccounts library.casefold
          (history.map FailureSample.actor)
        if history.length < detector.failureThreshold ∨
            accounts < detector.accountThreshold then (none, next)
        else
          ((statefulCorrelationForEvent event.eventType).map fun spec =>
            statefulAlert library event spec
              ("credential-stuffing:" ++ address)
              [toString history.length ++ " failed authentications from " ++
                  address,
                toString accounts ++ " distinct accounts within " ++
                  toString (wholeMinutes detector.window) ++ "m"], next)

structure SessionUse where
  time : Timestamp
  address : String
  actor : String
  eventId : String

structure SessionReplayDetector where
  window : Timestamp
  previous : String → Option SessionUse

/-- `SessionReplayDetector.evaluate`. -/
def SessionReplayDetector.evaluate (detector : SessionReplayDetector)
    (event : SecurityEvent) : Option DetectionAlert × SessionReplayDetector :=
  if event.eventType ≠ "edge_session_use" then (none, detector)
  else
    match sourceAddress event, sessionHash event with
    | some address, some hash =>
        let current : SessionUse :=
          ⟨event.timestamp.instant, address, event.actor, event.eventId⟩
        let next := { detector with
          previous := Function.update detector.previous hash (some current) }
        match detector.previous hash with
        | none => (none, next)
        | some previous =>
            if event.timestamp.instant ≤ previous.time then (none, next)
            else if
                event.timestamp.instant - previous.time > detector.window ∨
                  address = previous.address then (none, next)
            else
              ((statefulCorrelationForEvent event.eventType).map fun spec =>
                statefulAlert library event spec ("session-replay:" ++ hash)
                  ["session hash reused from " ++ previous.address ++
                      " and " ++ address,
                    "reuse occurred within " ++
                      toString (wholeMinutes detector.window) ++ "m"], next)
    | _, _ => (none, detector)

/-! ## The pipeline -/

structure StatefulDetectors where
  bulk : BulkAccessDetector
  travel : ImpossibleTravelDetector
  stuffing : CredentialStuffingDetector
  replay : SessionReplayDetector

/-- The alerts of all detectors, in their order. -/
def StatefulDetectors.evaluate (detectors : StatefulDetectors)
    (event : SecurityEvent) : List DetectionAlert × StatefulDetectors :=
  let (bulkAlert, bulk) := detectors.bulk.evaluate library event
  let (travelAlert, travel) := detectors.travel.evaluate library event
  let (stuffingAlert, stuffing) := detectors.stuffing.evaluate library event
  let (replayAlert, replay) := detectors.replay.evaluate library event
  ([bulkAlert, travelAlert, stuffingAlert, replayAlert].reduceOption,
    ⟨bulk, travel, stuffing, replay⟩)

structure DetectionPipeline (F : Type) where
  library : Library F
  /-- `evaluate_builtin_stateless_event`, and the rules in their order. -/
  stateless : SecurityEvent → Except DetectionError (List DetectionAlert)

namespace DetectionPipeline

variable (pipeline : DetectionPipeline F)

/-- The detectors `__init__` makes. -/
def initial : Except DetectionError StatefulDetectors :=
  match bulkAccessSpec.eventThreshold, bulkAccessSpec.byteThreshold,
      bulkAccessSpec.windowMinutes, impossibleTravelSpec.maximumSpeedKph,
      credentialStuffingSpec.eventThreshold,
      credentialStuffingSpec.distinctThreshold,
      credentialStuffingSpec.windowMinutes,
      sessionReplaySpec.windowMinutes with
  | some eventThreshold, some byteThreshold, some bulkMinutes,
      some maximumSpeedKph, some failureThreshold, some accountThreshold,
      some stuffingMinutes, some replayMinutes =>
      .ok {
        bulk := ⟨eventThreshold, byteThreshold, minutes bulkMinutes,
          fun _ => []⟩
        travel := ⟨maximumSpeedKph, fun _ => none⟩
        stuffing := ⟨failureThreshold, accountThreshold,
          minutes stuffingMinutes, fun _ => []⟩
        replay := ⟨minutes replayMinutes, fun _ => none⟩ }
  | _, _, _, _, _, _, _, _ =>
      .error (.runtime "stateful correlation contract is incomplete")

/-- `evaluate`. -/
def evaluate (event : SecurityEvent) (detectors : StatefulDetectors) :
    Except DetectionError (List DetectionAlert × StatefulDetectors) := do
  let alerts ← pipeline.stateless event
  let (stateful, detectors) := detectors.evaluate pipeline.library event
  return (alerts ++ stateful, detectors)

/-- `evaluate_with_history`. -/
def evaluateWithHistory (event : SecurityEvent)
    (priorEvents : List SecurityEvent) :
    Except DetectionError (List DetectionAlert) := do
  let alerts ← pipeline.stateless event
  let stateful ← evaluateStatefulEvent pipeline.library event priorEvents
  return alerts ++ stateful

/-- The alerts of each event of a stream, evaluated one after the other. -/
def stream (detectors : StatefulDetectors) :
    List SecurityEvent → Except DetectionError (List (List DetectionAlert))
  | [] => return []
  | event :: events => do
      let (alerts, detectors) ← pipeline.evaluate event detectors
      let rest ← stream detectors events
      return alerts :: rest

/-- The alerts of each event of a stream, evaluated with the events before it. -/
def replay (earlier : List SecurityEvent) :
    List SecurityEvent → Except DetectionError (List (List DetectionAlert))
  | [] => return []
  | event :: events => do
      let alerts ← pipeline.evaluateWithHistory event earlier
      let rest ← replay (earlier ++ [event]) events
      return alerts :: rest

end DetectionPipeline

end Detection

end ControlForge
