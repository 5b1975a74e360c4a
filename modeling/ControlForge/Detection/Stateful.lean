import ControlForge.Detection.Contracts

/-!
# Correlation against stored history

`evaluate_stateful_event` recomputes a correlation from an event and the events
before it.
-/

namespace ControlForge

namespace Detection

variable {F : Type} (library : Library F)

/-- The order of predecessors: by time, then by identifier. -/
def predecessorKey (event : SecurityEvent) : Timestamp ×ₗ String :=
  toLex (event.timestamp.instant, event.eventId)

/-! ## Volume of access -/

/-- The events of a bulk-access window. -/
def accessSample (event : SecurityEvent) (cutoff : Timestamp)
    (item : SecurityEvent) : Option Number :=
  if item.eventType ≠ event.eventType ∨ item.actor ≠ event.actor ∨
      item.timestamp.instant < cutoff ∨
      item.timestamp.instant > event.timestamp.instant then none
  else byteCount item

def bulkAccessHistory (spec : StatefulCorrelationSpec)
    (history : List SecurityEvent) (event : SecurityEvent) :
    Except DetectionError (List DetectionAlert) :=
  match byteCount event with
  | none => .ok []
  | some _ =>
      match spec.windowMinutes, spec.eventThreshold, spec.byteThreshold with
      | some windowMinutes, some eventThreshold, some byteThreshold =>
          let cutoff := event.timestamp.instant - minutes windowMinutes
          let samples := (history.filterMap (accessSample event cutoff)).map
            (·.whole library)
          let totalBytes := samples.sum
          if samples.length < eventThreshold ∧ totalBytes < byteThreshold then
            .ok []
          else
            .ok [statefulAlert library event spec
              ("bulk-sensitive-access:" ++ event.actor)
              [toString samples.length ++ " access events within " ++
                  toString windowMinutes ++ "m",
                toString totalBytes ++ " bytes accessed"]]
      | _, _, _ =>
          .error (.runtime "bulk-access correlation contract is incomplete")

/-! ## Travel -/

/-- The reasons of an impossible travel, when it is one. -/
def travelReasons (maximumSpeedKph : FloatText)
    (before current : Number × Number) (elapsed : Timestamp) :
    Option (List String) :=
  let hours := library.hours elapsed
  let distance := library.haversineKm before.1 before.2 current.1 current.2
  let speed := library.divide distance hours
  if library.exceeds speed maximumSpeedKph then
    some ["calculated travel velocity " ++ library.fixed 0 speed ++ " km/h",
      "distance " ++ library.fixed 0 distance ++ " km over " ++
        library.fixed 2 hours ++ "h"]
  else none

def isPredecessorLogin (event item : SecurityEvent) : Bool :=
  item.eventId ≠ event.eventId ∧ item.eventType = event.eventType ∧
    item.actor = event.actor ∧
    item.timestamp.instant < event.timestamp.instant

def impossibleTravelHistory (spec : StatefulCorrelationSpec)
    (history : List SecurityEvent) (event : SecurityEvent) :
    Except DetectionError (List DetectionAlert) :=
  match coordinates event with
  | none => .ok []
  | some current =>
      match greatest predecessorKey
          (history.filter (isPredecessorLogin event)) with
      | none => .ok []
      | some previous =>
          match coordinates previous with
          | none => .ok []
          | some before =>
              match spec.maximumSpeedKph with
              | none => .error
                  (.runtime "impossible-travel correlation contract is incomplete")
              | some maximumSpeedKph =>
                  match travelReasons library maximumSpeedKph before current
                      (event.timestamp.instant -
                        previous.timestamp.instant) with
                  | none => .ok []
                  | some reasons => .ok [statefulAlert library event spec
                      ("impossible-travel:" ++ event.actor) reasons]

/-! ## Credential stuffing -/

/-- The events of a credential-stuffing window. -/
def isFailure (event : SecurityEvent) (cutoff : Timestamp)
    (item : SecurityEvent) : Bool :=
  item.eventType = event.eventType ∧ item.sourceIp = event.sourceIp ∧
    cutoff ≤ item.timestamp.instant ∧
    item.timestamp.instant ≤ event.timestamp.instant

/-- The number of distinct accounts, whatever their case. -/
def distinctAccounts (casefold : String → String) (actors : List String) : Nat :=
  (actors.map casefold).dedup.length

def credentialStuffingHistory (spec : StatefulCorrelationSpec)
    (history : List SecurityEvent) (event : SecurityEvent) :
    Except DetectionError (List DetectionAlert) :=
  match sourceAddress event with
  | none => .ok []
  | some address =>
      match spec.windowMinutes, spec.eventThreshold, spec.distinctThreshold with
      | some windowMinutes, some eventThreshold, some distinctThreshold =>
          let cutoff := event.timestamp.instant - minutes windowMinutes
          let failures := history.filter (isFailure event cutoff)
          let accounts := distinctAccounts library.casefold
            (failures.map (·.actor))
          if failures.length < eventThreshold ∨
              accounts < distinctThreshold then .ok []
          else
            .ok [statefulAlert library event spec
              ("credential-stuffing:" ++ address)
              [toString failures.length ++ " failed authentications from " ++
                  address,
                toString accounts ++ " distinct accounts within " ++
                  toString windowMinutes ++ "m"]]
      | _, _, _ =>
          .error (.runtime "credential-stuffing correlation contract is incomplete")

/-! ## Session replay -/

/-- The earlier uses of a session in its window. -/
def isPredecessorUse (event : SecurityEvent) (hash : String)
    (cutoff : Timestamp) (item : SecurityEvent) : Bool :=
  item.eventId ≠ event.eventId ∧ item.eventType = event.eventType ∧
    sessionText item = some hash ∧ cutoff ≤ item.timestamp.instant ∧
    item.timestamp.instant < event.timestamp.instant

def sessionReplayHistory (spec : StatefulCorrelationSpec)
    (history : List SecurityEvent) (event : SecurityEvent) :
    Except DetectionError (List DetectionAlert) :=
  match sourceAddress event, spec.windowMinutes with
  | some address, some windowMinutes =>
      match sessionHash event with
      | none => .ok []
      | some hash =>
          let cutoff := event.timestamp.instant - minutes windowMinutes
          match greatest predecessorKey
              (history.filter (isPredecessorUse event hash cutoff)) with
          | none => .ok []
          | some previous =>
              match sourceAddress previous with
              | none => .ok []
              | some before =>
                  if before = address then .ok []
                  else
                    .ok [statefulAlert library event spec
                      ("session-replay:" ++ hash)
                      ["session hash reused from " ++ before ++ " and " ++
                          address,
                        "reuse occurred within " ++ toString windowMinutes ++
                          "m"]]
  | _, _ => .ok []

/-- `evaluate_stateful_event`. -/
def evaluateStatefulEvent (event : SecurityEvent)
    (priorEvents : List SecurityEvent) :
    Except DetectionError (List DetectionAlert) :=
  match statefulCorrelationForEvent event.eventType with
  | none => .ok []
  | some spec =>
      let history := collapse SecurityEvent.eventId
        (priorEvents.filter (·.eventId ≠ event.eventId)) ++ [event]
      if event.eventType = "sensitive_data_access" then
        bulkAccessHistory library spec history event
      else if event.eventType = "authentication_success" then
        impossibleTravelHistory library spec history event
      else if event.eventType = "edge_auth_failure" then
        credentialStuffingHistory library spec history event
      else if event.eventType = "edge_session_use" then
        sessionReplayHistory library spec history event
      else .ok []

/-! ## The uses of a session -/

def sampleLibrary : Library Int where
  sha256 text := text
  casefold text := text
  truncate _ := 0
  haversineKm _ _ _ _ := 0
  hours elapsed := elapsed
  divide left right := left / right
  exceeds _ _ := false
  fixed _ value := toString value

def sampleUse (eventId : String) (time : Timestamp) (address : String) :
    SecurityEvent where
  eventId
  eventType := "edge_session_use"
  timestamp := ⟨time, utcText time⟩
  actor := "ana"
  sourceIp := some address
  target := none
  deviceId := none
  attributes := {
    members := [("session_id_hash", .str "0123456789ab")] }

end Detection

end ControlForge
