import ControlForge.Clock
import ControlForge.Foundation.JsonSort

/-!
# Events and alerts

The typed models the detection engine shares with the store.
-/

namespace ControlForge

inductive Severity where
  | informational
  | low
  | medium
  | high
  | critical
deriving DecidableEq, Repr

/-- The value of the enumeration `Severity`. -/
def Severity.value : Severity → String
  | .informational => "informational"
  | .low => "low"
  | .medium => "medium"
  | .high => "high"
  | .critical => "critical"

/-- A parsed `datetime`: its instant, and the text a JSON dump has for it. -/
structure EventTime where
  instant : Timestamp
  text : String
deriving DecidableEq

/-- `SecurityEvent`. -/
structure SecurityEvent where
  eventId : String
  eventType : String
  timestamp : EventTime
  actor : String
  sourceIp : Option String
  target : Option String
  deviceId : Option String
  attributes : Dict

/-- `DetectionAlert`. -/
structure DetectionAlert where
  alertId : String
  ruleId : String
  title : String
  severity : Severity
  eventId : String
  actor : String
  reasons : List String
  tags : List String
  createdAt : Timestamp
deriving DecidableEq

/-- A member that `exclude_none` leaves out when it is `None`. -/
def optionalMember (name : String) : Option String → List (String × Json)
  | some value => [(name, .str value)]
  | none => []

theorem mem_optionalMember {name key : String} {value : Option String}
    {member : Json} :
    (key, member) ∈ optionalMember name value ↔
      key = name ∧ ∃ text, value = some text ∧ member = .str text := by
  cases value <;> simp [optionalMember]

/-- `model_dump(mode="json", exclude_none=True)`. -/
def SecurityEvent.dump (event : SecurityEvent) : Json :=
  .obj ([("event_id", .str event.eventId),
      ("event_type", .str event.eventType),
      ("timestamp", .str event.timestamp.text),
      ("actor", .str event.actor)] ++
    optionalMember "source_ip" event.sourceIp ++
    optionalMember "target" event.target ++
    optionalMember "device_id" event.deviceId ++
    [("attributes", event.attributes.json)])

theorem SecurityEvent.wellFormed_dump (event : SecurityEvent) :
    event.dump.WellFormed := by
  have attributes := event.attributes.wellFormed
  obtain ⟨_, _, _, _, sourceIp, target, deviceId, _⟩ := event
  cases sourceIp <;> cases target <;> cases deviceId <;>
    simpa [SecurityEvent.dump, optionalMember, Json.WellFormed,
      Json.WellFormedMembers, Dict.json] using attributes

/-- Events whose dumps differ in the order of keys only are one event. -/
theorem SecurityEvent.eventId_eq_of_dump {left right : SecurityEvent}
    (same : left.dump.sortKeys = right.dump.sortKeys) :
    left.eventId = right.eventId := by
  have isLeft : ("event_id", Json.str left.eventId) ∈
      ([("event_id", .str left.eventId),
        ("event_type", .str left.eventType),
        ("timestamp", .str left.timestamp.text),
        ("actor", .str left.actor)] ++
      optionalMember "source_ip" left.sourceIp ++
      optionalMember "target" left.target ++
      optionalMember "device_id" left.deviceId ++
      [("attributes", left.attributes.json)] : List (String × Json)) := by
    simp
  obtain ⟨other, member, sorted⟩ := Json.mem_of_sortKeys_eq same isLeft
  have isRight : other = .str right.eventId := by
    simpa [mem_optionalMember] using member
  rw [isRight] at sorted
  simp only [Json.sortKeys, Json.str.injEq] at sorted
  exact sorted.symm

end ControlForge
