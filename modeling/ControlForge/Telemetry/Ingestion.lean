import ControlForge.Devices.Authenticator
import ControlForge.Store.Jobs

/-!
# Ingestion of telemetry

The body a collector sends, the schema of a batch, and the service that
authenticates a request, checks that the batch belongs to the device, and
stores it.  The schema library's reader of JSON is a parameter.
-/

namespace ControlForge

namespace Telemetry

open Store

/-! ## The body -/

/-- What `SignedControlForgeClient.ingest` posts. -/
def batchJson (events : List SecurityEvent) : Json :=
  .obj [("events", .arr (events.map SecurityEvent.dump))]

/-- The body of the request. -/
def batchBody (events : List SecurityEvent) : List UInt8 :=
  (Json.dumps true (batchJson events).sortKeys).toByteArray.data.toList

theorem wellFormed_batchJson (events : List SecurityEvent) :
    (batchJson events).WellFormed := by
  simp only [batchJson, Json.WellFormed, Json.WellFormedMembers]
  refine ⟨by simp, ?_, trivial⟩
  rw [Json.wellFormedItems_iff]
  intro item member
  obtain ⟨event, -, rfl⟩ := List.mem_map.mp member
  exact event.wellFormed_dump

/-- The canonical text of an event determines its dump, up to the order of
keys. -/
theorem sortKeys_dump_of_canonicalEvent {left right : SecurityEvent}
    (same : canonicalEvent left = canonicalEvent right) :
    left.dump.sortKeys = right.dump.sortKeys := by
  apply Json.dumps_injective true
  · exact Json.wellFormed_sortKeys _ left.wellFormed_dump
  · exact Json.wellFormed_sortKeys _ right.wellFormed_dump
  · exact same

theorem eventId_of_canonicalEvent {left right : SecurityEvent}
    (same : canonicalEvent left = canonicalEvent right) :
    left.eventId = right.eventId :=
  SecurityEvent.eventId_eq_of_dump (sortKeys_dump_of_canonicalEvent same)

theorem sortKeys_batchJson (events : List SecurityEvent) :
    (batchJson events).sortKeys =
      .obj [("events", .arr (events.map fun event => event.dump.sortKeys))] := by
  have items : Json.sortKeysItems (events.map SecurityEvent.dump) =
      events.map fun event => event.dump.sortKeys := by
    induction events with
    | nil => rfl
    | cons event events induction =>
        simp [Json.sortKeysItems, induction]
  simp [batchJson, Json.sortKeys, Json.sortKeysMembers, items]

/-- One body is the body of one batch, up to the order of keys. -/
theorem canonicalEvents_of_batchBody {left right : List SecurityEvent}
    (same : batchBody left = batchBody right) :
    left.map canonicalEvent = right.map canonicalEvent := by
  have bytes := ByteArray.ext (Array.ext' same)
  have sorted := Json.dumps_injective true
    (Json.wellFormed_sortKeys _ (wellFormed_batchJson left))
    (Json.wellFormed_sortKeys _ (wellFormed_batchJson right))
    (String.toByteArray_inj.mp bytes)
  simp only [sortKeys_batchJson, Json.obj.injEq, List.cons.injEq, Prod.mk.injEq,
    Json.arr.injEq, true_and, and_true] at sorted
  have dumped := congrArg (List.map (Json.dumps true)) sorted
  rw [List.map_map, List.map_map] at dumped
  exact dumped

/-! ## The schema -/

/-- `^[A-Za-z0-9._:-]+$` and at most 128 characters. -/
def isIdentifier : String → Bool :=
  Devices.matchesClass (fun character => character.isAlphanum ||
    ['.', '_', ':', '-'].contains character) 1 128

def lengthWithin (least most : Nat) (text : String) : Bool :=
  least ≤ text.length && text.length ≤ most

/-- The constraints `CollectorSecurityEvent` puts on the fields. -/
def isCollectorSecurityEvent (event : SecurityEvent) : Bool :=
  isIdentifier event.eventId && isIdentifier event.eventType &&
    lengthWithin 1 320 event.actor &&
    event.sourceIp.all (lengthWithin 2 45) &&
    event.target.all (lengthWithin 1 512) &&
    event.deviceId.any isIdentifier

/-- `CollectorEventBatch`. -/
def isCollectorEventBatch (events : List SecurityEvent) : Bool :=
  1 ≤ events.length && events.length ≤ 1000 &&
    events.all isCollectorSecurityEvent

/-! ## The service -/

inductive IngestionError where
  | collectorIngestion (message : String)
  | deviceBinding (message : String)
  | authenticate (failure : Devices.CollectorError)
  | store (failure : StoreError)
deriving DecidableEq

structure CollectorIngestionResult where
  tenantId : String
  deviceId : String
  accepted : Nat
  duplicates : Nat
  eventIds : List String
deriving DecidableEq

/-- `CollectorIngestionService`; its constructor refuses other limits. -/
structure IngestionService where
  authenticator : Devices.Authenticator
  library : Library
  /-- The events of a body, unless it is no JSON text of the expected shape. -/
  parse : List UInt8 → Option (List SecurityEvent)
  maxBodyBytes : Nat
  admitted : 1024 ≤ maxBodyBytes ∧ maxBodyBytes ≤ 16000000

/-- The tables of the devices and those of the store. -/
structure Server (Log : Type) where
  devices : Devices.Database
  store : Database Log

namespace IngestionService

variable {Log : Type} (service : IngestionService)

/-- The events read from the body of a batch are those of the batch. -/
def Lawful : Prop :=
  ∀ events read, service.parse (batchBody events) = some read →
    read.map canonicalEvent = events.map canonicalEvent

/-- `CollectorEventBatch.model_validate_json`. -/
def readBatch (body : List UInt8) : Option (List SecurityEvent) :=
  (service.parse body).filter isCollectorEventBatch

def ingestionResult (principal : Devices.AuthenticatedDevice)
    (results : List IngestResult) : CollectorIngestionResult where
  tenantId := principal.tenantId
  deviceId := principal.deviceId
  accepted := results.countP (·.accepted)
  duplicates := results.countP (!·.accepted)
  eventIds := (results.filter (·.accepted)).map (·.eventId)

/-- What `ingest` does once the request is authenticated. -/
def ingestAs (principal : Devices.AuthenticatedDevice) (body : List UInt8)
    (receivedAt : Timestamp) (store : Database Log) :
    Except IngestionError CollectorIngestionResult × Database Log :=
  match service.readBatch body with
  | none =>
      (.error (.collectorIngestion
        "collector event batch failed schema validation"), store)
  | some events =>
      if events.any (·.deviceId ≠ some principal.deviceId) then
        (.error (.deviceBinding
          "every collector event must match the authenticated device"), store)
      else
        match (ingestEvents service.library principal.tenantId events
            receivedAt).commit store with
        | (.error failure, after) => (.error (.store failure), after)
        | (.ok results, after) => (.ok (ingestionResult principal results), after)

/-- `ingest`. -/
def ingest (request : Devices.SignedCollectorRequest) (receivedAt : Timestamp)
    (server : Server Log) :
    Except IngestionError CollectorIngestionResult × Server Log :=
  if service.maxBodyBytes < request.body.length then
    (.error (.collectorIngestion
      "collector request exceeds the ingestion limit"), server)
  else
    match service.authenticator.authenticate request receivedAt
        server.devices with
    | (.error failure, devices) =>
        (.error (.authenticate failure), { server with devices })
    | (.ok principal, devices) =>
        let (outcome, store) :=
          service.ingestAs principal request.body receivedAt server.store
        (outcome, ⟨devices, store⟩)

/-! ## What a call does -/

variable {service}

/-- A refused call leaves the store as it was. -/
theorem ingest_error {request : Devices.SignedCollectorRequest}
    {receivedAt : Timestamp} {server after : Server Log}
    {failure : IngestionError}
    (refused : service.ingest request receivedAt server =
      (.error failure, after)) : after.store = server.store := by
  unfold ingest at refused
  split at refused
  · cases refused
    rfl
  · split at refused
    · cases refused
      rfl
    · next principal devices authenticated =>
        simp only [ingestAs] at refused
        split at refused
        · cases refused
          rfl
        · split at refused
          · cases refused
            rfl
          · split at refused
            · next raised committed =>
                cases refused
                exact Transaction.commit_error committed
            · cases refused

/-- A call that is answered has stored the batch it read, for the tenant it
names. -/
theorem ingest_ok {request : Devices.SignedCollectorRequest}
    {receivedAt : Timestamp} {server after : Server Log}
    {result : CollectorIngestionResult}
    (answered : service.ingest request receivedAt server =
      (.ok result, after)) :
    request.body.length ≤ service.maxBodyBytes ∧
    ∃ events results, service.readBatch request.body = some events ∧
      ingestEvents service.library result.tenantId events receivedAt
        server.store = .ok (results, after.store) ∧
      ∀ event ∈ events, event.deviceId = some result.deviceId := by
  unfold ingest at answered
  split at answered
  · cases answered
  · next fits =>
      refine ⟨Nat.le_of_not_lt fits, ?_⟩
      split at answered
      · cases answered
      · next principal devices authenticated =>
          simp only [ingestAs] at answered
          split at answered
          · cases answered
          · next events isRead =>
              split at answered
              · cases answered
              · next bound =>
                  split at answered
                  · cases answered
                  · next results store committed =>
                      cases answered
                      refine ⟨events, results, isRead,
                        Transaction.commit_ok committed, ?_⟩
                      simpa [ingestionResult] using bound

end IngestionService

end Telemetry

end ControlForge
