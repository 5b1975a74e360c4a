import ControlForge.Foundation.Transition
import ControlForge.Processing.Recording
import ControlForge.Telemetry.Ingestion
import ControlForge.Telemetry.Spool

/-!
# Delivery of telemetry

An agent flushes its spool to the server.  Requests and answers may be lost,
delayed or duplicated, the agent may crash between any two steps, and other
collectors, the workers and the analysts use the server at the same time.  An
answer reaches the agent only on the connection its request was sent on.
-/

namespace ControlForge

namespace Telemetry

open Store

/-- A request for a batch, on a connection of its own. -/
structure Message where
  connection : Nat
  events : List SecurityEvent
  request : Devices.SignedCollectorRequest
  body : request.body = batchBody events

structure Response where
  message : Message
  outcome : Except IngestionError CollectorIngestionResult

/-- Where the agent is in `_flush`. -/
inductive Phase where
  | idle
  /-- The batches of the loop that are left. -/
  | flushing (remaining : List (String × List SecurityEvent))
  | waiting (batchId : String) (message : Message)
      (remaining : List (String × List SecurityEvent))
  /-- `ingest` returned; `acknowledge` is next. -/
  | delivered (batchId : String) (events : List SecurityEvent)
      (remaining : List (String × List SecurityEvent))
  /-- `ingest` raised; `fail` is next. -/
  | refused (batchId error : String)
  /-- `_record_retry_failure` is next. -/
  | failed

/-- The batches the flush still holds. -/
def Phase.batches : Phase → List (String × List SecurityEvent)
  | .idle | .refused .. | .failed => []
  | .flushing remaining => remaining
  | .waiting batchId message remaining =>
      (batchId, message.events) :: remaining
  | .delivered batchId events remaining => (batchId, events) :: remaining

structure State (Log : Type) where
  spool : Spool
  phase : Phase
  connections : Nat
  requests : List Message
  responses : List Response
  server : Server Log

inductive Label where
  | enqueued (batchId : String)
  | started
  | finished
  | sent (message : Message)
  | served (message : Message) (receivedAt : Timestamp)
      (outcome : Except IngestionError CollectorIngestionResult)
  | lost
  | returned
  | raised
  | acknowledged (batchId : String) (events : List SecurityEvent)
  | recorded
  | crashed
  /-- Another collector's request, or a job of the server. -/
  | elsewhere

/-- The server's services, over one library. -/
structure Deployment (Log : Type) where
  ingestion : IngestionService
  cases : Cases.Service Log
  sameLibrary : cases.library = ingestion.library

section System

variable {Log : Type} (deployment : Deployment Log)
  (settings : CollectorSettings)

inductive Step : State Log → Label → State Log → Prop
  | enqueue {state : State Log} {batchId : String}
      {events : List SecurityEvent} {now : Timestamp} {spool : Spool}
      (idle : state.phase = .idle)
      (spooled : state.spool.enqueue batchId events now = some spool) :
      Step state (.enqueued batchId) { state with spool }
  | collect {state : State Log} {batchId fingerprint : String}
      {controlEvents telemetryEvents : List SecurityEvent} {now : Timestamp}
      {spool : Spool} (idle : state.phase = .idle)
      (spooled : state.spool.enqueueCollected batchId controlEvents
        telemetryEvents fingerprint settings.controlSnapshotIntervalSeconds
        now = some spool) :
      Step state (.enqueued batchId) { state with spool }
  | start {state : State Log} {now : Timestamp} (idle : state.phase = .idle)
      (ready : state.spool.outboundBatches.rows = [] ∨
        state.spool.retryReady now = true) :
      Step state .started { state with
        phase := .flushing
          (state.spool.pending settings.deliveryFlushBatchLimit) }
  | finish {state : State Log} (done : state.phase = .flushing []) :
      Step state .finished { state with
        spool := state.spool.clearRetryState
        phase := .idle }
  | send {state : State Log} {batchId : String}
      {remaining : List (String × List SecurityEvent)} (message : Message)
      (next : state.phase =
        .flushing ((batchId, message.events) :: remaining))
      (fresh : message.connection = state.connections) :
      Step state (.sent message) { state with
        phase := .waiting batchId message remaining
        connections := state.connections + 1
        requests := state.requests ++ [message] }
  | serve {state : State Log} {message : Message} {receivedAt : Timestamp}
      {outcome : Except IngestionError CollectorIngestionResult}
      {server : Server Log} (inFlight : message ∈ state.requests)
      (ingested : deployment.ingestion.ingest message.request receivedAt
        state.server = (outcome, server)) :
      Step state (.served message receivedAt outcome) { state with
        responses := state.responses ++ [⟨message, outcome⟩]
        server }
  | lose {state : State Log} {requests : List Message}
      {responses : List Response} (fewerRequests : requests ⊆ state.requests)
      (fewerResponses : responses ⊆ state.responses) :
      Step state .lost { state with requests, responses }
  | succeed {state : State Log} {batchId : String} {message : Message}
      {remaining : List (String × List SecurityEvent)}
      {result : CollectorIngestionResult}
      (waits : state.phase = .waiting batchId message remaining)
      (arrived : ⟨message, .ok result⟩ ∈ state.responses) :
      Step state .returned { state with
        phase := .delivered batchId message.events remaining }
  -- An error status, a malformed answer, or none in time.
  | refuse {state : State Log} {batchId error : String} {message : Message}
      {remaining : List (String × List SecurityEvent)}
      (waits : state.phase = .waiting batchId message remaining) :
      Step state .raised { state with phase := .refused batchId error }
  | acknowledge {state : State Log} {batchId : String}
      {events : List SecurityEvent}
      {remaining : List (String × List SecurityEvent)}
      (next : state.phase = .delivered batchId events remaining) :
      Step state (.acknowledged batchId events) { state with
        spool := state.spool.acknowledge batchId
        phase := .flushing remaining }
  | fail {state : State Log} {batchId error : String}
      (next : state.phase = .refused batchId error) :
      Step state .recorded { state with
        spool := state.spool.fail batchId error
        phase := .failed }
  | recordRetry {state : State Log} {now : Timestamp}
      (next : state.phase = .failed) :
      Step state .recorded { state with
        spool := state.spool.recordRetryFailure settings.retryDelaySeconds now
        phase := .idle }
  | crash {state : State Log} :
      Step state .crashed { state with phase := .idle }
  | foreign {state : State Log} {request : Devices.SignedCollectorRequest}
      {receivedAt : Timestamp}
      {outcome : Except IngestionError CollectorIngestionResult}
      {server : Server Log}
      (ingested : deployment.ingestion.ingest request receivedAt
        state.server = (outcome, server)) :
      Step state .elsewhere { state with server }
  | process {state : State Log} {event : Processing.Event}
      {store : Database Log}
      (step : (Processing.system deployment.cases).step state.server.store
        event store) :
      Step state .elsewhere
        { state with server := { state.server with store } }
  | administer {state : State Log} {devices : Devices.Database} :
      Step state .elsewhere
        { state with server := { state.server with devices } }

/-- Nothing is spooled, sent or stored yet. -/
structure Initial (state : State Log) : Prop where
  spool : state.spool = .empty
  phase : state.phase = .idle
  requests : state.requests = []
  responses : state.responses = []
  store : Processing.Empty state.server.store

def system : TransitionSystem (State Log) Label where
  initial := Initial
  step := Step deployment settings

end System

end Telemetry

end ControlForge
