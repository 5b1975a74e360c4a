import Mathlib.Data.List.Dedup
import ControlForge.Containment.StateStore
import ControlForge.Foundation.OrderBy
import ControlForge.Foundation.Transition

/-!
# The containment adapter

An isolate enables PF, loads the rules and records the token; when a step
fails it rolls back.  A release flushes the anchor, gives the reference back
and deletes the record.
-/

namespace ControlForge

namespace Containment

/-- `MacOSPfResponseAdapter`. -/
structure Adapter where
  enabled : Bool
  deviceId : String
  apiHost : String
  apiPort : Nat

inductive ActionType where
  | isolateEndpoint
  | releaseEndpoint
deriving DecidableEq

structure MacOSResponseAction where
  actionType : ActionType
  targetId : String
  expiresAt : Timestamp

inductive Change where
  | isolated
  | released
  | unchanged
deriving DecidableEq

structure MacOSResponseResult where
  succeeded : Bool
  state : Change
  summary : String
  evidence : List String
deriving DecidableEq

inductive ReconciliationState where
  | released
  | releaseFailed
  | stateInvalid
deriving DecidableEq

inductive ReconciliationReason where
  | containmentExpired
  | automaticReleaseFailed
  | stateInvalid
deriving DecidableEq

structure MacOSReconciliationEvent where
  occurredAt : Timestamp
  state : ReconciliationState
  reason : ReconciliationReason
deriving DecidableEq

/-- `ipaddress`: the normal text of an address, and whether it is of
version 4. -/
structure AddressLibrary where
  normal : String → Option String
  isVersion4 : String → Bool

theorem sorted_distinct (texts : List String) :
    (orderBy id texts.dedup).Pairwise (· < ·) := by
  have distinct : (orderBy id texts.dedup).Nodup :=
    orderBy_perm.nodup_iff.mpr texts.nodup_dedup
  apply (orderBy_sorted.and distinct).imp
  intro left right ⟨isLe, different⟩
  exact lt_of_le_of_ne isLe different

/-- `_validated_management_ips`. -/
def validatedManagementIps (library : AddressLibrary)
    (addresses : List String) : Option ManagementIps :=
  match addresses.mapM library.normal with
  | none => none
  | some normals =>
      let normalized := orderBy id normals.dedup
      if bounds : normalized ≠ [] ∧ normalized.length ≤ 16 then
        some {
          values := normalized
          notEmpty := bounds.1
          atMost16 := bounds.2
          sorted := sorted_distinct normals }
      else
        none

/-- `_rules`. -/
def rulesText (library : AddressLibrary) (adapter : Adapter)
    (managementIps : ManagementIps) : String :=
  "\n".intercalate
    (["block drop all",
      "pass quick on lo0 all",
      "pass out quick inet proto udp to any port 53 keep state",
      "pass out quick inet proto tcp to any port 53 keep state",
      "pass out quick inet6 proto udp to any port 53 keep state",
      "pass out quick inet6 proto tcp to any port 53 keep state"] ++
    managementIps.values.map fun address =>
      let family := if library.isVersion4 address then "inet" else "inet6"
      "pass out quick " ++ family ++ " proto tcp to " ++ address ++ " port " ++
        toString adapter.apiPort ++ " keep state") ++ "\n"

/-- `datetime.isoformat` in UTC: no microseconds where there are none. -/
def isoformat (time : Timestamp) : String :=
  String.ofList ((utcText time).toList.take
    (if time % 1000000 = 0 then 19 else 26)) ++ "+00:00"

example : isoformat 951782400000000 = "2000-02-29T00:00:00+00:00" := by decide

section Adapter

variable (library : AddressLibrary) (adapter : Adapter)
  (surroundings : Surroundings)

/-- `_utc_now`: a clock without a zone is refused. -/
def utcNow : Program Timestamp :=
  match surroundings.clock with
  | none => throw (.response "clock_invalid")
  | some now => return now

/-- `_require_environment`. -/
def requireEnvironment (allowDisabled : Bool) : Program Unit :=
  if ¬ adapter.enabled ∧ ¬ allowDisabled then
    throw (.response "adapter_disabled")
  else if surroundings.system ≠ "Darwin" then
    throw (.response "unsupported_platform")
  else if surroundings.euid ≠ 0 then
    throw (.response "root_required")
  else
    return ()

/-- `_enable_pf`. -/
def enablePf : Program PfToken := do
  let output ← tryCatch (run surroundings .applying .enable) fun failure =>
    match failure with
    | .command => throw (.response "pf_enable_failed")
    | other => throw other
  match tokenOutput output with
  | none => throw (.response "pf_token_missing")
  | some token => do
      Effect.modify fun progress => { progress with obtained := some token }
      return token

/-- Whether a command of the rollback succeeded. -/
def succeeds (command : PfctlCommand) : Program Bool :=
  tryCatch (do
      let _ ← run surroundings .undoing command
      return true)
    fun failure =>
      match failure with
      | .command => return false
      | other => throw other

/-- `_rollback`. -/
def rollback (token : PfToken) : Program Bool := do
  let flushed ← succeeds surroundings .flush
  let released ← succeeds surroundings (.release token)
  Effect.modify fun progress =>
    { progress with rolledBack := some (flushed && released) }
  return flushed && released

/-- `_discard_failed_state`. -/
def discardFailedState (token : PfToken) : Program Unit := do
  let _ ← caught do
    match ← read surroundings .discarding with
    | none => return ()
    | some state =>
        if state.pfToken = token then delete surroundings .discarding
        else return ()
  return ()

/-- `_preserve_failed_rollback`. -/
def preserveFailedRollback (state : MacOSPfState) : Program Unit := do
  let _ ← caught do
    match ← read surroundings .preserving with
    | none => write surroundings .preserving state
    | some _ => return ()
  return ()

/-- `_release_state`. -/
def releaseState (state : MacOSPfState) : Program Unit :=
  tryCatch (do
      let _ ← run surroundings .releasing .flush
      let _ ← run surroundings .releasing (.release state.pfToken)
      delete surroundings .releasing)
    fun failure =>
      match failure with
      | .response _ | .command => throw (.response "release_failed")
      | other => throw other

/-- `_release`. -/
def release : Program MacOSResponseResult := do
  match ← read surroundings .starting with
  | none =>
      return ⟨true, .unchanged, "Endpoint containment is already released.",
        ["macos-pf-anchor:already-released"]⟩
  | some state => do
      releaseState surroundings state
      return ⟨true, .released, "Endpoint network containment released.",
        ["macos-pf-anchor:released"]⟩

/-- The addresses that stay reachable. -/
def managementIps : Program ManagementIps :=
  match surroundings.resolve adapter.apiHost adapter.apiPort with
  | .error code => throw (.response code)
  | .ok addresses =>
      match validatedManagementIps library addresses with
      | none => throw (.response "management_resolution_failed")
      | some ips => return ips

/-- The rules are loaded and the token is recorded. -/
def loadAndRecord (state : MacOSPfState) : Program Unit := do
  let _ ← run surroundings .applying (.load state.pfToken
    (rulesText library adapter state.managementIps))
  write surroundings .applying state

/-- The handler of `_isolate` for a token that was obtained. -/
def undo (state : MacOSPfState) : Program Unit := do
  if ← rollback surroundings state.pfToken then
    discardFailedState surroundings state.pfToken
  else
    preserveFailedRollback surroundings state

/-- The `try` of `_isolate` once there is a token. -/
def loadOrUndo (state : MacOSPfState) : Program Unit :=
  tryCatch (loadAndRecord library adapter surroundings state) fun failure =>
    match failure with
    | .response code => do
        undo surroundings state
        throw (.response code)
    | .command => do
        undo surroundings state
        throw (.response "pf_command_failed")
    | other => throw other

/-- `_isolate` from the resolution on.  A failure of `_enable_pf` leaves no
token, and the handler passes it on. -/
def contain (action : MacOSResponseAction) (now : Timestamp) :
    Program MacOSResponseResult := do
  let ips ← managementIps library adapter surroundings
  let expiry := min action.expiresAt (now + maxContainment)
  let token ← enablePf surroundings
  loadOrUndo library adapter surroundings ⟨token, expiry, ips⟩
  return ⟨true, .isolated, "Endpoint network containment applied.",
    ["macos-pf-anchor:isolated",
      "management-addresses:" ++ toString ips.values.length,
      "expires-at:" ++ isoformat expiry]⟩

/-- `_isolate`. -/
def isolate (action : MacOSResponseAction) (now : Timestamp) :
    Program MacOSResponseResult := do
  match ← read surroundings .starting with
  | none => contain library adapter surroundings action now
  | some current =>
      if current.expiresAt ≤ now then do
        releaseState surroundings current
        contain library adapter surroundings action now
      else
        return ⟨true, .unchanged, "Endpoint containment is already active.",
          ["macos-pf-anchor:already-isolated"]⟩

/-- `execute`. -/
def execute (action : MacOSResponseAction) : Program MacOSResponseResult := do
  let now ← utcNow surroundings
  if action.targetId ≠ adapter.deviceId then
    throw (.response "target_mismatch")
  else if action.expiresAt ≤ now then
    throw (.response "action_expired")
  else
    match action.actionType with
    | .isolateEndpoint => do
        requireEnvironment adapter surroundings false
        isolate library adapter surroundings action now
    | .releaseEndpoint => do
        requireEnvironment adapter surroundings true
        release surroundings

/-- `reconcile`. -/
def reconcile : Program (Option MacOSReconciliationEvent) := do
  let now ← utcNow surroundings
  match ← caught (read surroundings .starting) with
  | .error _ => return some ⟨now, .stateInvalid, .stateInvalid⟩
  | .ok none => return none
  | .ok (some current) =>
      if now < current.expiresAt then
        return none
      else
        match ← caught (do
            requireEnvironment adapter surroundings true
            releaseState surroundings current) with
        | .error _ =>
            return some ⟨now, .releaseFailed, .automaticReleaseFailed⟩
        | .ok _ => return some ⟨now, .released, .containmentExpired⟩

/-- `release_owned_state_for_recovery`. -/
def releaseOwnedStateForRecovery : Program MacOSResponseResult := do
  requireEnvironment adapter surroundings true
  release surroundings

end Adapter

/-! ## Attempts -/

inductive Request where
  | execute (action : MacOSResponseAction)
  | reconcile
  | releaseOwnedStateForRecovery

inductive Reply where
  | result (result : MacOSResponseResult)
  | reconciliation (event : Option MacOSReconciliationEvent)
deriving DecidableEq

/-- The collector may be configured anew between two attempts. -/
structure Attempt where
  adapter : Adapter
  surroundings : Surroundings
  request : Request

def Attempt.program (library : AddressLibrary) (attempt : Attempt) :
    Program Reply :=
  match attempt.request with
  | .execute action =>
      return .result (← Containment.execute library attempt.adapter
        attempt.surroundings action)
  | .reconcile =>
      return .reconciliation (← Containment.reconcile attempt.adapter
        attempt.surroundings)
  | .releaseOwnedStateForRecovery =>
      return .result (← Containment.releaseOwnedStateForRecovery
        attempt.adapter attempt.surroundings)

def Progress.start (host : Host) : Progress where
  host
  journal := []
  obtained := none
  rolledBack := none

def Attempt.run (library : AddressLibrary) (attempt : Attempt) (host : Host) :
    Except Failure Reply × Progress :=
  attempt.program library (.start host)

/-- An attempt, what it returned or raised, and how it progressed. -/
structure Trial where
  attempt : Attempt
  outcome : Except Failure Reply
  progress : Progress

/-- Attempts one after the other, on a host that starts without containment. -/
def system (library : AddressLibrary) : TransitionSystem Host Trial where
  initial host := host = .clean
  step host trial next :=
    trial.attempt.run library host = (trial.outcome, trial.progress) ∧
      trial.progress.host = next

def Attempt.trial (library : AddressLibrary) (attempt : Attempt)
    (host : Host) : Trial where
  attempt
  outcome := (attempt.run library host).1
  progress := (attempt.run library host).2

theorem trial_step (library : AddressLibrary) (attempt : Attempt)
    (host : Host) :
    (system library).step host (attempt.trial library host)
      (attempt.run library host).2.host :=
  ⟨rfl, rfl⟩

/-- Every attempt can be made on every host. -/
theorem run_concat {library : AddressLibrary}
    {condition : Host → Trial → Prop} {trials : List Trial} {host : Host}
    (before : (system library).RunWhere condition .clean trials host)
    (attempt : Attempt) (holds : condition host (attempt.trial library host)) :
    (system library).RunWhere condition .clean
      (trials ++ [attempt.trial library host])
      (attempt.run library host).2.host :=
  .snoc before holds (trial_step library attempt host)

/-! ## A sample endpoint -/

def sampleLibrary : AddressLibrary where
  normal := some
  isVersion4 address := address.toList.all (· ≠ ':')

def sampleAdapter : Adapter where
  enabled := true
  deviceId := "device-1"
  apiHost := "soc.example.com"
  apiPort := 8443

/-- Nothing fails, apart from these calls. -/
def sampleSurroundings (failing : Phase → StoreCall → Bool) :
    Surroundings where
  clock := some (seconds 1000)
  system := "Darwin"
  euid := 0
  resolve _ _ := .ok ["192.0.2.10"]
  stdout := "pf enabled\nToken : 42\n"
  pfctl _ _ := .done
  store phase _ call := if failing phase call then .failed false else .done

def sampleAttempt (actionType : ActionType)
    (failing : Phase → StoreCall → Bool) : Attempt where
  adapter := sampleAdapter
  surroundings := sampleSurroundings failing
  request := .execute ⟨actionType, "device-1", seconds 2000⟩

end Containment

end ControlForge
