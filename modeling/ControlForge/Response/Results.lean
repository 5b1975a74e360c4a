import ControlForge.Response.Governance

/-!
# Recorded results

A completed action keeps the text of its result.  The text determines the
status, the summary and the evidence, so a retry is accepted exactly when it
reports the same result, and then nothing changes.
-/

namespace ControlForge

namespace Response

open Devices (AuthenticatedDevice)

variable {Log : Type}

/-! ## The recorded text -/

/-- The object a result is recorded as; its keys are in order. -/
def resultObject (status summary : String) (evidence : List String) : Json :=
  .obj [("evidence", .arr (evidence.map .str)), ("status", .str status),
    ("summary", .str summary)]

theorem resultJson_eq (status summary : String) (evidence : List String) :
    resultJson status summary evidence =
      Json.dumps false (resultObject status summary evidence) := by
  have sorted : Json.sortKeys (resultObject status summary evidence) =
      resultObject status summary evidence := by
    apply Json.sortKeys_of_sorted
    · have first : "evidence" ≤ "status" := by decide
      have second : "evidence" ≤ "summary" := by decide
      have third : "status" ≤ "summary" := by decide
      simp [Json.keyLe, first, second, third]
    · simp [Json.sortKeys]
  rw [resultJson]
  exact congrArg (Json.dumps false) sorted

theorem resultObject_wellFormed (status summary : String)
    (evidence : List String) :
    (resultObject status summary evidence).WellFormed := by
  simp [resultObject, Json.WellFormed, Json.WellFormedMembers]

/-- Equal texts record equal results. -/
theorem resultJson_injective {status status' summary summary' : String}
    {evidence evidence' : List String}
    (same : resultJson status summary evidence =
      resultJson status' summary' evidence') :
    status = status' ∧ summary = summary' ∧ evidence = evidence' := by
  rw [resultJson_eq, resultJson_eq] at same
  have objects := Json.dumps_injective false
    (resultObject_wellFormed status summary evidence)
    (resultObject_wellFormed status' summary' evidence') same
  simp only [resultObject, Json.obj.injEq, List.cons.injEq, Prod.mk.injEq,
    Json.arr.injEq, Json.str.injEq, true_and, and_true] at objects
  have sameEvidence : evidence = evidence' :=
    List.map_injective_iff.mpr (fun _ _ equal => Json.str.inj equal)
      objects.1
  exact ⟨objects.2.1, objects.2.2, sameEvidence⟩

/-! ## A result for a completed action -/

/-- The checks on the content of a result. -/
def validResult (summary : String) (evidence : List String) : Bool :=
  bounded (Text.strip summary) 500 && evidenceBounded evidence

theorem resultChecks_eq_ok {summary : String} {evidence : List String} :
    resultChecks summary evidence = .ok () ↔
      validResult summary evidence = true := by
  unfold resultChecks validResult raiseUnless
  cases bounded (Text.strip summary) 500 with
  | false => exact ⟨fun passed => (nomatch passed), fun valid => (nomatch valid)⟩
  | true =>
      cases evidenceBounded evidence with
      | false =>
          exact ⟨fun passed => (nomatch passed), fun valid => (nomatch valid)⟩
      | true => exact ⟨fun _ => rfl, fun _ => rfl⟩

theorem audit_actions {service : Service Log} (record : AuditRecord) :
    Transaction.Guarantees
      (fun before _ after => after.actions = before.actions)
      (audit service record) := by
  intro before result after succeeded
  unfold audit at succeeded
  split at succeeded
  · cases succeeded
    rfl
  · cases succeeded

/-- The row records this result of this device. -/
structure Records (device : AuthenticatedDevice)
    (actionId statusText summary : String) (evidence : List String)
    (row : ActionRow) : Prop where
  key : row.hasKey device.tenantId actionId = true
  target : row.targetType = "device" ∧ row.targetId = device.deviceId
  status : resultStatus statusText = some row.status
  submitter : row.resultDeviceId = some device.deviceId
  text : row.resultJson = some (resultJson statusText (Text.strip summary)
    (evidence.map Text.strip))

theorem clash_of_hasKey {row other : ActionRow} {tenantId actionId : String}
    (key : row.hasKey tenantId actionId = true)
    (otherKey : other.hasKey tenantId actionId = true) :
    row.clash other = true ∧ other.clash row = true := by
  simp only [ActionRow.hasKey, decide_eq_true_eq] at key otherKey
  simp [ActionRow.clash, ActionRow.hasKey, key, otherKey]

theorem run_requireAction {database : Database Log} {row : ActionRow}
    {tenantId actionId : String} (member : row ∈ database.actions.rows)
    (key : row.hasKey tenantId actionId = true) :
    requireAction tenantId actionId database = .ok (row, database) := by
  have found := Table.find?_eq_some_of_clash member key
    fun other otherKey => clash_of_hasKey key otherKey
  simp [requireAction, Transaction.run_bind, found]

/-- On a completed action a result is compared with the recorded one, and the
database stays as it is. -/
theorem submit_completed (service : Service Log) {database : Database Log}
    {row : ActionRow} (member : row ∈ database.actions.rows)
    {device : AuthenticatedDevice} {actionId : String}
    (key : row.hasKey device.tenantId actionId = true)
    (target : row.targetType = "device" ∧ row.targetId = device.deviceId)
    (completed : row.status = .succeeded ∨ row.status = .failed)
    {statusText summary : String} {evidence : List String}
    {status : ActionStatus} (reported : resultStatus statusText = some status)
    (valid : validResult summary evidence = true) (now : Timestamp) :
    submitDeviceResult service (.ok device) actionId statusText summary
      evidence now database =
      (if row.status = status ∧ row.resultDeviceId = some device.deviceId ∧
          row.resultJson = some (resultJson statusText (Text.strip summary)
            (evidence.map Text.strip)) then
        .ok ⟨actionId, statusText, false⟩
      else .error (.conflict "response action already has a different result"),
        database) := by
  obtain ⟨boundedSummary, boundedEvidence⟩ := Bool.and_eq_true_iff.mp valid
  have read := run_requireAction member key
  have ran : submitTransaction service device actionId statusText status
      (Text.strip summary) (evidence.map Text.strip) now database =
      if row.status = status ∧ row.resultDeviceId = some device.deviceId ∧
          row.resultJson = some (resultJson statusText (Text.strip summary)
            (evidence.map Text.strip)) then
        .ok ((false, false), database)
      else .error
        (.conflict "response action already has a different result") := by
    unfold submitTransaction
    simp only [Transaction.run_bind, read,
      Transaction.run_require_of target, if_pos completed]
    by_cases same : row.status = status ∧
        row.resultDeviceId = some device.deviceId ∧
        row.resultJson = some (resultJson statusText (Text.strip summary)
          (evidence.map Text.strip))
    · rw [Transaction.run_require_of same, if_pos same]
      rfl
    · rw [Transaction.run_require_not same, if_neg same]
  have checksPass := resultChecks_eq_ok.mpr valid
  simp only [submitDeviceResult, authenticated, reported,
    checked_of_ok checksPass]
  split
  · next same =>
      rw [if_pos same] at ran
      rw [commitThen_of_ok ran]
      rfl
  · next different =>
      rw [if_neg different] at ran
      rw [commitThen_of_error ran]

/-- The successful end of `submitTransaction`: the one statement that changes
an action. -/
theorem submitTransaction_changed {service : Service Log}
    {database next : Database Log} {device : AuthenticatedDevice}
    {actionId statusText summary : String} {evidence : List String}
    {status : ActionStatus} {now : Timestamp}
    (ran : submitTransaction service device actionId statusText status
      (Text.strip summary) (evidence.map Text.strip) now database =
      .ok ((false, true), next))
    (reported : resultStatus statusText = some status) :
    ∃ row ∈ next.actions.rows,
      Records device actionId statusText summary evidence row := by
  unfold submitTransaction at ran
  obtain ⟨row, _, -, ran⟩ := Transaction.run_bind_ok.mp ran
  obtain ⟨_, _, -, ran⟩ := Transaction.run_bind_ok.mp ran
  split at ran
  · obtain ⟨_, _, -, ran⟩ := Transaction.run_bind_ok.mp ran
    cases ran
  · split at ran
    · obtain ⟨_, _, -, ran⟩ := Transaction.run_bind_ok.mp ran
      cases ran
    · obtain ⟨_, before, -, ran⟩ := Transaction.run_bind_ok.mp ran
      obtain ⟨count, updated, update, ran⟩ := Transaction.run_bind_ok.mp ran
      obtain ⟨_, checkedOne, required, ran⟩ := Transaction.run_bind_ok.mp ran
      obtain ⟨_, audited, append, ran⟩ := Transaction.run_bind_ok.mp ran
      obtain ⟨isOne, unchanged⟩ := Transaction.run_require_ok.mp required
      have sameActions : next.actions = updated.actions := by
        have isLast : audited = next := by simpa using ran
        rw [← isLast, ← unchanged]
        exact audit_actions _ _ _ _ append
      obtain ⟨stored, -, isSelected, changed⟩ :=
        updateActions_changed update (isOne ▸ Nat.one_pos)
      simp only [Bool.and_eq_true, decide_eq_true_eq] at isSelected
      obtain ⟨key, -, isDevice, ownTarget, -⟩ := isSelected
      rw [sameActions]
      exact ⟨_, changed, key, ⟨isDevice, ownTarget⟩, reported, rfl, rfl⟩

/-- A result that changed an action is recorded by it. -/
theorem submit_changed {service : Service Log} {database next : Database Log}
    {device : AuthenticatedDevice}
    {actionId statusText summary reportedId reportedStatus : String}
    {evidence : List String} {now : Timestamp}
    (accepted : submitDeviceResult service (.ok device) actionId statusText
      summary evidence now database =
      (.ok ⟨reportedId, reportedStatus, true⟩, next)) :
    validResult summary evidence = true ∧
      ∃ row ∈ next.actions.rows,
        Records device actionId statusText summary evidence row := by
  cases reported : resultStatus statusText with
  | none =>
      simp [submitDeviceResult, authenticated, reported] at accepted
  | some status =>
      simp only [submitDeviceResult, authenticated, reported] at accepted
      obtain ⟨passed, accepted⟩ := checked_eq_ok accepted
      obtain ⟨⟨expired, changed⟩, ran, returned⟩ := commitThen_eq_ok accepted
      refine ⟨resultChecks_eq_ok.mp passed, ?_⟩
      cases expired with
      | true => cases returned
      | false =>
          cases returned
          exact submitTransaction_changed ran reported

/-! ## Results over whole runs -/

/-- The entry is a result of the device that changed the action. -/
def ResultAccepted (device : AuthenticatedDevice)
    (actionId statusText summary : String) (evidence : List String)
    (entry : Entry Log) : Prop :=
  ∃ now reportedId reportedStatus,
    entry = (.submitDeviceResult (.ok device) actionId statusText summary
      evidence now, .ok (.result ⟨reportedId, reportedStatus, true⟩))

/-- Every accepted result of the trace is recorded. -/
def ResultsRecorded (trace : List (Entry Log)) (database : Database Log) :
    Prop :=
  ∀ entry ∈ trace, ∀ device actionId statusText summary evidence,
    ResultAccepted device actionId statusText summary evidence entry →
    validResult summary evidence = true ∧
      ∃ row ∈ database.actions.rows,
        Records device actionId statusText summary evidence row

theorem Records.completed {device : AuthenticatedDevice}
    {actionId statusText summary : String} {evidence : List String}
    {row : ActionRow}
    (records : Records device actionId statusText summary evidence row) :
    row.status = .succeeded ∨ row.status = .failed :=
  resultStatus_completed records.status

theorem terminal_of_completed {status : ActionStatus}
    (completed : status = .succeeded ∨ status = .failed) :
    status.terminal = true := by
  rcases completed with rfl | rfl <;> rfl

theorem resultsRecorded_step {service : Service Log}
    {trace : List (Entry Log)} {database next : Database Log}
    {entry : Entry Log} (invariant : RunInvariant service trace database)
    (recorded : ResultsRecorded trace database)
    (step : (system service).step database entry next) :
    ResultsRecorded (trace ++ [entry]) next := by
  intro other member device actionId statusText summary evidence accepted
  rcases List.mem_append.mp member with old | new
  · obtain ⟨valid, row, rowMember, records⟩ :=
      recorded other old device actionId statusText summary evidence accepted
    refine ⟨valid, row, ?_, records⟩
    obtain ⟨later, laterMember, continues⟩ :=
      step_continues invariant entry.1 rowMember
    have executed : execute service database entry.1 = (entry.2, next) := step
    rw [executed] at laterMember
    have unchanged := continues.terminalUnchanged
      (terminal_of_completed records.completed)
    rwa [unchanged] at laterMember
  · rw [List.mem_singleton] at new
    subst new
    obtain ⟨now, reportedId, reportedStatus, rfl⟩ := accepted
    have executed : Outcome.tag Reply.result
        (submitDeviceResult service (.ok device) actionId statusText summary
          evidence now database) =
        (.ok (.result ⟨reportedId, reportedStatus, true⟩), next) := step
    have submitted : submitDeviceResult service (.ok device) actionId
        statusText summary evidence now database =
        (.ok ⟨reportedId, reportedStatus, true⟩, next) := by
      generalize submitDeviceResult service (.ok device) actionId statusText
        summary evidence now database = outcome at executed
      obtain ⟨result, after⟩ := outcome
      cases result with
      | error failure => cases executed
      | ok value =>
          cases executed
          rfl
    exact submit_changed submitted

theorem resultsRecorded_run {service : Service Log}
    {start finish : Database Log} {trace : List (Entry Log)}
    (empty : start.actions.rows = [])
    (run : (system service).Run start trace finish) :
    ResultsRecorded trace finish := by
  have both : RunInvariant service trace finish ∧
      ResultsRecorded trace finish := by
    apply run.historyInvariant
    · constructor
      · constructor <;> simp [empty]
      · simp [ResultsRecorded]
    · intro _ _ _ _ holds _ step
      exact ⟨runInvariant_step holds.1 step,
        resultsRecorded_step holds.1 holds.2 step⟩
  exact both.2

/-- A retry of a recorded result: the same result again is accepted, another
one is a conflict, and in both cases nothing changes. -/
theorem retry_recorded (service : Service Log) {database : Database Log}
    {device : AuthenticatedDevice} {actionId statusText summary : String}
    {evidence : List String} {row : ActionRow}
    (member : row ∈ database.actions.rows)
    (records : Records device actionId statusText summary evidence row)
    {again : AuthenticatedDevice}
    (sameDevice : again.tenantId = device.tenantId ∧
      again.deviceId = device.deviceId)
    {statusText' summary' : String} {evidence' : List String}
    (reported : (resultStatus statusText').isSome = true)
    (valid : validResult summary' evidence' = true) (now : Timestamp) :
    execute service database (.submitDeviceResult (.ok again) actionId
      statusText' summary' evidence' now) =
      (if statusText' = statusText ∧
          Text.strip summary' = Text.strip summary ∧
          evidence'.map Text.strip = evidence.map Text.strip then
        .ok (.result ⟨actionId, statusText', false⟩)
      else .error (.conflict "response action already has a different result"),
        database) := by
  obtain ⟨status, reports⟩ := Option.isSome_iff_exists.mp reported
  have key : row.hasKey again.tenantId actionId = true := by
    rw [sameDevice.1]
    exact records.key
  have target : row.targetType = "device" ∧ row.targetId = again.deviceId := by
    rw [sameDevice.2]
    exact records.target
  have compared := submit_completed service member key target
    records.completed reports valid now
  have sameResult : (row.status = status ∧
      row.resultDeviceId = some again.deviceId ∧
      row.resultJson = some (resultJson statusText' (Text.strip summary')
        (evidence'.map Text.strip))) ↔
      statusText' = statusText ∧ Text.strip summary' = Text.strip summary ∧
        evidence'.map Text.strip = evidence.map Text.strip := by
    rw [records.submitter, records.text, sameDevice.2]
    constructor
    · rintro ⟨-, -, sameText⟩
      obtain ⟨first, second, third⟩ :=
        resultJson_injective (Option.some.inj sameText)
      exact ⟨first.symm, second.symm, third.symm⟩
    · rintro ⟨rfl, sameSummary, sameEvidence⟩
      rw [sameSummary, sameEvidence]
      have sameStatus := records.status.symm.trans reports
      exact ⟨Option.some.inj sameStatus, rfl, rfl⟩
  simp only [execute, compared, Outcome.tag]
  by_cases same : statusText' = statusText ∧
      Text.strip summary' = Text.strip summary ∧
      evidence'.map Text.strip = evidence.map Text.strip
  · rw [if_pos (sameResult.mpr same), if_pos same]
    rfl
  · rw [if_neg (sameResult.not.mpr same), if_neg same]
    rfl

/-! ## The contract of a run -/

/-- What the service promises of every state a run reaches. -/
structure Governed (service : Service Log) (trace : List (Entry Log))
    (database : Database Log) : Prop where
  approval : ∀ row ∈ database.actions.rows,
    row.status = .approved ∨ row.status = .dispatched ∨
      row.status = .succeeded ∨ row.status = .failed →
    ApprovedIndependently row
  oneLive : ∀ left ∈ database.actions.rows, ∀ right ∈ database.actions.rows,
    left.status.live = true → right.status.live = true →
    left.tenantId = right.tenantId → left.targetId = right.targetId →
    left = right
  neverPolled : ∀ row ∈ database.actions.rows,
    ¬ Polled trace row.tenantId row.actionId → row.dispatchCount = 0
  dispatchBound : ∀ row ∈ database.actions.rows,
    row.dispatchCount ≤ service.maxDispatchAttempts
  continues : ∀ operation, ∀ row ∈ database.actions.rows,
    ∃ next ∈ (execute service database operation).2.actions.rows,
      Continues operation row next
  retry : ∀ entry ∈ trace, ∀ device actionId statusText summary evidence,
    ResultAccepted device actionId statusText summary evidence entry →
    ∀ (again : AuthenticatedDevice) statusText' summary' evidence' now,
      again.tenantId = device.tenantId → again.deviceId = device.deviceId →
      (resultStatus statusText').isSome = true →
      validResult summary' evidence' = true →
      execute service database (.submitDeviceResult (.ok again) actionId
        statusText' summary' evidence' now) =
        (if statusText' = statusText ∧
            Text.strip summary' = Text.strip summary ∧
            evidence'.map Text.strip = evidence.map Text.strip then
          .ok (.result ⟨actionId, statusText', false⟩)
        else
          .error (.conflict "response action already has a different result"),
          database)

/-- Every run of the response service, from a database without response
actions, keeps two-person approval, one live action for each device, the
dispatch bound, and final results. -/
theorem response_governance (service : Service Log)
    {start finish : Database Log} {trace : List (Entry Log)}
    (empty : start.actions.rows = [])
    (run : (system service).Run start trace finish) :
    Governed service trace finish := by
  have invariant := runInvariant_run empty run
  have recorded := resultsRecorded_run empty run
  refine ⟨?_, ?_, ?_, ?_, ?_, ?_⟩
  · exact fun row member => (invariant.rows row member).approved
  · intro left leftMember right rightMember leftLive rightLive tenant target
    exact oneLive invariant leftMember rightMember leftLive rightLive
      ⟨tenant, target⟩
  · intro row member notPolled
    by_contra dispatched
    exact notPolled (invariant.polled row member dispatched)
  · exact fun row member => (invariant.rows row member).bounded
  · exact fun operation row member => step_continues invariant operation member
  · intro entry member device actionId statusText summary evidence accepted
      again statusText' summary' evidence' now sameTenant sameDevice reported
      valid
    obtain ⟨-, row, rowMember, records⟩ := recorded entry member device
      actionId statusText summary evidence accepted
    exact retry_recorded service rowMember records ⟨sameTenant, sameDevice⟩
      reported valid now

/-! ## A run from proposal to result -/

/-- Execute the operations in order and keep the trace. -/
def runOperations (service : Service Log) (start : Database Log) :
    List (Operation Log) → List (Entry Log) × Database Log
  | [] => ([], start)
  | operation :: operations =>
      let (reply, next) := execute service start operation
      let (trace, finish) := runOperations service next operations
      ((operation, reply) :: trace, finish)

theorem run_runOperations (service : Service Log) (start : Database Log)
    (operations : List (Operation Log)) :
    (system service).Run start (runOperations service start operations).1
      (runOperations service start operations).2 := by
  induction operations generalizing start with
  | nil => exact .nil
  | cons operation operations induction =>
      have first : (system service).Run start
          [(operation, (execute service start operation).1)]
          (execute service start operation).2 :=
        .snoc .nil trivial rfl
      exact first.append (induction (execute service start operation).2)

/-- A service whose audit log keeps nothing. -/
def unauditedService : Service Unit where
  append _ := pure ()
  maxDispatchAttempts := 5
  admitted := by decide

/-- One tenant with two responders, an open case and an active device. -/
def twoResponders : Database Unit where
  actions := .empty
  cases := [⟨"tenant", "case", .opened⟩]
  devices := [⟨"tenant", "device", "active"⟩]
  identity := {
    sessions := [⟨"session-a", "tenant", "a", none, 1000⟩,
      ⟨"session-b", "tenant", "b", none, 1000⟩]
    users := [⟨"tenant", "a", .responder, "active"⟩,
      ⟨"tenant", "b", .responder, "active"⟩]
    tenants := [⟨"tenant", "active"⟩]
    ownerMemberships := []
    platformOwners := [] }
  audit := ()

def isolationExchange : List (Operation Unit) :=
  [.propose ⟨"tenant", "a", .responder, "session-a"⟩ "action" "case"
      "isolate_endpoint" "device" "contain" 0 60,
    .approve ⟨"tenant", "b", .responder, "session-b"⟩ "action" 1,
    .pollDevice (.ok ⟨"tenant", "device", "credential"⟩) "device" 2,
    .submitDeviceResult (.ok ⟨"tenant", "device", "credential"⟩) "action"
      "succeeded" "done" [] 3]

theorem response_governance_exchange :
    let (trace, finish) :=
      runOperations unauditedService twoResponders isolationExchange
    Governed unauditedService trace finish ∧
      finish.actions.rows.map (·.status) = [.succeeded] :=
  ⟨response_governance unauditedService rfl
      (run_runOperations unauditedService twoResponders isolationExchange),
    by decide⟩

end Response

end ControlForge
