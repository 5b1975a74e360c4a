import Mathlib.Algebra.BigOperators.Group.List.Basic
import Mathlib.Algebra.Group.Int.Defs
import Mathlib.Data.List.Dedup
import ControlForge.Detection.Stateful
import ControlForge.Foundation.Table

/-!
# Loading the history of a correlation

`load_detection_history` selects, orders and limits the stored events of a
tenant in SQL.  Times are compared as `julianday` values, which resolve them to
the millisecond; the offset says where in a millisecond they are rounded.
-/

namespace ControlForge

namespace Detection

/-- A row of `events`: its columns and its payload hold one event. -/
structure StoredEvent where
  tenantId : String
  event : SecurityEvent

def StoredEvent.clash (left right : StoredEvent) : Bool :=
  left.tenantId = right.tenantId ∧ left.event.eventId = right.event.eventId

/-- The other stored events of a tenant. -/
def otherEvents (stored : Table StoredEvent StoredEvent.clash)
    (tenantId : String) (event : SecurityEvent) : List SecurityEvent :=
  (stored.rows.filter fun row =>
    row.tenantId = tenantId ∧ row.event.eventId ≠ event.eventId).map
      StoredEvent.event

/-! ## The queries -/

def julianday (offset : Int) (time : Timestamp) : Int :=
  (time + offset) / 1000

/-- `json_extract`, where it is a text. -/
def jsonExtract : Json → Option String
  | .str text => some text
  | .arr items => some (Json.dumps true (Json.sortKeys (.arr items)))
  | .obj members => some (Json.dumps true (Json.sortKeys (.obj members)))
  | .null | .bool _ | .int _ | .float _ => none

section Queries

variable (offset : Int) (event : SecurityEvent) (cutoff : Timestamp)
  (item : SecurityEvent)

/-- The order of the rows of a query. -/
def storedKey : Int ×ₗ String :=
  toLex (julianday offset item.timestamp.instant, item.eventId)

/-- `BETWEEN` the cutoff and the time of the event. -/
def isBetween : Bool :=
  julianday offset cutoff ≤ julianday offset item.timestamp.instant ∧
    julianday offset item.timestamp.instant ≤
      julianday offset event.timestamp.instant

def isStoredBefore : Bool :=
  julianday offset item.timestamp.instant <
    julianday offset event.timestamp.instant

def selectsAccess : Bool :=
  item.actor = event.actor ∧ item.eventType = event.eventType ∧
    isBetween offset event cutoff item = true

def selectsLogin : Bool :=
  item.actor = event.actor ∧ item.eventType = event.eventType ∧
    isStoredBefore offset event item = true

def selectsFailure : Bool :=
  item.sourceIp = event.sourceIp ∧ item.eventType = event.eventType ∧
    isBetween offset event cutoff item = true

def selectsUse (hash : String) : Bool :=
  item.eventType = event.eventType ∧
    jsonExtract (item.attributes.get "session_id_hash") = some hash ∧
    julianday offset cutoff ≤ julianday offset item.timestamp.instant ∧
    isStoredBefore offset event item = true

end Queries

/-- The rows of a window in order, when they are within the limit. -/
def windowRows (offset : Int) (limit : Nat) (found : List SecurityEvent) :
    Except DetectionError (List SecurityEvent) :=
  let rows := (orderBy (storedKey offset) found).take (limit + 1)
  if rows.length > limit then
    .error (.runtime "correlation history exceeds the safe 10000-event bound")
  else .ok rows

/-- `load_detection_history`. -/
def loadDetectionHistory (offset : Int)
    (stored : Table StoredEvent StoredEvent.clash) (tenantId : String)
    (event : SecurityEvent) (limit : Nat) :
    Except DetectionError (List SecurityEvent) :=
  if limit < 1 ∨ limit > 10000 then
    .error (.value "correlation history limit must be between 1 and 10000")
  else
    let others := otherEvents stored tenantId event
    let windowMinutes :=
      (statefulCorrelationForEvent event.eventType).bind (·.windowMinutes)
    if event.eventType = "sensitive_data_access" then
      match windowMinutes with
      | none =>
          .error (.runtime "bulk-access correlation contract is incomplete")
      | some windowMinutes =>
          windowRows offset limit (others.filter (selectsAccess offset event
            (event.timestamp.instant - minutes windowMinutes)))
    else if event.eventType = "authentication_success" then
      .ok (newest (storedKey offset) (others.filter (selectsLogin offset event)))
    else if event.eventType = "edge_auth_failure" ∧
        (sourceAddress event).isSome then
      match windowMinutes with
      | none => .error
          (.runtime "credential-stuffing correlation contract is incomplete")
      | some windowMinutes =>
          windowRows offset limit (others.filter (selectsFailure offset event
            (event.timestamp.instant - minutes windowMinutes)))
    else if event.eventType = "edge_session_use" then
      match sessionHash event with
      | none => .ok []
      | some hash =>
          match windowMinutes with
          | none => .error
              (.runtime "session-replay correlation contract is incomplete")
          | some windowMinutes =>
              .ok (newest (storedKey offset) (others.filter fun item =>
                selectsUse offset event
                  (event.timestamp.instant - minutes windowMinutes) item hash))
    else .ok []

/-! ## The predecessors of an event -/

/-- The events of which a correlation takes the last. -/
def isPredecessor (event item : SecurityEvent) : Bool :=
  if event.eventType = "authentication_success" then
    isPredecessorLogin event item
  else if event.eventType = "edge_session_use" then
    (sessionHash event).any fun hash => isPredecessorUse event hash
      (event.timestamp.instant - minutes 10) item
  else false

/-- The event a correlation takes for the one before. -/
def predecessor (event : SecurityEvent) (past : List SecurityEvent) :
    Option SecurityEvent :=
  greatest predecessorKey (past.filter (isPredecessor event))

/-- The rows of which the query for an event keeps one. -/
def isCandidate (offset : Int) (event item : SecurityEvent) : Bool :=
  if event.eventType = "authentication_success" then
    selectsLogin offset event item
  else if event.eventType = "edge_session_use" then
    (sessionHash event).any fun hash => selectsUse offset event
      (event.timestamp.instant - minutes 10) item hash
  else false

/-- The last predecessor of an event is of an earlier millisecond than the
event, and none of the rows the query selects is later by the millisecond, or
of the same millisecond and with a greater identifier. -/
def Resolved (offset : Int) (event : SecurityEvent)
    (others : List SecurityEvent) : Prop :=
  ∀ before ∈ others, isPredecessor event before = true →
    (∀ item ∈ others, isPredecessor event item = true →
      predecessorKey item ≤ predecessorKey before) →
    isStoredBefore offset event before = true ∧
      ∀ item ∈ others, isCandidate offset event item = true →
        storedKey offset item ≤ storedKey offset before

/-- The row the query for an event keeps. -/
def kept (offset : Int) (event : SecurityEvent)
    (others : List SecurityEvent) : List SecurityEvent :=
  newest (storedKey offset) (others.filter (isCandidate offset event))

/-- The reasons for an alert that a predecessor gives. -/
def consequence {F : Type} (library : Library F)
    (event previous : SecurityEvent) : Option (List String) :=
  if event.eventType = "authentication_success" then
    match coordinates event, coordinates previous,
        impossibleTravelSpec.maximumSpeedKph with
    | some current, some before, some maximumSpeedKph =>
        travelReasons library maximumSpeedKph before current
          (event.timestamp.instant - previous.timestamp.instant)
    | _, _, _ => none
  else if event.eventType = "edge_session_use" then
    match sourceAddress event, sourceAddress previous with
    | some address, some before =>
        if before = address then none
        else some
          ["session hash reused from " ++ before ++ " and " ++ address,
            "reuse occurred within 10m"]
    | _, _ => none
  else none

/-- The event that is taken for the one before in the place of the last
predecessor has the same consequences. -/
def Indifferent {F : Type} (library : Library F) (offset : Int)
    (event : SecurityEvent) (others : List SecurityEvent) : Prop :=
  (predecessor event (kept offset event others)).bind
      (consequence library event) =
    (predecessor event others).bind (consequence library event)

/-- The rows of a window are within the limit. -/
def Fits (offset : Int) (event : SecurityEvent)
    (others : List SecurityEvent) (limit : Nat) : Prop :=
  (event.eventType = "sensitive_data_access" →
    (others.filter (selectsAccess offset event
      (event.timestamp.instant - minutes 15))).length ≤ limit) ∧
  (event.eventType = "edge_auth_failure" →
    (others.filter (selectsFailure offset event
      (event.timestamp.instant - minutes 5))).length ≤ limit)

/-! ## What the queries find -/

section Queries

variable {F : Type} {library : Library F} {offset : Int}
  {stored : Table StoredEvent StoredEvent.clash} {tenantId : String}
  {event : SecurityEvent} {cutoff : Timestamp} {item : SecurityEvent}
  {others : List SecurityEvent} {limit : Nat}

theorem julianday_mono {left right : Timestamp} (notAfter : left ≤ right) :
    julianday offset left ≤ julianday offset right :=
  Int.ediv_le_ediv (by decide) (Int.add_le_add_right notAfter offset)

theorem before_of_stored (before : isStoredBefore offset event item = true) :
    item.timestamp.instant < event.timestamp.instant := by
  simp only [isStoredBefore, decide_eq_true_eq] at before
  apply Int.not_le.mp
  intro notBefore
  exact Int.not_le.mpr before (julianday_mono notBefore)

theorem otherEvents_ne (member : item ∈ otherEvents stored tenantId event) :
    item.eventId ≠ event.eventId := by
  obtain ⟨row, isRow, rfl⟩ := List.mem_map.mp member
  have selected := (List.mem_filter.mp isRow).2
  simp only [decide_eq_true_eq] at selected
  exact selected.2

/-- The identifiers of the events of a tenant are distinct. -/
theorem otherEvents_distinct :
    ((otherEvents stored tenantId event).map SecurityEvent.eventId).Nodup := by
  unfold otherEvents
  rw [List.map_map]
  apply List.pairwise_map.mpr
  have unique := stored.unique.filter fun row =>
    (row.tenantId = tenantId ∧ row.event.eventId ≠ event.eventId : Bool)
  apply List.Pairwise.imp_of_mem ?_ unique
  intro left right leftMember rightMember apart same
  have isLeft := (List.mem_filter.mp leftMember).2
  have isRight := (List.mem_filter.mp rightMember).2
  simp only [decide_eq_true_eq] at isLeft isRight
  simp only [StoredEvent.clash, isLeft.1, isRight.1, true_and,
    decide_eq_false_iff_not] at apart
  exact apart same

theorem eq_of_eventId
    (distinct : (others.map SecurityEvent.eventId).Nodup)
    {left right : SecurityEvent} (leftMember : left ∈ others)
    (rightMember : right ∈ others) (same : left.eventId = right.eventId) :
    left = right :=
  List.inj_on_of_nodup_map distinct leftMember rightMember same

/-- The history of an event is the prior events and the event. -/
theorem evaluate_history {prior : List SecurityEvent}
    (distinct : (prior.map SecurityEvent.eventId).Nodup)
    (apart : ∀ item ∈ prior, item.eventId ≠ event.eventId) :
    collapse SecurityEvent.eventId
        (prior.filter (·.eventId ≠ event.eventId)) = prior := by
  have all : prior.filter (·.eventId ≠ event.eventId) = prior := by
    apply List.filter_eq_self.mpr
    intro item member
    simpa using apart item member
  rw [all, collapse_of_distinct distinct]

/-! ### Windows -/

theorem windowRows_ok {found : List SecurityEvent}
    (fits : found.length ≤ limit) :
    windowRows offset limit found = .ok (orderBy (storedKey offset) found) := by
  have length : (orderBy (storedKey offset) found).length ≤ limit := by
    rw [length_orderBy]
    exact fits
  have all : (orderBy (storedKey offset) found).take (limit + 1) =
      orderBy (storedKey offset) found :=
    List.take_of_length_le (Nat.le_succ_of_le length)
  unfold windowRows
  rw [all, if_neg (Nat.not_lt.mpr length)]

/-- A window query loses no sample. -/
theorem filterMap_orderBy_perm {Sample : Type}
    {sample : SecurityEvent → Option Sample} {selects : SecurityEvent → Bool}
    (selected : ∀ item ∈ others, (sample item).isSome = true →
      selects item = true) :
    ((orderBy (storedKey offset) (others.filter selects)).filterMap
      sample).Perm (others.filterMap sample) := by
  have same : (others.filter selects).filterMap sample =
      others.filterMap sample := by
    rw [List.filterMap_filter]
    apply List.filterMap_congr
    intro item member
    by_cases isSelected : selects item = true
    · simp [isSelected]
    · have noSample : sample item = none := by
        rw [← Option.not_isSome_iff_eq_none]
        exact fun isSample => isSelected (selected item member isSample)
      simp [isSelected, noSample]
  rw [← same]
  exact orderBy_perm.filterMap sample

theorem accessSample_selected
    (isSample : (accessSample event cutoff item).isSome = true) :
    selectsAccess offset event cutoff item = true := by
  unfold accessSample at isSample
  split at isSample
  · cases isSample
  · next inside =>
      simp only [not_or, not_not] at inside
      obtain ⟨sameType, sameActor, notBefore, notAfter⟩ := inside
      have lower := @julianday_mono offset _ _ (Int.not_lt.mp notBefore)
      have upper := @julianday_mono offset _ _ (Int.not_lt.mp notAfter)
      simp [selectsAccess, isBetween, sameType, sameActor, lower, upper]

theorem isFailure_selected (failed : isFailure event cutoff item = true) :
    selectsFailure offset event cutoff item = true := by
  simp only [isFailure, decide_eq_true_eq] at failed
  obtain ⟨sameType, sameAddress, notBefore, notAfter⟩ := failed
  have lower := @julianday_mono offset _ _ notBefore
  have upper := @julianday_mono offset _ _ notAfter
  simp [selectsFailure, isBetween, sameType, sameAddress, lower, upper]

/-- Bulk access depends on the samples of its window only. -/
theorem bulkAccessHistory_congr {spec : StatefulCorrelationSpec}
    {left right : List SecurityEvent}
    (same : ∀ windowMinutes, spec.windowMinutes = some windowMinutes →
      (left.filterMap (accessSample event (event.timestamp.instant -
        minutes windowMinutes))).Perm
      (right.filterMap (accessSample event (event.timestamp.instant -
        minutes windowMinutes)))) :
    bulkAccessHistory library spec (left ++ [event]) event =
      bulkAccessHistory library spec (right ++ [event]) event := by
  unfold bulkAccessHistory
  cases byteCount event with
  | none => rfl
  | some bytes =>
      simp only []
      split
      · next windowMinutes eventThreshold byteThreshold isWindow _ _ =>
          have samples := ((same windowMinutes isWindow).append_right
              ([event].filterMap (accessSample event
                (event.timestamp.instant - minutes windowMinutes)))).map
              (Number.whole library)
          rw [← List.filterMap_append, ← List.filterMap_append] at samples
          simp only [samples.length_eq, samples.sum_eq]
      · rfl

theorem distinctAccounts_perm {casefold : String → String}
    {left right : List String} (same : left.Perm right) :
    distinctAccounts casefold left = distinctAccounts casefold right :=
  ((same.map casefold).dedup).length_eq

/-- Credential stuffing depends on the failures of its window only. -/
theorem credentialStuffingHistory_congr {spec : StatefulCorrelationSpec}
    {left right : List SecurityEvent}
    (same : ∀ windowMinutes, spec.windowMinutes = some windowMinutes →
      (left.filter (isFailure event (event.timestamp.instant -
        minutes windowMinutes))).Perm
      (right.filter (isFailure event (event.timestamp.instant -
        minutes windowMinutes)))) :
    credentialStuffingHistory library spec (left ++ [event]) event =
      credentialStuffingHistory library spec (right ++ [event]) event := by
  unfold credentialStuffingHistory
  cases sourceAddress event with
  | none => rfl
  | some address =>
      simp only []
      split
      · next windowMinutes eventThreshold distinctThreshold isWindow _ _ =>
          have failures := (same windowMinutes isWindow).append_right
              ([event].filter (isFailure event
                (event.timestamp.instant - minutes windowMinutes)))
          rw [← List.filter_append, ← List.filter_append] at failures
          simp only [failures.length_eq,
            distinctAccounts_perm (failures.map SecurityEvent.actor)]
      · rfl

/-! ### Predecessors -/

/-- A predecessor is selected when it is before the event by the
millisecond. -/
theorem isCandidate_predecessor
    (before : isPredecessor event item = true) :
    isCandidate offset event item = isStoredBefore offset event item := by
  unfold isPredecessor at before
  unfold isCandidate
  by_cases isLogin : event.eventType = "authentication_success"
  · rw [if_pos isLogin] at before ⊢
    simp only [isPredecessorLogin, decide_eq_true_eq] at before
    simp [selectsLogin, before.2.1, before.2.2.1]
  · rw [if_neg isLogin] at before ⊢
    by_cases isUse : event.eventType = "edge_session_use"
    · rw [if_pos isUse] at before ⊢
      cases hashed : sessionHash event with
      | none => simp [hashed] at before
      | some hash =>
          simp only [hashed, Option.any_some, isPredecessorUse,
            decide_eq_true_eq] at before
          obtain ⟨-, sameType, sameHash, notBefore, -⟩ := before
          have lower := @julianday_mono offset _ _ notBefore
          have extracted :
              jsonExtract (item.attributes.get "session_id_hash") =
                some hash := by
            unfold sessionText at sameHash
            split at sameHash
            · next text isText =>
                rw [isText]
                exact sameHash
            · cases sameHash
          simp [selectsUse, sameType, extracted, lower]
    · rw [if_neg isUse] at before
      cases before

theorem storedKey_inj (distinct : (others.map SecurityEvent.eventId).Nodup)
    {left right : SecurityEvent} (leftMember : left ∈ others)
    (rightMember : right ∈ others)
    (same : storedKey offset left = storedKey offset right) :
    left = right :=
  eq_of_eventId distinct leftMember rightMember (congrArg Prod.snd same)

theorem predecessorKey_inj
    (distinct : (others.map SecurityEvent.eventId).Nodup)
    {left right : SecurityEvent} (leftMember : left ∈ others)
    (rightMember : right ∈ others)
    (same : predecessorKey left = predecessorKey right) : left = right :=
  eq_of_eventId distinct leftMember rightMember (congrArg Prod.snd same)

/-- The query keeps the last predecessor exactly when the times resolve it. -/
theorem resolved_iff (distinct : (others.map SecurityEvent.eventId).Nodup) :
    predecessor event (kept offset event others) = predecessor event others ↔
      Resolved offset event others := by
  unfold predecessor kept Resolved
  rw [greatest_newest_iff
    (fun left leftMember right rightMember =>
      predecessorKey_inj distinct leftMember rightMember)
    (fun left leftMember right rightMember =>
      storedKey_inj distinct leftMember rightMember)]
  constructor
  · intro newestLast before member isBefore last
    have selected := newestLast before member isBefore last
    rw [isCandidate_predecessor isBefore] at selected
    exact selected
  · intro resolved before member isBefore last
    rw [isCandidate_predecessor isBefore]
    exact resolved before member isBefore last

theorem filter_concat_self {kind : SecurityEvent → Bool}
    (notSelf : kind event = false) :
    (others ++ [event]).filter kind = others.filter kind := by
  rw [List.filter_append, List.filter_cons_of_neg (by simp [notSelf]),
    List.filter_nil, List.append_nil]

theorem isPredecessorLogin_self : isPredecessorLogin event event = false := by
  simp [isPredecessorLogin]

theorem isPredecessorUse_self {hash : String} :
    isPredecessorUse event hash cutoff event = false := by
  simp [isPredecessorUse]

/-- Impossible travel depends on the last login before only. -/
theorem evaluate_login (isLogin : event.eventType = "authentication_success")
    {past : List SecurityEvent}
    (distinct : (past.map SecurityEvent.eventId).Nodup)
    (apart : ∀ item ∈ past, item.eventId ≠ event.eventId) :
    evaluateStatefulEvent library event past =
      .ok (((predecessor event past).bind (consequence library event)).map
        (statefulAlert library event impossibleTravelSpec
          ("impossible-travel:" ++ event.actor))).toList := by
  have kinds : isPredecessor event = isPredecessorLogin event := by
    funext item
    simp [isPredecessor, isLogin]
  unfold evaluateStatefulEvent
  rw [evaluate_history distinct apart, isLogin, spec_impossibleTravel]
  simp only [if_neg (show "authentication_success" ≠
    "sensitive_data_access" by decide), if_true]
  unfold impossibleTravelHistory predecessor
  rw [filter_concat_self isPredecessorLogin_self, kinds]
  unfold consequence
  cases located : coordinates event with
  | none =>
      cases greatest predecessorKey
        (past.filter (isPredecessorLogin event)) with
      | none => rfl
      | some previous => simp [isLogin]
  | some current =>
      cases greatest predecessorKey
        (past.filter (isPredecessorLogin event)) with
      | none => rfl
      | some previous =>
          have maximum : impossibleTravelSpec.maximumSpeedKph =
              some (.finite ['9', '0', '0', '.', '0'] (by decide)) := rfl
          simp only [Option.bind_some, isLogin, if_true, maximum]
          cases coordinates previous with
          | none => rfl
          | some before =>
              simp only []
              cases travelReasons library
                (.finite ['9', '0', '0', '.', '0'] (by decide)) before
                  current (event.timestamp.instant -
                    previous.timestamp.instant) with
              | none => rfl
              | some reasons => rfl

/-- Session replay depends on the last use before only. -/
theorem evaluate_use (isUse : event.eventType = "edge_session_use")
    {past : List SecurityEvent}
    (distinct : (past.map SecurityEvent.eventId).Nodup)
    (apart : ∀ item ∈ past, item.eventId ≠ event.eventId) :
    evaluateStatefulEvent library event past =
      .ok (((predecessor event past).bind (consequence library event)).map
        (statefulAlert library event sessionReplaySpec
          ("session-replay:" ++ (sessionHash event).getD ""))).toList := by
  have window : sessionReplaySpec.windowMinutes = some 10 := rfl
  have notLogin : "edge_session_use" ≠ "authentication_success" := by decide
  unfold evaluateStatefulEvent
  rw [evaluate_history distinct apart, isUse, spec_sessionReplay]
  simp only [if_neg (show "edge_session_use" ≠
      "sensitive_data_access" by decide), if_neg notLogin,
    if_neg (show "edge_session_use" ≠ "edge_auth_failure" by decide),
    if_true]
  unfold sessionReplayHistory predecessor
  cases hashed : sessionHash event with
  | none =>
      have noKind : isPredecessor event = fun _ => false := by
        funext item
        simp [isPredecessor, isUse, notLogin, hashed]
      rw [noKind, List.filter_false]
      cases sourceAddress event with
      | none => rfl
      | some address =>
          rw [window]
          rfl
  | some hash =>
      have kinds : isPredecessor event = isPredecessorUse event hash
          (event.timestamp.instant - minutes 10) := by
        funext item
        simp [isPredecessor, isUse, notLogin, hashed]
      rw [kinds]
      unfold consequence
      cases addressed : sourceAddress event with
      | none =>
          cases greatest predecessorKey (past.filter _) with
          | none => rfl
          | some previous => simp [isUse, notLogin]
      | some address =>
          simp only [window]
          rw [filter_concat_self isPredecessorUse_self]
          cases greatest predecessorKey (past.filter _) with
          | none => rfl
          | some previous =>
              simp only [Option.bind_some, isUse, if_neg notLogin, if_true]
              cases sourceAddress previous with
              | none => rfl
              | some before =>
                  by_cases same : before = address
                  · simp [same]
                  · simp only [if_neg same]
                    rfl

/-- A predecessor correlation depends on the last predecessor only. -/
theorem evaluate_predecessor
    (isPair : event.eventType = "authentication_success" ∨
      event.eventType = "edge_session_use") :
    ∃ spec scope, ∀ past : List SecurityEvent,
      (past.map SecurityEvent.eventId).Nodup →
      (∀ item ∈ past, item.eventId ≠ event.eventId) →
      evaluateStatefulEvent library event past =
        .ok (((predecessor event past).bind
          (consequence library event)).map
            (statefulAlert library event spec scope)).toList := by
  rcases isPair with isLogin | isUse
  · exact ⟨_, _, fun past distinct apart =>
      evaluate_login isLogin distinct apart⟩
  · exact ⟨_, _, fun past distinct apart =>
      evaluate_use isUse distinct apart⟩

/-- With the last predecessor of an event the query gives the same alerts
exactly when what it keeps has the same consequences. -/
theorem evaluate_kept_iff
    (isPair : event.eventType = "authentication_success" ∨
      event.eventType = "edge_session_use")
    (distinct : (others.map SecurityEvent.eventId).Nodup)
    (apart : ∀ item ∈ others, item.eventId ≠ event.eventId) :
    evaluateStatefulEvent library event (kept offset event others) =
        evaluateStatefulEvent library event others ↔
      Indifferent library offset event others := by
  obtain ⟨spec, scope, evaluates⟩ :=
    @evaluate_predecessor _ library event isPair
  have sublist : (kept offset event others).Subset others := by
    intro item member
    have ordered := List.mem_of_mem_take member
    exact List.mem_of_mem_filter (mem_orderBy.mp ordered)
  have keptDistinct :
      ((kept offset event others).map SecurityEvent.eventId).Nodup := by
    have length : (kept offset event others).length ≤ 1 :=
      List.length_take_le _ _
    match kept offset event others, length with
    | [], _ => exact List.nodup_nil
    | [item], _ => exact List.nodup_singleton _
  rw [evaluates others distinct apart, evaluates _ keptDistinct
    fun item member => apart item (sublist member)]
  unfold Indifferent
  constructor
  · intro same
    have alerts := congrArg List.head? (Except.ok.inj same)
    rw [Option.head?_toList, Option.head?_toList] at alerts
    apply Option.map_injective ?_ alerts
    intro left right sameAlert
    exact congrArg DetectionAlert.reasons sameAlert
  · intro same
    rw [same]

/-- Other correlations have no predecessor. -/
theorem resolved_of_window
    (notLogin : event.eventType ≠ "authentication_success")
    (notUse : event.eventType ≠ "edge_session_use") :
    Resolved offset event others := by
  intro before member isBefore
  simp [isPredecessor, notLogin, notUse] at isBefore

theorem indifferent_of_resolved
    (distinct : (others.map SecurityEvent.eventId).Nodup)
    (resolved : Resolved offset event others) :
    Indifferent library offset event others := by
  unfold Indifferent
  rw [(resolved_iff distinct).mpr resolved]

/-! ### The history of an event -/

theorem spec_windows :
    bulkAccessSpec.windowMinutes = some 15 ∧
      credentialStuffingSpec.windowMinutes = some 5 ∧
      sessionReplaySpec.windowMinutes = some 10 :=
  ⟨rfl, rfl, rfl⟩

/-- The rows of a window, in order, have no other identifiers. -/
theorem selected_distinct
    (distinct : (others.map SecurityEvent.eventId).Nodup)
    (apart : ∀ item ∈ others, item.eventId ≠ event.eventId)
    (selects : SecurityEvent → Bool) :
    ((orderBy (storedKey offset) (others.filter selects)).map
        SecurityEvent.eventId).Nodup ∧
      ∀ item ∈ orderBy (storedKey offset) (others.filter selects),
        item.eventId ≠ event.eventId :=
  ⟨orderBy_perm.map _ |>.nodup_iff.mpr
      (distinct.sublist (List.filter_sublist.map _)),
    fun item member =>
      apart item (List.mem_of_mem_filter (mem_orderBy.mp member))⟩

theorem evaluate_access (isAccess : event.eventType = "sensitive_data_access")
    (distinct : (others.map SecurityEvent.eventId).Nodup)
    (apart : ∀ item ∈ others, item.eventId ≠ event.eventId) :
    evaluateStatefulEvent library event (orderBy (storedKey offset)
        (others.filter (selectsAccess offset event
          (event.timestamp.instant - minutes 15)))) =
      evaluateStatefulEvent library event others := by
  obtain ⟨selectedDistinct, selectedApart⟩ :=
    @selected_distinct offset event others distinct apart
      (selectsAccess offset event (event.timestamp.instant - minutes 15))
  unfold evaluateStatefulEvent
  rw [evaluate_history distinct apart,
    evaluate_history selectedDistinct selectedApart]
  simp only [isAccess, spec_bulkAccess, if_true]
  apply bulkAccessHistory_congr
  intro windowMinutes isWindow
  cases Option.some.inj (spec_windows.1.symm.trans isWindow)
  exact filterMap_orderBy_perm fun item _ => accessSample_selected

theorem evaluate_failure (isFailed : event.eventType = "edge_auth_failure")
    (distinct : (others.map SecurityEvent.eventId).Nodup)
    (apart : ∀ item ∈ others, item.eventId ≠ event.eventId) :
    evaluateStatefulEvent library event (orderBy (storedKey offset)
        (others.filter (selectsFailure offset event
          (event.timestamp.instant - minutes 5)))) =
      evaluateStatefulEvent library event others := by
  obtain ⟨selectedDistinct, selectedApart⟩ :=
    @selected_distinct offset event others distinct apart
      (selectsFailure offset event (event.timestamp.instant - minutes 5))
  unfold evaluateStatefulEvent
  rw [evaluate_history distinct apart,
    evaluate_history selectedDistinct selectedApart]
  have notAccess : "edge_auth_failure" ≠ "sensitive_data_access" := by decide
  have notLogin : "edge_auth_failure" ≠ "authentication_success" := by decide
  simp only [isFailed, spec_credentialStuffing, if_neg notAccess,
    if_neg notLogin, if_true]
  apply credentialStuffingHistory_congr
  intro windowMinutes isWindow
  cases Option.some.inj (spec_windows.2.1.symm.trans isWindow)
  have permuted := (@orderBy_perm _ _ _ (storedKey offset)
    (others.filter (selectsFailure offset event
      (event.timestamp.instant - minutes 5)))).filter
    (isFailure event (event.timestamp.instant - minutes 5))
  rw [List.filter_filter] at permuted
  have selected : others.filter (fun item =>
      isFailure event (event.timestamp.instant - minutes 5) item &&
        selectsFailure offset event
          (event.timestamp.instant - minutes 5) item) =
      others.filter (isFailure event
        (event.timestamp.instant - minutes 5)) := by
    apply List.filter_congr
    intro item _
    cases failed : isFailure event
        (event.timestamp.instant - minutes 5) item with
    | false => rfl
    | true => simp [isFailure_selected failed]
  rw [selected] at permuted
  exact permuted

/-! ## The stored history -/

theorem storedKey_distinct (distinct : (others.map SecurityEvent.eventId).Nodup)
    {left right : SecurityEvent} (leftMember : left ∈ others)
    (rightMember : right ∈ others)
    (same : storedKey offset left = storedKey offset right) : left = right := by
  have sameId : left.eventId = right.eventId :=
    congrArg (fun stored => (ofLex stored).2) same
  exact eq_of_eventId distinct leftMember rightMember sameId

/-- The history depends on the other events of the tenant, and not on their
rows. -/
theorem loadDetectionHistory_congr
    {first second : Table StoredEvent StoredEvent.clash}
    (same : (otherEvents first tenantId event).Perm
      (otherEvents second tenantId event)) :
    loadDetectionHistory offset first tenantId event limit =
      loadDetectionHistory offset second tenantId event limit := by
  have distinct (selects : SecurityEvent → Bool) :
      ∀ left ∈ (otherEvents first tenantId event).filter selects,
      ∀ right ∈ (otherEvents first tenantId event).filter selects,
        storedKey offset left = storedKey offset right → left = right := by
    intro left isLeft right isRight
    exact storedKey_distinct otherEvents_distinct (List.mem_filter.mp isLeft).1
      (List.mem_filter.mp isRight).1
  have ordered (selects : SecurityEvent → Bool) :=
    orderBy_congr (same.filter selects) (distinct selects)
  have latest (selects : SecurityEvent → Bool) :=
    newest_congr (same.filter selects) (distinct selects)
  unfold loadDetectionHistory windowRows
  simp only [ordered, latest]

theorem load_access (isAccess : event.eventType = "sensitive_data_access")
    (atLeast : 1 ≤ limit) (atMost : limit ≤ 10000)
    (fits : Fits offset event (otherEvents stored tenantId event) limit) :
    loadDetectionHistory offset stored tenantId event limit =
      .ok (orderBy (storedKey offset) ((otherEvents stored tenantId event).filter
        (selectsAccess offset event
          (event.timestamp.instant - minutes 15)))) := by
  unfold loadDetectionHistory
  rw [if_neg (by omega), if_pos isAccess, isAccess, spec_bulkAccess]
  exact windowRows_ok (fits.1 isAccess)

theorem load_failure (isFailed : event.eventType = "edge_auth_failure")
    (addressed : (sourceAddress event).isSome = true)
    (atLeast : 1 ≤ limit) (atMost : limit ≤ 10000)
    (fits : Fits offset event (otherEvents stored tenantId event) limit) :
    loadDetectionHistory offset stored tenantId event limit =
      .ok (orderBy (storedKey offset) ((otherEvents stored tenantId event).filter
        (selectsFailure offset event
          (event.timestamp.instant - minutes 5)))) := by
  unfold loadDetectionHistory
  rw [if_neg (by omega), if_neg (by rw [isFailed]; decide),
    if_neg (by rw [isFailed]; decide), if_pos ⟨isFailed, addressed⟩, isFailed,
    spec_credentialStuffing]
  exact windowRows_ok (fits.2 isFailed)

theorem load_pair (isPair : event.eventType = "authentication_success" ∨
      event.eventType = "edge_session_use")
    (atLeast : 1 ≤ limit) (atMost : limit ≤ 10000) :
    loadDetectionHistory offset stored tenantId event limit =
      .ok (kept offset event (otherEvents stored tenantId event)) := by
  unfold loadDetectionHistory kept
  rw [if_neg (by omega)]
  rcases isPair with isLogin | isUse
  · have candidates :
        isCandidate offset event = selectsLogin offset event := by
      funext item
      simp [isCandidate, isLogin]
    rw [if_neg (by rw [isLogin]; decide), if_pos isLogin, candidates]
  · have notLogin : event.eventType ≠ "authentication_success" := by
      rw [isUse]
      decide
    rw [if_neg (by rw [isUse]; decide), if_neg notLogin,
      if_neg (by simp [isUse]), if_pos isUse, isUse, spec_sessionReplay]
    cases hashed : sessionHash event with
    | none =>
        have candidates : isCandidate offset event = fun _ => false := by
          funext item
          simp [isCandidate, isUse, hashed]
        rw [candidates, List.filter_false]
        rfl
    | some hash =>
        have candidates : isCandidate offset event = fun item =>
            selectsUse offset event
              (event.timestamp.instant - minutes 10) item hash := by
          funext item
          simp [isCandidate, isUse, hashed]
        rw [candidates]
        rfl

theorem load_other (notAccess : event.eventType ≠ "sensitive_data_access")
    (notLogin : event.eventType ≠ "authentication_success")
    (notFailure : ¬(event.eventType = "edge_auth_failure" ∧
      (sourceAddress event).isSome = true))
    (notUse : event.eventType ≠ "edge_session_use")
    (atLeast : 1 ≤ limit) (atMost : limit ≤ 10000) :
    loadDetectionHistory offset stored tenantId event limit = .ok [] := by
  unfold loadDetectionHistory
  rw [if_neg (by omega), if_neg notAccess, if_neg notLogin, if_neg notFailure,
    if_neg notUse]

/-- Where no correlation applies, the history does not matter. -/
theorem evaluate_other (notAccess : event.eventType ≠ "sensitive_data_access")
    (notLogin : event.eventType ≠ "authentication_success")
    (notFailure : ¬(event.eventType = "edge_auth_failure" ∧
      (sourceAddress event).isSome = true))
    (notUse : event.eventType ≠ "edge_session_use")
    (past : List SecurityEvent) :
    evaluateStatefulEvent library event past = .ok [] := by
  unfold evaluateStatefulEvent
  by_cases isFailed : event.eventType = "edge_auth_failure"
  · have noAddress : sourceAddress event = none := by
      rw [← Option.not_isSome_iff_eq_none]
      exact fun addressed => notFailure ⟨isFailed, addressed⟩
    rw [isFailed, spec_credentialStuffing]
    simp [credentialStuffingHistory, noAddress]
  · have noSpec : statefulCorrelationForEvent event.eventType = none := by
      simp [statefulCorrelationForEvent, statefulCorrelations, bulkAccessSpec,
        impossibleTravelSpec, credentialStuffingSpec, sessionReplaySpec,
        Ne.symm notAccess, Ne.symm notLogin, Ne.symm isFailed, Ne.symm notUse]
    rw [noSpec]

end Queries

def usedTwice (elapsed : Timestamp) : Table StoredEvent StoredEvent.clash where
  rows := [⟨"t1", sampleUse "use-1" 0 "192.0.2.1"⟩,
    ⟨"t1", sampleUse "use-2" elapsed "192.0.2.2"⟩]
  unique := by simp [StoredEvent.clash, sampleUse]

end Detection

end ControlForge
