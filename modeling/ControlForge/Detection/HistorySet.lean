import ControlForge.Detection.History

/-!
# History as a set of events

An event is correlated with the events its detectors may use.  How these are
listed, how often, and beside which other events does not matter.
-/

namespace ControlForge

namespace Detection

/-- The events a detector may use for an event: those of its window, or those
of which it takes the last. -/
def mayUse (event item : SecurityEvent) : Bool :=
  (item.eventId ≠ event.eventId : Bool) &&
    if event.eventType = "sensitive_data_access" then
      (accessSample event (event.timestamp.instant - minutes 15) item).isSome
    else if event.eventType = "edge_auth_failure" then
      isFailure event (event.timestamp.instant - minutes 5) item
    else isPredecessor event item

/-- Equal event identifiers carry equal events. -/
def Consistent (events : List SecurityEvent) : Prop :=
  ∀ left ∈ events, ∀ right ∈ events, left.eventId = right.eventId →
    left = right

/-- The history an event is evaluated with, the event itself apart. -/
def past (event : SecurityEvent) (priorEvents : List SecurityEvent) :
    List SecurityEvent :=
  collapse SecurityEvent.eventId
    (priorEvents.filter (·.eventId ≠ event.eventId))

section Histories

variable {F : Type} {library : Library F} {event item : SecurityEvent}
  {events left right : List SecurityEvent}

/-- What may be used is strictly before the event, or at its time. -/
theorem mayUse_notAfter (isUsable : mayUse event item = true) :
    item.timestamp.instant ≤ event.timestamp.instant := by
  simp only [mayUse, Bool.and_eq_true] at isUsable
  have kind := isUsable.2
  split at kind
  · unfold accessSample at kind
    split at kind
    · cases kind
    · next inside =>
        simp only [not_or, not_lt] at inside
        exact inside.2.2.2
  · split at kind
    · simp only [isFailure, decide_eq_true_eq] at kind
      exact kind.2.2.2
    · unfold isPredecessor at kind
      split at kind
      · simp only [isPredecessorLogin, decide_eq_true_eq] at kind
        exact kind.2.2.2.le
      · split at kind
        · cases hashed : sessionHash event with
          | none => simp [hashed] at kind
          | some hash =>
              simp only [hashed, Option.any_some, isPredecessorUse,
                decide_eq_true_eq] at kind
              exact kind.2.2.2.2.le
        · cases kind

/-! ## The past of an event -/

theorem past_distinct :
    ((past event events).map SecurityEvent.eventId).Nodup :=
  collapse_distinct _

theorem mem_past (consistent : Consistent events) :
    item ∈ past event events ↔
      item ∈ events ∧ item.eventId ≠ event.eventId := by
  unfold past
  rw [mem_collapse fun left leftMember right rightMember =>
    consistent left (List.mem_of_mem_filter leftMember) right
      (List.mem_of_mem_filter rightMember)]
  simp

theorem past_apart (consistent : Consistent events) :
    ∀ item ∈ past event events, item.eventId ≠ event.eventId :=
  fun _ member => ((mem_past consistent).mp member).2

/-- The past of the past is the past. -/
theorem evaluate_past (consistent : Consistent events) :
    evaluateStatefulEvent library event (past event events) =
      evaluateStatefulEvent library event events := by
  unfold evaluateStatefulEvent
  rw [evaluate_history past_distinct (past_apart consistent)]
  rfl

/-- The same usable events are listed in both pasts. -/
theorem usable_perm (leftConsistent : Consistent left)
    (rightConsistent : Consistent right)
    (same : ∀ item, mayUse event item = true → (item ∈ left ↔ item ∈ right)) :
    ((past event left).filter (mayUse event)).Perm
      ((past event right).filter (mayUse event)) := by
  apply (List.perm_ext_iff_of_nodup
    (past_distinct.of_map.filter _) (past_distinct.of_map.filter _)).mpr
  intro item
  rw [List.mem_filter, List.mem_filter, mem_past leftConsistent,
    mem_past rightConsistent]
  constructor
  · rintro ⟨⟨member, apart⟩, isUsable⟩
    exact ⟨⟨(same item isUsable).mp member, apart⟩, isUsable⟩
  · rintro ⟨⟨member, apart⟩, isUsable⟩
    exact ⟨⟨(same item isUsable).mpr member, apart⟩, isUsable⟩

/-! ## What the detectors read of it -/

/-- A kind of events of the past that may all be used. -/
theorem filter_usable {kind : SecurityEvent → Bool}
    (apart : ∀ item ∈ events, item.eventId ≠ event.eventId)
    (isKind : ∀ item, item.eventId ≠ event.eventId →
      mayUse event item = kind item) :
    events.filter (mayUse event) = events.filter kind :=
  List.filter_congr fun item member => isKind item (apart item member)

/-- The samples of a window are those of the events that may be used. -/
theorem samples_usable (isAccess : event.eventType = "sensitive_data_access")
    (apart : ∀ item ∈ events, item.eventId ≠ event.eventId) :
    (events.filter (mayUse event)).filterMap
        (accessSample event (event.timestamp.instant - minutes 15)) =
      events.filterMap
        (accessSample event (event.timestamp.instant - minutes 15)) := by
  rw [List.filterMap_filter]
  apply List.filterMap_congr
  intro item member
  have isKind : mayUse event item = (accessSample event
      (event.timestamp.instant - minutes 15) item).isSome := by
    simp [mayUse, isAccess, apart item member]
  rw [isKind]
  cases accessSample event (event.timestamp.instant - minutes 15) item with
  | none => rfl
  | some sample => rfl

variable (leftDistinct : (left.map SecurityEvent.eventId).Nodup)
  (rightDistinct : (right.map SecurityEvent.eventId).Nodup)
  (leftApart : ∀ item ∈ left, item.eventId ≠ event.eventId)
  (rightApart : ∀ item ∈ right, item.eventId ≠ event.eventId)
  (same : (left.filter (mayUse event)).Perm (right.filter (mayUse event)))

include leftDistinct rightDistinct leftApart rightApart same

theorem evaluate_access_congr
    (isAccess : event.eventType = "sensitive_data_access") :
    evaluateStatefulEvent library event left =
      evaluateStatefulEvent library event right := by
  have samples := same.filterMap
    (accessSample event (event.timestamp.instant - minutes 15))
  rw [samples_usable isAccess leftApart,
    samples_usable isAccess rightApart] at samples
  unfold evaluateStatefulEvent
  rw [evaluate_history leftDistinct leftApart,
    evaluate_history rightDistinct rightApart, isAccess, spec_bulkAccess]
  simp only [if_true]
  apply bulkAccessHistory_congr
  intro windowMinutes isWindow
  have isFifteen : 15 = windowMinutes := Option.some.inj isWindow
  rw [← isFifteen]
  exact samples

theorem evaluate_failure_congr
    (isFailed : event.eventType = "edge_auth_failure") :
    evaluateStatefulEvent library event left =
      evaluateStatefulEvent library event right := by
  have notAccess : "edge_auth_failure" ≠ "sensitive_data_access" := by decide
  have notLogin : "edge_auth_failure" ≠ "authentication_success" := by decide
  have isKind : ∀ item : SecurityEvent, item.eventId ≠ event.eventId →
      mayUse event item =
        isFailure event (event.timestamp.instant - minutes 5) item := by
    intro item apart
    simp [mayUse, isFailed, notAccess, apart]
  rw [filter_usable leftApart isKind, filter_usable rightApart isKind] at same
  unfold evaluateStatefulEvent
  rw [evaluate_history leftDistinct leftApart,
    evaluate_history rightDistinct rightApart, isFailed,
    spec_credentialStuffing]
  simp only [if_neg notAccess, if_neg notLogin, if_true]
  apply credentialStuffingHistory_congr
  intro windowMinutes isWindow
  have isFive : 5 = windowMinutes := Option.some.inj isWindow
  rw [← isFive]
  exact same

theorem evaluate_pair_congr
    (isPair : event.eventType = "authentication_success" ∨
      event.eventType = "edge_session_use") :
    evaluateStatefulEvent library event left =
      evaluateStatefulEvent library event right := by
  have isKind : ∀ item : SecurityEvent, item.eventId ≠ event.eventId →
      mayUse event item = isPredecessor event item := by
    intro item apart
    rcases isPair with isLogin | isUse
    · simp [mayUse, isLogin, apart]
    · simp [mayUse, isUse, apart]
  rw [filter_usable leftApart isKind, filter_usable rightApart isKind] at same
  have predecessors : predecessor event left = predecessor event right := by
    apply greatest_perm same
    intro first firstMember second secondMember sameKey
    exact predecessorKey_inj leftDistinct
      (List.mem_of_mem_filter firstMember)
      (List.mem_of_mem_filter secondMember) sameKey
  obtain ⟨spec, scope, evaluates⟩ :=
    @evaluate_predecessor _ library event isPair
  rw [evaluates left leftDistinct leftApart,
    evaluates right rightDistinct rightApart, predecessors]

omit leftDistinct rightDistinct leftApart rightApart same

end Histories

end Detection

end ControlForge
