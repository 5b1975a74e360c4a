import ControlForge.Cloud.Correlations

/-!
# Agreement of the two runtimes

The history-based correlations of the standalone runtime and the queries of
the cloud runtime are compared on one content: by rule and by reasons, the
distances and speeds of a travel apart.
-/

namespace ControlForge

namespace Cloud

open Detection (predecessorKey statefulAlert)

/-- The contents of the other stored rows of a tenant. -/
def otherContents (stored : Table EventRow EventRow.clash) (event : EventRow) :
    List SecurityEvent :=
  (stored.rows.filter fun row =>
    row.tenantId = event.tenantId ∧ row.eventId ≠ event.eventId).map
      EventRow.content

/-- What is compared of an alert. -/
def finding (ruleId : String) (reasons : List String) : String × List String :=
  (ruleId, if ruleId = "CF-IDENTITY-001" then [] else reasons)

def ofStandalone (alert : ControlForge.DetectionAlert) :
    String × List String :=
  finding alert.ruleId alert.reasons

def ofCloud (alert : DetectionAlert) : String × List String :=
  finding alert.ruleId alert.reasons

/-- One content for both runtimes: times in whole milliseconds, and numbers
that are exact in both. -/
structure SharedContent {F : Type} (script : Script F)
    (stored : Table EventRow EventRow.clash) (event : EventRow) : Prop where
  isStored : event ∈ stored.rows
  exactTimes : ∀ row ∈ stored.rows, row.tenantId = event.tenantId →
    row.occurredAt.instant % 1000 = 0
  safeBytes : ∀ row ∈ stored.rows, row.tenantId = event.tenantId →
    ∀ number, Detection.byteCount row.content = some number →
      IsSafe (number.whole script.library)
  safeTotal :
    IsSafe (stored.rows.filterMap (accessBytes script event 15)).sum
  safeCount : IsSafe stored.rows.length

/-- The failures of the window of an event are too few, their accounts are too
few whichever way they are counted, or both ways give one number. -/
def AccountsAgree {F : Type} (script : Script F) (event : EventRow)
    (rows : List EventRow) : Prop :=
  let actors := (rows.filter (isFailureRow event 5)).map EventRow.actor
  let folded := Detection.distinctAccounts script.library.casefold actors
  let lowered := Detection.distinctAccounts lower actors
  actors.length < 20 ∨ (folded < 10 ∧ lowered < 10) ∨ folded = lowered

/-- The address a session was used from before, if it is another one. -/
def reusedFrom (address : String) (previous : Option EventRow) :
    Option String :=
  (previous.bind fun row => Detection.sourceAddress row.content).filter
    (· ≠ address)

/-- A previous use whose attribute is the hash, and not a list or an object
with the text of the hash. -/
def isTextUse {F : Type} (script : Script F) (event : EventRow)
    (sessionHash : String) (row : EventRow) : Bool :=
  isPreviousUse script event 10 row sessionHash ∧
    Detection.sessionText row.content = some sessionHash

/-- The hash is long enough both in characters and in code units, or in
neither, and every previous use has it as a text. -/
def PlainSession {F : Type} (script : Script F) (event : EventRow)
    (sessionHash : String) (rows : List EventRow) : Prop :=
  (12 ≤ sessionHash.length ↔ 12 ≤ Json.unitLength sessionHash) ∧
    ∀ row ∈ rows, isPreviousUse script event 10 row sessionHash = true →
      Detection.sessionText row.content = some sessionHash

/-- Both runtimes find that the session was used from one other address, or
from none. -/
def SameReuse {F : Type} (script : Script F) (event : EventRow)
    (address sessionHash : String) (rows : List EventRow) : Prop :=
  (if 12 ≤ sessionHash.length then
      reusedFrom address (greatest rowKey
        (rows.filter (isTextUse script event sessionHash)))
    else none) =
  (if 12 ≤ Json.unitLength sessionHash then
      reusedFrom address (greatest rowKey (rows.filter fun row =>
        isPreviousUse script event 10 row sessionHash))
    else none)

def SessionsAgree {F : Type} (script : Script F) (event : EventRow)
    (rows : List EventRow) : Prop :=
  ∀ address sessionHash,
    Detection.sourceAddress event.content = some address →
    Detection.sessionText event.content = some sessionHash →
    PlainSession script event sessionHash rows ∨
      SameReuse script event address sessionHash rows

/-- The stored contents are read alike. -/
def ReadAlike {F : Type} (script : Script F) (event : EventRow)
    (rows : List EventRow) : Prop :=
  (event.eventType = "edge_auth_failure" →
    (Detection.sourceAddress event.content).isSome = true →
      AccountsAgree script event rows) ∧
    (event.eventType = "edge_session_use" → SessionsAgree script event rows)

/-- Both evaluations end, and they find the same exactly when the condition
holds. -/
def FindAlike {F : Type} (script : Script F) (event : EventRow)
    (rows : List EventRow) (others : List SecurityEvent) (condition : Prop) :
    Prop :=
  ∃ alerts found,
    Detection.evaluateStatefulEvent script.library event.content others =
      .ok alerts ∧
    statefulDetections script event rows = .ok found ∧
    (alerts.map ofStandalone = found.map ofCloud ↔ condition)

section Contents

variable {F : Type} {script : Script F}
  {stored : Table EventRow EventRow.clash} {event row : EventRow}
  {others : List SecurityEvent} {item : SecurityEvent}

/-! ## One content -/

/-- Both runtimes have the same events of a tenant. -/
theorem contents_perm (isStored : event ∈ stored.rows)
    (same : others.Perm (otherContents stored event)) :
    (others ++ [event.content]).Perm
      ((stored.rows.filter (·.tenantId = event.tenantId)).map
        EventRow.content) := by
  have itself : stored.rows.filter (fun row =>
      row.hasKey event.tenantId event.eventId) = [event] := by
    apply Table.filter_eq_singleton (by simp [EventRow.clash, EventRow.hasKey])
      isStored (by simp [EventRow.hasKey])
    intro other member isKeyed
    simp only [EventRow.hasKey, decide_eq_true_eq] at isKeyed
    apply Table.eq_of_clash member isStored
    · simp [EventRow.clash, EventRow.hasKey, isKeyed.1, isKeyed.2]
    · simp [EventRow.clash, EventRow.hasKey, isKeyed.1, isKeyed.2]
  have split := (List.filter_append_perm (fun row : EventRow =>
    row.eventId ≠ event.eventId)
      (stored.rows.filter (·.tenantId = event.tenantId))).map
        EventRow.content
  rw [List.filter_filter, List.filter_filter, List.map_append] at split
  have own : stored.rows.filter (fun row =>
      (!decide (row.eventId ≠ event.eventId)) &&
        decide (row.tenantId = event.tenantId)) = [event] := by
    rw [← itself]
    apply List.filter_congr
    intro row _
    by_cases sameId : row.eventId = event.eventId
    · simp [EventRow.hasKey, sameId]
    · simp [EventRow.hasKey, sameId]
  rw [own, List.map_singleton] at split
  apply List.Perm.trans ?_ split
  apply List.Perm.append_right
  apply same.trans
  unfold otherContents
  have others : stored.rows.filter (fun row =>
      decide (row.tenantId = event.tenantId ∧
        row.eventId ≠ event.eventId)) =
      stored.rows.filter fun row =>
        decide (row.eventId ≠ event.eventId) &&
          decide (row.tenantId = event.tenantId) := by
    apply List.filter_congr
    intro row _
    by_cases sameId : row.eventId = event.eventId
    · simp [sameId]
    · simp [sameId]
  rw [others]

theorem contents_distinct :
    ((otherContents stored event).map SecurityEvent.eventId).Nodup := by
  unfold otherContents
  rw [List.map_map]
  apply List.pairwise_map.mpr
  apply List.Pairwise.imp_of_mem ?_ (stored.unique.filter _)
  intro left right leftMember rightMember apart sameId
  have isLeft := (List.mem_filter.mp leftMember).2
  have isRight := (List.mem_filter.mp rightMember).2
  simp only [decide_eq_true_eq] at isLeft isRight
  have clashes : left.clash right = true := by
    have sameIds : left.eventId = right.eventId := sameId
    simp [EventRow.clash, EventRow.hasKey, isLeft.1, isRight.1, sameIds]
  rw [clashes] at apart
  cases apart

theorem contents_ne (member : item ∈ otherContents stored event) :
    item.eventId ≠ event.content.eventId := by
  obtain ⟨row, isRow, rfl⟩ := List.mem_map.mp member
  have selected := (List.mem_filter.mp isRow).2
  simp only [decide_eq_true_eq] at selected
  exact selected.2

theorem history_eq (same : others.Perm (otherContents stored event)) :
    collapse SecurityEvent.eventId
        (others.filter (·.eventId ≠ event.content.eventId)) = others := by
  apply Detection.evaluate_history
  · exact (same.map _).nodup_iff.mpr contents_distinct
  · intro item member
    exact contents_ne (same.mem_iff.mp member)

/-! ## Times -/

theorem instant_eq (exact : row.occurredAt.instant % 1000 = 0) :
    row.content.timestamp.instant = 1000 * millisecond row := by
  unfold millisecond Detection.julianday
  rw [Int.add_zero]
  exact (Int.mul_ediv_cancel_of_emod_eq_zero exact).symm

theorem minutes_eq (windowMinutes : Nat) :
    Detection.minutes windowMinutes =
      1000 * windowMilliseconds windowMinutes := by
  unfold Detection.minutes seconds windowMilliseconds
  rw [Int.mul_comm (windowMinutes : Int), ← Int.mul_assoc, Int.mul_assoc 60,
    Int.mul_comm (windowMinutes : Int), ← Int.mul_assoc]
  rfl

theorem thousand_pos : (0 : Int) < 1000 := by decide

section Times

variable (exact : row.occurredAt.instant % 1000 = 0)
  (eventExact : event.occurredAt.instant % 1000 = 0)

include exact eventExact

theorem before_iff : millisecond row < millisecond event ↔
    row.content.timestamp.instant < event.content.timestamp.instant := by
  rw [instant_eq exact, instant_eq eventExact]
  exact (Int.mul_lt_mul_left thousand_pos).symm

theorem notAfter_iff : millisecond row ≤ millisecond event ↔
    row.content.timestamp.instant ≤ event.content.timestamp.instant := by
  rw [instant_eq exact, instant_eq eventExact]
  exact (Int.mul_le_mul_left thousand_pos).symm

theorem notBefore_iff (windowMinutes : Nat) :
    millisecond event - windowMilliseconds windowMinutes ≤ millisecond row ↔
      event.content.timestamp.instant - Detection.minutes windowMinutes ≤
        row.content.timestamp.instant := by
  rw [instant_eq exact, instant_eq eventExact, minutes_eq, ← Int.mul_sub]
  exact (Int.mul_le_mul_left thousand_pos).symm

end Times

/-! ## Windows -/

/-- A selection of the stored rows of a tenant is a selection of both
runtimes' events. -/
theorem selected_perm {Sample : Type} (isStored : event ∈ stored.rows)
    (same : others.Perm (otherContents stored event))
    {ofRow : EventRow → Option Sample}
    {ofContent : SecurityEvent → Option Sample}
    (agree : ∀ row ∈ stored.rows, row.tenantId = event.tenantId →
      ofRow row = ofContent row.content)
    (own : ∀ row ∈ stored.rows, row.tenantId ≠ event.tenantId →
      ofRow row = none) :
    (stored.rows.filterMap ofRow).Perm
      ((others ++ [event.content]).filterMap ofContent) := by
  have tenantRows : stored.rows.filterMap ofRow =
      ((stored.rows.filter (·.tenantId = event.tenantId)).map
        EventRow.content).filterMap ofContent := by
    rw [List.filterMap_map, List.filterMap_filter]
    apply List.filterMap_congr
    intro row member
    by_cases isOwn : row.tenantId = event.tenantId
    · simp [isOwn, agree row member isOwn]
    · simp [isOwn, own row member isOwn]
  rw [tenantRows]
  exact (contents_perm isStored same).symm.filterMap ofContent

theorem isWithin_iff (exact : row.occurredAt.instant % 1000 = 0)
    (eventExact : event.occurredAt.instant % 1000 = 0)
    {windowMinutes : Nat} :
    isWithin event windowMinutes row = true ↔
      event.content.timestamp.instant - Detection.minutes windowMinutes ≤
          row.content.timestamp.instant ∧
        row.content.timestamp.instant ≤ event.content.timestamp.instant := by
  unfold isWithin
  rw [decide_eq_true_eq, notBefore_iff exact eventExact,
    notAfter_iff exact eventExact]

theorem castInteger_eq {number : Detection.Number}
    (safe : IsSafe (number.whole script.library)) :
    castInteger script.library number = number.whole script.library := by
  obtain ⟨lower, upper⟩ := safe
  unfold maxSafeInteger at lower upper
  unfold castInteger
  omega

theorem accessBytes_eq (shared : SharedContent script stored event)
    (isAccess : event.eventType = "sensitive_data_access")
    (member : row ∈ stored.rows) (isOwn : row.tenantId = event.tenantId) :
    accessBytes script event 15 row =
      (Detection.accessSample event.content
        (event.content.timestamp.instant - Detection.minutes 15)
          row.content).map (Detection.Number.whole script.library) := by
  have exact := shared.exactTimes row member isOwn
  have eventExact := shared.exactTimes event shared.isStored rfl
  unfold accessBytes Detection.accessSample
  by_cases inside : row.actor = event.actor ∧
      row.eventType = "sensitive_data_access" ∧ isWithin event 15 row = true
  · obtain ⟨sameActor, sameType, within⟩ := inside
    have bounds := (isWithin_iff exact eventExact).mp within
    rw [if_pos ⟨isOwn, sameActor, sameType, within⟩, if_neg]
    · change (Detection.byteCount row.content).map _ = _
      cases counted : Detection.byteCount row.content with
      | none => rfl
      | some number =>
          rw [Option.map_some, Option.map_some,
            castInteger_eq (shared.safeBytes row member isOwn number counted)]
    · rintro (otherType | otherActor | early | late)
      · exact otherType (sameType.trans isAccess.symm)
      · exact otherActor sameActor
      · exact absurd bounds.1 (Int.not_le.mpr early)
      · exact absurd bounds.2 (Int.not_le.mpr late)
  · rw [if_neg fun selected => inside selected.2, if_pos]
    · rfl
    · by_contra selected
      simp only [not_or, not_not, EventRow.content] at selected
      obtain ⟨sameType, sameActor, notEarly, notLate⟩ := selected
      apply inside
      refine ⟨sameActor, sameType.trans isAccess,
        (isWithin_iff exact eventExact).mpr ⟨?_, ?_⟩⟩
      · exact Int.not_lt.mp notEarly
      · exact Int.not_lt.mp notLate

/-! ## One correlation for an event -/

theorem bulkAccess_other (notAccess : event.eventType ≠ "sensitive_data_access")
    (rows : List EventRow) : bulkAccess script event rows = .ok [] := by
  unfold bulkAccess
  rw [if_neg fun isAccess => notAccess isAccess.1]

theorem impossibleTravel_other
    (notLogin : event.eventType ≠ "authentication_success")
    (rows : List EventRow) : impossibleTravel script event rows = .ok [] := by
  unfold impossibleTravel
  cases Detection.coordinates event.content with
  | none => rfl
  | some current => simp only [if_neg notLogin]

theorem credentialStuffing_other
    (notFailure : event.eventType ≠ "edge_auth_failure")
    (rows : List EventRow) : credentialStuffing script event rows = .ok [] := by
  unfold credentialStuffing
  cases Detection.sourceAddress event.content with
  | none => rfl
  | some address => simp only [if_neg notFailure]

theorem sessionReplay_other (notUse : event.eventType ≠ "edge_session_use")
    (rows : List EventRow) : sessionReplay script event rows = .ok [] := by
  unfold sessionReplay
  cases Detection.sourceAddress event.content with
  | none => rfl
  | some address =>
      simp only [if_neg fun isUse : _ ∧ _ => notUse isUse.1]

theorem correlation_eq {spec : Detection.StatefulCorrelationSpec}
    (isSpec : Detection.statefulCorrelationForEvent event.eventType =
      some spec) : correlation event.eventType = .ok spec := by
  unfold correlation
  unfold Detection.statefulCorrelationForEvent at isSpec
  rw [isSpec]

/-! ## Bulk access -/

theorem detections_access (isAccess : event.eventType = "sensitive_data_access")
    (rows : List EventRow) :
    statefulDetections script event rows = bulkAccess script event rows := by
  unfold statefulDetections
  rw [impossibleTravel_other (by rw [isAccess]; decide),
    credentialStuffing_other (by rw [isAccess]; decide),
    sessionReplay_other (by rw [isAccess]; decide)]
  cases bulkAccess script event rows with
  | error failure => rfl
  | ok alerts => simp [bind, Except.bind, pure, Except.pure]

theorem accessBytes_other (otherTenant : row.tenantId ≠ event.tenantId) :
    accessBytes script event 15 row = none := by
  unfold accessBytes
  rw [if_neg fun selected => otherTenant selected.1]

/-- The integers a query gives are those of the contents. -/
theorem length_safe {Sample : Type} {samples : List Sample}
    (within : samples.length ≤ stored.rows.length)
    (shared : SharedContent script stored event) :
    IsSafe samples.length := by
  obtain ⟨-, upper⟩ := shared.safeCount
  constructor
  · unfold maxSafeInteger
    omega
  · exact le_trans (Int.ofNat_le.mpr within) upper

theorem access_agrees (shared : SharedContent script stored event)
    (faithful : ∀ value, IsSafe value → script.toNumber value = value)
    (same : others.Perm (otherContents stored event))
    (isAccess : event.eventType = "sensitive_data_access") :
    FindAlike script event stored.rows others True := by
  have samples := @selected_perm stored event others _ shared.isStored same
    (accessBytes script event 15)
    (fun item => (Detection.accessSample event.content
      (event.content.timestamp.instant - Detection.minutes 15) item).map
        (Detection.Number.whole script.library))
    (fun row member isOwn => accessBytes_eq shared isAccess member isOwn)
    (fun row _ otherTenant => accessBytes_other otherTenant)
  rw [← List.map_filterMap] at samples
  have count := faithful _ (length_safe (List.length_filterMap_le
    (accessBytes script event 15) stored.rows) shared)
  have total := faithful _ shared.safeTotal
  rw [samples.length_eq] at count
  rw [samples.sum_eq] at total
  have specified : Detection.statefulCorrelationForEvent event.eventType =
      some Detection.bulkAccessSpec := by
    rw [isAccess]
    exact Detection.spec_bulkAccess
  unfold FindAlike
  rw [detections_access isAccess]
  unfold Detection.evaluateStatefulEvent Detection.bulkAccessHistory bulkAccess
  rw [correlation_eq specified]
  have isContent : event.content.eventType = event.eventType := rfl
  rw [isContent, specified, history_eq same]
  simp only [isAccess, if_true, true_and]
  cases counted : Detection.byteCount event.content with
  | none => exact ⟨[], [], rfl, rfl, iff_of_true rfl trivial⟩
  | some bytes =>
      have window : Detection.bulkAccessSpec.windowMinutes = some 15 := rfl
      have events : Detection.bulkAccessSpec.eventThreshold = some 10 := rfl
      have volume :
          Detection.bulkAccessSpec.byteThreshold = some 50000000 := rfl
      simp only [Option.isSome_some, if_true, window, events, volume,
        requiredNumber, bind, Except.bind, pure, Except.pure, count, total,
        samples.length_eq, samples.sum_eq]
      by_cases few :
          ((((others ++ [event.content]).filterMap
            (Detection.accessSample event.content
              (event.content.timestamp.instant - Detection.minutes 15))).map
                (Detection.Number.whole script.library)).length < 10 ∧
          (((others ++ [event.content]).filterMap
            (Detection.accessSample event.content
              (event.content.timestamp.instant - Detection.minutes 15))).map
                (Detection.Number.whole script.library)).sum < 50000000)
      · refine ⟨[], [], if_pos few, if_neg ?_, iff_of_true rfl trivial⟩
        omega
      · refine ⟨_, _, if_neg few, if_pos ?_, iff_of_true rfl trivial⟩
        omega

/-! ## Predecessors -/

theorem same_millisecond_iff (exact : row.occurredAt.instant % 1000 = 0)
    (eventExact : event.occurredAt.instant % 1000 = 0) :
    millisecond row = millisecond event ↔
      row.content.timestamp.instant = event.content.timestamp.instant := by
  rw [instant_eq exact, instant_eq eventExact]
  exact (Int.mul_eq_mul_left_iff thousand_pos.ne').symm

theorem rowKey_le_iff (exact : row.occurredAt.instant % 1000 = 0)
    (eventExact : event.occurredAt.instant % 1000 = 0) :
    predecessorKey row.content ≤ predecessorKey event.content ↔
      rowKey row ≤ rowKey event := by
  unfold predecessorKey rowKey
  rw [Prod.Lex.toLex_le_toLex, Prod.Lex.toLex_le_toLex]
  simp only [before_iff exact eventExact, same_millisecond_iff exact eventExact]
  rfl

theorem row_eq_of_id {left right : EventRow} (leftMember : left ∈ stored.rows)
    (rightMember : right ∈ stored.rows)
    (leftOwn : left.tenantId = event.tenantId)
    (rightOwn : right.tenantId = event.tenantId)
    (sameId : left.eventId = right.eventId) : left = right := by
  apply Table.eq_of_clash leftMember rightMember
  · simp [EventRow.clash, EventRow.hasKey, leftOwn, rightOwn, sameId]
  · simp [EventRow.clash, EventRow.hasKey, leftOwn, rightOwn, sameId]

/-- A query for the last of some rows finds the greatest of them, and its
content is the greatest of those contents. -/
theorem previous_eq (shared : SharedContent script stored event)
    (same : others.Perm (otherContents stored event))
    {selects : EventRow → Bool} {kind : SecurityEvent → Bool}
    (agree : ∀ row ∈ stored.rows, selects row = true ↔
      row.tenantId = event.tenantId ∧ kind row.content = true) :
    newest rowKey (stored.rows.filter selects) =
        (greatest rowKey (stored.rows.filter selects)).toList ∧
      (greatest rowKey (stored.rows.filter selects)).map EventRow.content =
        greatest predecessorKey
          ((others ++ [event.content]).filter kind) := by
  have own : ∀ row ∈ stored.rows.filter selects, row ∈ stored.rows ∧
      row.tenantId = event.tenantId := by
    intro row isSelected
    obtain ⟨member, selected⟩ := List.mem_filter.mp isSelected
    exact ⟨member, ((agree row member).mp selected).1⟩
  have sameRow : ∀ left ∈ stored.rows.filter selects,
      ∀ right ∈ stored.rows.filter selects,
        left.eventId = right.eventId → left = right := by
    intro left isLeft right isRight
    exact row_eq_of_id (own left isLeft).1 (own right isRight).1
      (own left isLeft).2 (own right isRight).2
  constructor
  · apply newest_eq_greatest
    intro left isLeft right isRight sameKey
    exact sameRow left isLeft right isRight (congrArg Prod.snd sameKey)
  · have kinds := (contents_perm shared.isStored same).filter kind
    have rows : stored.rows.filter selects =
        (stored.rows.filter (·.tenantId = event.tenantId)).filter
          (kind ∘ EventRow.content) := by
      rw [List.filter_filter]
      apply List.filter_congr
      intro row member
      rw [Bool.eq_iff_iff, agree row member]
      simp [and_comm]
    rw [List.filter_map, ← rows] at kinds
    rw [← greatest_perm kinds.symm, greatest_map]
    · congr 1
      symm
      apply greatest_congr
      · intro left isLeft right isRight
        exact rowKey_le_iff
          (shared.exactTimes left (own left isLeft).1 (own left isLeft).2)
          (shared.exactTimes right (own right isRight).1 (own right isRight).2)
      · intro left isLeft right isRight sameKey
        exact sameRow left isLeft right isRight (congrArg Prod.snd sameKey)
    · intro left isLeft right isRight sameKey
      obtain ⟨leftRow, leftMember, rfl⟩ := List.mem_map.mp isLeft
      obtain ⟨rightRow, rightMember, rfl⟩ := List.mem_map.mp isRight
      rw [sameRow leftRow leftMember rightRow rightMember
        (congrArg Prod.snd sameKey)]

/-! ## Impossible travel -/

theorem detections_login (isLogin : event.eventType = "authentication_success")
    (rows : List EventRow) :
    statefulDetections script event rows =
      impossibleTravel script event rows := by
  unfold statefulDetections
  rw [bulkAccess_other (by rw [isLogin]; decide),
    credentialStuffing_other (by rw [isLogin]; decide),
    sessionReplay_other (by rw [isLogin]; decide)]
  cases impossibleTravel script event rows with
  | error failure => rfl
  | ok alerts => simp [bind, Except.bind, pure, Except.pure]

/-- A row of an earlier millisecond is not the row of the event. -/
theorem id_ne_of_before (shared : SharedContent script stored event)
    (member : row ∈ stored.rows) (isOwn : row.tenantId = event.tenantId)
    (before : millisecond row < millisecond event) :
    row.eventId ≠ event.eventId := by
  intro sameId
  rw [row_eq_of_id member shared.isStored isOwn rfl sameId] at before
  exact lt_irrefl _ before

theorem isPreviousLogin_iff (shared : SharedContent script stored event)
    (isLogin : event.eventType = "authentication_success")
    (member : row ∈ stored.rows) :
    isPreviousLogin event row = true ↔ row.tenantId = event.tenantId ∧
      Detection.isPredecessor event.content row.content = true := by
  have isContent : event.content.eventType = "authentication_success" :=
    isLogin
  unfold isPreviousLogin Detection.isPredecessor Detection.isPredecessorLogin
  rw [if_pos isContent, decide_eq_true_eq, decide_eq_true_eq]
  constructor
  · rintro ⟨isOwn, sameActor, sameType, before⟩
    exact ⟨isOwn, id_ne_of_before shared member isOwn before,
      sameType.trans isLogin.symm, sameActor,
      (before_iff (shared.exactTimes row member isOwn)
        (shared.exactTimes event shared.isStored rfl)).mp before⟩
  · rintro ⟨isOwn, -, sameType, sameActor, before⟩
    exact ⟨isOwn, sameActor, sameType.trans isLogin,
      (before_iff (shared.exactTimes row member isOwn)
        (shared.exactTimes event shared.isStored rfl)).mpr before⟩

theorem isPredecessor_self :
    Detection.isPredecessor event.content event.content = false := by
  unfold Detection.isPredecessor
  split
  · exact Detection.isPredecessorLogin_self
  · split
    · cases Detection.sessionHash event.content with
      | none => rfl
      | some sessionHash => exact Detection.isPredecessorUse_self
    · rfl

theorem others_distinct (same : others.Perm (otherContents stored event)) :
    (others.map SecurityEvent.eventId).Nodup ∧
      ∀ item ∈ others, item.eventId ≠ event.content.eventId :=
  ⟨(same.map _).nodup_iff.mpr contents_distinct,
    fun _ member => contents_ne (same.mem_iff.mp member)⟩

theorem login_agrees (shared : SharedContent script stored event)
    (same : others.Perm (otherContents stored event))
    (isLogin : event.eventType = "authentication_success") :
    FindAlike script event stored.rows others True := by
  obtain ⟨isNewest, isPrevious⟩ := previous_eq shared same
    fun row member => isPreviousLogin_iff shared isLogin member
  rw [Detection.filter_concat_self isPredecessor_self] at isPrevious
  obtain ⟨distinct, apart⟩ := others_distinct same
  have specified : Detection.statefulCorrelationForEvent event.eventType =
      some Detection.impossibleTravelSpec := by
    rw [isLogin]
    exact Detection.spec_impossibleTravel
  have maximum : Detection.impossibleTravelSpec.maximumSpeedKph =
      some (.finite ['9', '0', '0', '.', '0'] (by decide)) := rfl
  have isContent : event.content.eventType = "authentication_success" :=
    isLogin
  unfold FindAlike
  rw [detections_login isLogin,
    Detection.evaluate_login isContent distinct apart]
  unfold Detection.predecessor impossibleTravel
  rw [← isPrevious, correlation_eq specified, isNewest]
  cases found : greatest rowKey
      (stored.rows.filter (isPreviousLogin event)) with
  | none =>
      refine ⟨[], [], rfl, ?_, iff_of_true rfl trivial⟩
      cases Detection.coordinates event.content with
      | none => rfl
      | some current =>
          simp only [if_pos isLogin]
          rfl
  | some previous =>
      have selected := List.mem_filter.mp (greatest_spec found).1
      have before : previous.occurredAt.instant < event.occurredAt.instant := by
        obtain ⟨member, isPrevious⟩ := selected
        simp only [isPreviousLogin, decide_eq_true_eq] at isPrevious
        exact (before_iff (shared.exactTimes previous member isPrevious.1)
          (shared.exactTimes event shared.isStored rfl)).mp isPrevious.2.2.2
      have elapsed :
          0 < event.occurredAt.instant - previous.occurredAt.instant :=
        Int.sub_pos_of_lt before
      unfold Detection.consequence
      simp only [Option.map_some, Option.bind_some, if_pos isContent, maximum,
        Option.toList_some]
      cases Detection.coordinates event.content with
      | none => exact ⟨[], [], rfl, rfl, iff_of_true rfl trivial⟩
      | some current =>
          simp only [if_pos isLogin]
          cases located : Detection.coordinates previous.content with
          | none =>
              refine ⟨[], [], rfl, ?_, iff_of_true rfl trivial⟩
              simp only [requiredNumber, maximum, bind, Except.bind]
              rfl
          | some past =>
              simp only [requiredNumber, maximum, bind, Except.bind,
                Detection.travelReasons]
              by_cases fast : script.library.exceeds
                  (script.library.divide
                    (script.library.haversineKm past.1 past.2 current.1
                      current.2)
                    (script.library.hours (event.content.timestamp.instant -
                      previous.content.timestamp.instant)))
                  (.finite ['9', '0', '0', '.', '0'] (by decide)) = true
              · rw [if_pos fast]
                exact ⟨_, _, rfl, if_pos ⟨elapsed, fast⟩,
                  iff_of_true rfl trivial⟩
              · rw [if_neg fast]
                exact ⟨_, _, rfl, if_neg fun exceeds => fast exceeds.2,
                  iff_of_true rfl trivial⟩

/-! ## Credential stuffing -/

theorem detections_failure (isFailed : event.eventType = "edge_auth_failure")
    (rows : List EventRow) :
    statefulDetections script event rows =
      credentialStuffing script event rows := by
  unfold statefulDetections
  rw [bulkAccess_other (by rw [isFailed]; decide),
    impossibleTravel_other (by rw [isFailed]; decide),
    sessionReplay_other (by rw [isFailed]; decide)]
  cases credentialStuffing script event rows with
  | error failure => rfl
  | ok alerts => simp [bind, Except.bind, pure, Except.pure]

theorem isFailureRow_iff (shared : SharedContent script stored event)
    (isFailed : event.eventType = "edge_auth_failure")
    (member : row ∈ stored.rows) (isOwn : row.tenantId = event.tenantId) :
    isFailureRow event 5 row = Detection.isFailure event.content
      (event.content.timestamp.instant - Detection.minutes 5)
        row.content := by
  have within := @isWithin_iff event row (shared.exactTimes row member isOwn)
    (shared.exactTimes event shared.isStored rfl) 5
  unfold isFailureRow Detection.isFailure
  rw [decide_eq_decide, within]
  simp only [isOwn, EventRow.content, isFailed, true_and]
  constructor
  · rintro ⟨sameAddress, sameType, bounds⟩
    exact ⟨sameType, sameAddress, bounds⟩
  · rintro ⟨sameType, sameAddress, bounds⟩
    exact ⟨sameAddress, sameType, bounds⟩

/-- The failures of a window are those of both runtimes' events. -/
theorem failures_perm (shared : SharedContent script stored event)
    (same : others.Perm (otherContents stored event))
    (isFailed : event.eventType = "edge_auth_failure") :
    ((stored.rows.filter (isFailureRow event 5)).map EventRow.actor).Perm
      (((others ++ [event.content]).filter (Detection.isFailure event.content
        (event.content.timestamp.instant - Detection.minutes 5))).map
          SecurityEvent.actor) := by
  have selected := @selected_perm stored event others String shared.isStored
    same (fun row => if isFailureRow event 5 row then some row.actor else none)
    (fun item => if Detection.isFailure event.content
        (event.content.timestamp.instant - Detection.minutes 5) item then
      some item.actor else none)
    (fun row member isOwn => by
      rw [isFailureRow_iff shared isFailed member isOwn]
      rfl)
    (fun row _ otherTenant => by simp [isFailureRow, otherTenant])
  rw [← List.filterMap_eq_map, ← List.filterMap_eq_map,
    List.filterMap_filter, List.filterMap_filter]
  exact selected

theorem toString_injective {left right : Nat}
    (same : toString left = toString right) : left = right := by
  have value := congrArg (fun text : String =>
    Nat.ofDigitChars 10 text.toList 0) same
  simpa [Nat.ofDigitChars_ten_toDigits] using value

/-- Two alerts for accounts name the same number exactly when it is the
same. -/
theorem accounts_text_iff {count : String} {left right : Nat} :
    finding "CF-EDGE-002"
        [count, toString left ++ " distinct accounts within " ++ toString 5 ++
          "m"] =
      finding "CF-EDGE-002"
        [count, toString right ++ " distinct accounts within " ++ toString 5 ++
          "m"] ↔
      left = right := by
  constructor
  · intro same
    have reasons := congrArg Prod.snd same
    simp only [finding, if_neg (show "CF-EDGE-002" ≠ "CF-IDENTITY-001" by
      decide), List.cons.injEq, true_and, and_true] at reasons
    rw [String.append_left_inj, String.append_left_inj,
      String.append_left_inj] at reasons
    exact toString_injective reasons
  · intro same
    rw [same]

theorem distinctAccounts_le {casefold : String → String}
    {actors : List String} :
    Detection.distinctAccounts casefold actors ≤ actors.length := by
  unfold Detection.distinctAccounts
  apply (List.dedup_sublist _).length_le.trans
  rw [List.length_map]

/-- The report of the standalone runtime on so many failures and accounts. -/
theorem evaluate_failure (same : others.Perm (otherContents stored event))
    (isFailed : event.eventType = "edge_auth_failure") {address : String}
    (isAddress : Detection.sourceAddress event.content = some address)
    {actors : List String}
    (failures : actors.Perm (((others ++ [event.content]).filter
      (Detection.isFailure event.content (event.content.timestamp.instant -
        Detection.minutes 5))).map SecurityEvent.actor)) :
    Detection.evaluateStatefulEvent script.library event.content others =
      if actors.length < 20 ∨
          Detection.distinctAccounts script.library.casefold actors < 10 then
        .ok []
      else .ok [statefulAlert script.library event.content
        Detection.credentialStuffingSpec ("credential-stuffing:" ++ address)
        [toString actors.length ++ " failed authentications from " ++ address,
          toString (Detection.distinctAccounts script.library.casefold
            actors) ++ " distinct accounts within " ++ toString 5 ++
              "m"]] := by
  have window : Detection.credentialStuffingSpec.windowMinutes = some 5 := rfl
  have events : Detection.credentialStuffingSpec.eventThreshold = some 20 := rfl
  have distinct :
      Detection.credentialStuffingSpec.distinctThreshold = some 10 := rfl
  have isContent : event.content.eventType = "edge_auth_failure" := isFailed
  have length := failures.length_eq
  rw [List.length_map] at length
  unfold Detection.evaluateStatefulEvent Detection.credentialStuffingHistory
  rw [history_eq same, isContent, Detection.spec_credentialStuffing]
  simp only [if_neg (show "edge_auth_failure" ≠ "sensitive_data_access" by
      decide), if_neg (show "edge_auth_failure" ≠ "authentication_success" by
      decide), if_true, isAddress, window, events, distinct, ← length,
    ← Detection.distinctAccounts_perm failures]

/-- The report of the cloud runtime on its failures. -/
theorem detections_failures (shared : SharedContent script stored event)
    (faithful : ∀ value, IsSafe value → script.toNumber value = value)
    (isFailed : event.eventType = "edge_auth_failure") {address : String}
    (isAddress : Detection.sourceAddress event.content = some address)
    {actors : List String} (isActors : actors =
      (stored.rows.filter (isFailureRow event 5)).map EventRow.actor) :
    statefulDetections script event stored.rows =
      if 20 ≤ actors.length ∧
          10 ≤ Detection.distinctAccounts lower actors then
        .ok [createAlert script event Detection.credentialStuffingSpec
          [toString actors.length ++ " failed authentications from " ++
              address,
            toString (Detection.distinctAccounts lower actors) ++
              " distinct accounts within " ++ toString 5 ++ "m"]]
      else .ok [] := by
  have window : Detection.credentialStuffingSpec.windowMinutes = some 5 := rfl
  have events : Detection.credentialStuffingSpec.eventThreshold = some 20 := rfl
  have distinct :
      Detection.credentialStuffingSpec.distinctThreshold = some 10 := rfl
  have specified : Detection.statefulCorrelationForEvent event.eventType =
      some Detection.credentialStuffingSpec := by
    rw [isFailed]
    exact Detection.spec_credentialStuffing
  have length : actors.length =
      (stored.rows.filter (isFailureRow event 5)).length := by
    rw [isActors, List.length_map]
  have count := length_safe (List.length_filter_le
    (isFailureRow event 5) stored.rows) shared
  rw [← length] at count
  have accounts : IsSafe (Detection.distinctAccounts lower actors) := by
    obtain ⟨-, upper⟩ := count
    refine ⟨?_, le_trans (Int.ofNat_le.mpr distinctAccounts_le) upper⟩
    unfold maxSafeInteger
    omega
  rw [detections_failure isFailed]
  unfold credentialStuffing
  rw [correlation_eq specified]
  simp only [isAddress, if_pos isFailed, requiredNumber]
  simp only [bind, Except.bind, pure, Except.pure]
  simp only [window, events, distinct]
  simp only [← isActors, ← length, faithful _ count, faithful _ accounts]
  -- A number that is an `Int` here is counted as a `Nat` there.
  have text : ∀ number : Nat, toString (number : Int) = toString number := by
    intro number
    rfl
  by_cases enough : 20 ≤ actors.length ∧
      10 ≤ Detection.distinctAccounts lower actors
  · rw [if_pos enough, if_pos ⟨by omega, by omega⟩, text, text]
  · rw [if_neg enough, if_neg (by omega)]

theorem failure_agrees (shared : SharedContent script stored event)
    (faithful : ∀ value, IsSafe value → script.toNumber value = value)
    (same : others.Perm (otherContents stored event))
    (isFailed : event.eventType = "edge_auth_failure")
    (addressed : (Detection.sourceAddress event.content).isSome = true) :
    FindAlike script event stored.rows others
      (AccountsAgree script event stored.rows) := by
  obtain ⟨address, isAddress⟩ := Option.isSome_iff_exists.mp addressed
  unfold FindAlike AccountsAgree
  generalize isActors :
    (stored.rows.filter (isFailureRow event 5)).map EventRow.actor = actors
  have failures := failures_perm shared same isFailed
  rw [isActors] at failures
  rw [evaluate_failure same isFailed isAddress failures,
    detections_failures shared faithful isFailed isAddress isActors.symm]
  simp only []
  generalize Detection.distinctAccounts script.library.casefold actors = folded
  generalize Detection.distinctAccounts lower actors = lowered
  by_cases few : actors.length < 20
  · refine ⟨[], [], if_pos (.inl few), if_neg ?_, iff_of_true rfl (.inl few)⟩
    omega
  by_cases foldedFew : folded < 10
  · by_cases loweredFew : lowered < 10
    · refine ⟨[], [], if_pos (.inr foldedFew), if_neg ?_,
        iff_of_true rfl (.inr (.inl ⟨foldedFew, loweredFew⟩))⟩
      omega
    · refine ⟨[], _, if_pos (.inr foldedFew), if_pos ?_,
        iff_of_false nofun ?_⟩
      · omega
      · omega
  · by_cases loweredFew : lowered < 10
    · refine ⟨_, [], if_neg ?_, if_neg ?_, iff_of_false nofun ?_⟩
      · omega
      · omega
      · omega
    · refine ⟨_, _, if_neg ?_, if_pos ?_, ?_⟩
      · omega
      · omega
      · have others : actors.length < 20 ∨ folded < 10 ∧ lowered < 10 ∨
            folded = lowered ↔ folded = lowered := by
          omega
        rw [others, ← accounts_text_iff, List.map_singleton,
          List.map_singleton, List.singleton_inj]
        rfl

/-! ## Session replay -/

theorem detections_use (isUse : event.eventType = "edge_session_use")
    (rows : List EventRow) :
    statefulDetections script event rows = sessionReplay script event rows := by
  unfold statefulDetections
  rw [bulkAccess_other (by rw [isUse]; decide),
    impossibleTravel_other (by rw [isUse]; decide),
    credentialStuffing_other (by rw [isUse]; decide)]
  cases sessionReplay script event rows with
  | error failure => rfl
  | ok alerts => simp [bind, Except.bind, pure, Except.pure]

/-- What is compared of an alert for a session that was used before. -/
def reuse (address before : String) : String × List String :=
  finding "CF-EDGE-003"
    ["session hash reused from " ++ before ++ " and " ++ address,
      "reuse occurred within 10m"]

theorem reuse_injective {address : String} :
    Function.Injective (reuse address) := by
  intro left right same
  have reasons := congrArg Prod.snd same
  simp only [reuse, finding, if_neg (show "CF-EDGE-003" ≠ "CF-IDENTITY-001" by
    decide), List.cons.injEq, and_true] at reasons
  rw [String.append_left_inj, String.append_left_inj,
    String.append_right_inj] at reasons
  exact reasons

theorem jsonExtract_of_text {reprint : Detection.Number → Detection.Number}
    {sessionHash : String}
    (isText : Detection.sessionText row.content = some sessionHash) :
    jsonExtract reprint (row.attributes.get "session_id_hash") =
      some sessionHash := by
  unfold Detection.sessionText at isText
  split at isText
  · next text isString =>
      have stored : row.attributes.get "session_id_hash" = .str text := isString
      rw [stored]
      exact isText
  · cases isText

theorem isTextUse_iff (shared : SharedContent script stored event)
    (isUse : event.eventType = "edge_session_use") {sessionHash : String}
    (hashed : Detection.sessionHash event.content = some sessionHash)
    (member : row ∈ stored.rows) :
    isTextUse script event sessionHash row = true ↔
      row.tenantId = event.tenantId ∧
        Detection.isPredecessor event.content row.content = true := by
  have isContent : event.content.eventType = "edge_session_use" := isUse
  unfold isTextUse isPreviousUse Detection.isPredecessor
  rw [if_neg (by rw [isContent]; decide), if_pos isContent, hashed,
    Option.any_some]
  unfold Detection.isPredecessorUse
  simp only [decide_eq_true_eq]
  constructor
  · rintro ⟨⟨isOwn, sameType, -, before, notBefore⟩, isText⟩
    have exact := shared.exactTimes row member isOwn
    have eventExact := shared.exactTimes event shared.isStored rfl
    exact ⟨isOwn, id_ne_of_before shared member isOwn before,
      sameType.trans isUse.symm, isText,
      (notBefore_iff exact eventExact 10).mp notBefore,
      (before_iff exact eventExact).mp before⟩
  · rintro ⟨isOwn, -, sameType, isText, notBefore, before⟩
    have exact := shared.exactTimes row member isOwn
    have eventExact := shared.exactTimes event shared.isStored rfl
    exact ⟨⟨isOwn, sameType.trans isUse, jsonExtract_of_text isText,
      (before_iff exact eventExact).mpr before,
      (notBefore_iff exact eventExact 10).mpr notBefore⟩, isText⟩

theorem consequence_use (isUse : event.eventType = "edge_session_use")
    {address : String}
    (isAddress : Detection.sourceAddress event.content = some address)
    (previous : EventRow) :
    Detection.consequence script.library event.content previous.content =
      (reusedFrom address (some previous)).map fun before =>
        ["session hash reused from " ++ before ++ " and " ++ address,
          "reuse occurred within 10m"] := by
  have isContent : event.content.eventType = "edge_session_use" := isUse
  unfold Detection.consequence reusedFrom
  rw [if_neg (by rw [isContent]; decide), if_pos isContent, isAddress,
    Option.bind_some]
  cases Detection.sourceAddress previous.content with
  | none => rfl
  | some before =>
      by_cases sameAddress : before = address
      · simp [sameAddress, Option.filter]
      · simp [sameAddress, Option.filter]

theorem predecessor_unhashed (isUse : event.eventType = "edge_session_use")
    (hashed : Detection.sessionHash event.content = none)
    {past : List SecurityEvent} :
    Detection.predecessor event.content past = none := by
  have isContent : event.content.eventType = "edge_session_use" := isUse
  have noPredecessor : Detection.isPredecessor event.content =
      fun _ => false := by
    funext item
    unfold Detection.isPredecessor
    rw [if_neg (by rw [isContent]; decide), if_pos isContent, hashed]
    rfl
  unfold Detection.predecessor
  rw [noPredecessor, List.filter_false]
  rfl

/-- The findings of the standalone runtime on a session. -/
theorem evaluate_session (shared : SharedContent script stored event)
    (same : others.Perm (otherContents stored event))
    (isUse : event.eventType = "edge_session_use")
    {address sessionHash : String}
    (isAddress : Detection.sourceAddress event.content = some address)
    (isText : Detection.sessionText event.content = some sessionHash) :
    ∃ alerts, Detection.evaluateStatefulEvent script.library event.content
        others = .ok alerts ∧
      alerts.map ofStandalone =
        ((if 12 ≤ sessionHash.length then
            reusedFrom address (greatest rowKey
              (stored.rows.filter (isTextUse script event sessionHash)))
          else none).map (reuse address)).toList := by
  obtain ⟨distinct, apart⟩ := others_distinct same
  have isContent : event.content.eventType = "edge_session_use" := isUse
  rw [Detection.evaluate_use isContent distinct apart]
  refine ⟨_, rfl, ?_⟩
  by_cases long : 12 ≤ sessionHash.length
  · have hashed : Detection.sessionHash event.content = some sessionHash := by
      unfold Detection.sessionHash
      rw [isText, Option.filter_some, if_pos (by simpa using long)]
    obtain ⟨-, isPrevious⟩ := previous_eq shared same
      fun row member => isTextUse_iff shared isUse hashed member
    rw [Detection.filter_concat_self isPredecessor_self] at isPrevious
    unfold Detection.predecessor
    rw [← isPrevious, if_pos long]
    cases greatest rowKey
        (stored.rows.filter (isTextUse script event sessionHash)) with
    | none => rfl
    | some previous =>
        rw [Option.map_some, Option.bind_some,
          consequence_use isUse isAddress]
        cases reusedFrom address (some previous) with
        | none => rfl
        | some before => rfl
  · have hashed : Detection.sessionHash event.content = none := by
      unfold Detection.sessionHash
      rw [isText, Option.filter_some, if_neg (by simpa using long)]
    rw [predecessor_unhashed isUse hashed, if_neg long]
    rfl

/-- The findings of the cloud runtime on a session. -/
theorem detections_session
    (isUse : event.eventType = "edge_session_use")
    {address sessionHash : String}
    (isAddress : Detection.sourceAddress event.content = some address)
    (isText : Detection.sessionText event.content = some sessionHash) :
    ∃ found, statefulDetections script event stored.rows = .ok found ∧
      found.map ofCloud =
        ((if 12 ≤ Json.unitLength sessionHash then
            reusedFrom address (greatest rowKey (stored.rows.filter fun row =>
              isPreviousUse script event 10 row sessionHash))
          else none).map (reuse address)).toList := by
  have specified : Detection.statefulCorrelationForEvent event.eventType =
      some Detection.sessionReplaySpec := by
    rw [isUse]
    exact Detection.spec_sessionReplay
  have window : Detection.sessionReplaySpec.windowMinutes = some 10 := rfl
  have hashed : ControlForge.Cloud.sessionHash event = sessionHash := by
    unfold ControlForge.Cloud.sessionHash
    rw [isText]
    rfl
  have isNewest : newest rowKey (stored.rows.filter fun row =>
      isPreviousUse script event 10 row sessionHash) =
      (greatest rowKey (stored.rows.filter fun row =>
        isPreviousUse script event 10 row sessionHash)).toList := by
    apply newest_eq_greatest
    intro left isLeft right isRight sameKey
    obtain ⟨leftMember, leftUse⟩ := List.mem_filter.mp isLeft
    obtain ⟨rightMember, rightUse⟩ := List.mem_filter.mp isRight
    simp only [isPreviousUse, decide_eq_true_eq] at leftUse rightUse
    exact row_eq_of_id leftMember rightMember leftUse.1 rightUse.1
      (congrArg Prod.snd sameKey)
  rw [detections_use isUse]
  unfold sessionReplay
  rw [correlation_eq specified, isAddress, hashed]
  by_cases long : 12 ≤ Json.unitLength sessionHash
  · simp only [if_pos (show event.eventType = "edge_session_use" ∧
        12 ≤ Json.unitLength sessionHash from ⟨isUse, long⟩), requiredNumber,
      window, bind, Except.bind, isNewest, if_pos long]
    cases greatest rowKey (stored.rows.filter fun row =>
        isPreviousUse script event 10 row sessionHash) with
    | none => exact ⟨[], rfl, rfl⟩
    | some previous =>
        unfold reusedFrom
        simp only [Option.toList_some, Option.bind_some]
        cases Detection.sourceAddress previous.content with
        | none => exact ⟨[], rfl, rfl⟩
        | some before =>
            by_cases sameAddress : before = address
            · refine ⟨[], if_pos sameAddress, ?_⟩
              simp [sameAddress, Option.filter]
            · refine ⟨_, if_neg sameAddress, ?_⟩
              simp only [Option.filter_some, if_pos (show
                decide (before ≠ address) = true by simpa using sameAddress)]
              rfl
  · simp only [if_neg (show ¬(event.eventType = "edge_session_use" ∧
        12 ≤ Json.unitLength sessionHash) from fun isLong => long isLong.2),
      if_neg long]
    exact ⟨[], rfl, rfl⟩

theorem sameReuse_of_plain {address sessionHash : String}
    (plain : PlainSession script event sessionHash stored.rows) :
    SameReuse script event address sessionHash stored.rows := by
  obtain ⟨lengths, texts⟩ := plain
  have uses : stored.rows.filter (isTextUse script event sessionHash) =
      stored.rows.filter fun row =>
        isPreviousUse script event 10 row sessionHash := by
    apply List.filter_congr
    intro row member
    unfold isTextUse
    by_cases isUse : isPreviousUse script event 10 row sessionHash = true
    · simp [isUse, texts row member isUse]
    · simp [isUse]
  unfold SameReuse
  rw [uses]
  simp only [lengths]

theorem toList_injective {Item : Type} {left right : Option Item}
    (same : left.toList = right.toList) : left = right := by
  have heads := congrArg List.head? same
  rwa [Option.head?_toList, Option.head?_toList] at heads

theorem session_agrees (shared : SharedContent script stored event)
    (same : others.Perm (otherContents stored event))
    (isUse : event.eventType = "edge_session_use") :
    FindAlike script event stored.rows others
      (SessionsAgree script event stored.rows) := by
  obtain ⟨distinct, apart⟩ := others_distinct same
  have isContent : event.content.eventType = "edge_session_use" := isUse
  by_cases hashed : ∃ address sessionHash,
      Detection.sourceAddress event.content = some address ∧
        Detection.sessionText event.content = some sessionHash
  · obtain ⟨address, sessionHash, isAddress, isText⟩ := hashed
    obtain ⟨alerts, evaluated, isAlerts⟩ :=
      evaluate_session shared same isUse isAddress isText
    obtain ⟨found, detected, isFound⟩ :=
      @detections_session _ script stored event isUse _ _ isAddress isText
    refine ⟨alerts, found, evaluated, detected, ?_⟩
    rw [isAlerts, isFound]
    constructor
    · intro sameFindings other otherHash isOther isOtherHash
      cases isAddress.symm.trans isOther
      cases isText.symm.trans isOtherHash
      exact .inr (Option.map_injective reuse_injective
        (toList_injective sameFindings))
    · intro agree
      have reuses : SameReuse script event address sessionHash stored.rows := by
        rcases agree address sessionHash isAddress isText with plain | reuses
        · exact sameReuse_of_plain plain
        · exact reuses
      unfold SameReuse at reuses
      rw [reuses]
  · have vacuous : SessionsAgree script event stored.rows :=
      fun address sessionHash isAddress isText =>
        absurd ⟨address, sessionHash, isAddress, isText⟩ hashed
    refine ⟨[], [], ?_, ?_, iff_of_true rfl vacuous⟩
    · rw [Detection.evaluate_use isContent distinct apart]
      cases isAddress : Detection.sourceAddress event.content with
      | none =>
          cases Detection.predecessor event.content others with
          | none => rfl
          | some previous =>
              rw [Option.bind_some]
              unfold Detection.consequence
              rw [if_neg (by rw [isContent]; decide), if_pos isContent,
                isAddress]
              rfl
      | some address =>
          have noText : Detection.sessionHash event.content = none := by
            unfold Detection.sessionHash
            cases isText : Detection.sessionText event.content with
            | none => rfl
            | some sessionHash =>
                exact absurd ⟨address, sessionHash, isAddress, isText⟩ hashed
          rw [predecessor_unhashed isUse noText]
          rfl
    · rw [detections_use isUse]
      unfold sessionReplay
      cases isAddress : Detection.sourceAddress event.content with
      | none => rfl
      | some address =>
          have noText : sessionHash event = "" := by
            unfold sessionHash
            cases isText : Detection.sessionText event.content with
            | none => rfl
            | some sessionHash =>
                exact absurd ⟨address, sessionHash, isAddress, isText⟩ hashed
          simp only [noText]
          rw [if_neg]
          rintro ⟨-, long⟩
          exact absurd long (by decide)

theorem other_agrees (notAccess : event.eventType ≠ "sensitive_data_access")
    (notLogin : event.eventType ≠ "authentication_success")
    (notFailure : ¬(event.eventType = "edge_auth_failure" ∧
      (Detection.sourceAddress event.content).isSome = true))
    (notUse : event.eventType ≠ "edge_session_use") :
    FindAlike script event stored.rows others True := by
  refine ⟨[], [], Detection.evaluate_other notAccess notLogin notFailure notUse
    others, ?_, iff_of_true rfl trivial⟩
  have noStuffing : credentialStuffing script event stored.rows = .ok [] := by
    by_cases isFailed : event.eventType = "edge_auth_failure"
    · have noAddress : Detection.sourceAddress event.content = none := by
        rw [← Option.not_isSome_iff_eq_none]
        exact fun addressed => notFailure ⟨isFailed, addressed⟩
      unfold credentialStuffing
      rw [noAddress]
    · exact credentialStuffing_other isFailed stored.rows
  unfold statefulDetections
  rw [bulkAccess_other notAccess, impossibleTravel_other notLogin, noStuffing,
    sessionReplay_other notUse]
  rfl

end Contents

theorem FindAlike.iff {F : Type} {script : Script F} {event : EventRow}
    {rows : List EventRow} {others : List SecurityEvent} {left right : Prop}
    (first : FindAlike script event rows others left)
    (second : FindAlike script event rows others right) : left ↔ right := by
  obtain ⟨alerts, found, evaluated, detected, isLeft⟩ := first
  obtain ⟨sameAlerts, sameFound, reevaluated, redetected, isRight⟩ := second
  cases evaluated.symm.trans reevaluated
  cases detected.symm.trans redetected
  exact isLeft.symm.trans isRight

/-! ### Stored contents -/

def sampleScript : Script Int where
  library := { Detection.sampleLibrary with
    casefold := fun text => String.ofList (text.toList.map fun character =>
      if character = 'Ä' then 'ä' else character.toLower) }
  reprint number := number
  toNumber value := value
  toFixed value _ := toString value
  ruleDigest ruleId := ruleId

def storedRow (content : SecurityEvent) : EventRow where
  tenantId := "t1"
  eventId := content.eventId
  eventType := content.eventType
  occurredAt := content.timestamp
  receivedAt := content.timestamp.instant
  actor := content.actor
  sourceIp := content.sourceIp
  target := content.target
  deviceId := content.deviceId
  attributes := content.attributes
  payloadSha256 := ""
  processedAt := none
  processingError := none

/-- A session that is used from two addresses. -/
def storedUses : Table EventRow EventRow.clash where
  rows := [storedRow (Detection.sampleUse "use-1" 0 "192.0.2.1"),
    storedRow (Detection.sampleUse "use-2" (seconds 60) "192.0.2.2")]
  unique := by decide +kernel

theorem storedUses_shared : SharedContent sampleScript storedUses
    (storedRow (Detection.sampleUse "use-2" (seconds 60) "192.0.2.2")) where
  isStored := List.mem_cons_of_mem _ List.mem_cons_self
  exactTimes := by decide +kernel
  safeBytes := by
    intro row member _ number counted
    have noBytes : ∀ row ∈ storedUses.rows,
        Detection.byteCount row.content = none := by decide +kernel
    cases (noBytes row member).symm.trans counted
  safeTotal := by decide +kernel
  safeCount := by decide +kernel

/-- A failed authentication. -/
def storedFailure (eventId actor : String) : EventRow :=
  storedRow {
    eventId
    eventType := "edge_auth_failure"
    timestamp := ⟨0, utcText 0⟩
    actor
    sourceIp := some "192.0.2.1"
    target := none
    deviceId := none
    attributes := { members := [] } }

/-- Twenty failures of accounts of which two differ in the case of a letter
that is not in ASCII. -/
def storedFailures : Table EventRow EventRow.clash where
  rows := ["a", "b", "c", "d", "e", "f", "g", "h", "Ä", "ä"].flatMap
    fun actor => [storedFailure ("first-" ++ actor) actor,
      storedFailure ("second-" ++ actor) actor]
  unique := by decide +kernel

theorem storedFailures_shared : SharedContent sampleScript storedFailures
    (storedFailure "first-a" "a") where
  isStored := List.mem_cons_self
  exactTimes := by decide +kernel
  safeBytes := by
    intro row member _ number counted
    have noBytes : ∀ row ∈ storedFailures.rows,
        Detection.byteCount row.content = none := by decide +kernel
    cases (noBytes row member).symm.trans counted
  safeTotal := by decide +kernel
  safeCount := by decide +kernel

end Cloud

end ControlForge
