import ControlForge.Cloud.Bookkeeping

/-!
# Statement by statement

What each loop of `persistEvents` has done after some of its chunks, whatever
other ingestions have stored in between.
-/

namespace ControlForge

namespace Cloud

namespace Ingestion

open ControlForge.Effect (Ensures)

/-! ## Queries -/

/-- The call has only looked. -/
structure Reads (before after : World) : Prop where
  ingested : Ingested before.events after.events
  attempts : after.attempts = before.attempts
  sent : after.sent = before.sent

namespace Reads

variable {first second third : World}

theorem refl (world : World) : Reads world world :=
  ⟨Ingested.refl _, rfl, rfl⟩

theorem trans (earlier : Reads first second) (later : Reads second third) :
    Reads first third :=
  ⟨earlier.ingested.trans later.ingested,
    later.attempts.trans earlier.attempts, later.sent.trans earlier.sent⟩

theorem meet (world : World) : Reads world world.meet := by
  refine ⟨Ingested.meet world, ?_, ?_⟩
  · unfold World.meet
    split <;> rfl
  · unfold World.meet
    split <;> rfl

end Reads

/-- A stored event of the tenant. -/
def HasRow (tenantId eventId : String) (events : Events) (property : EventRow → Prop) :
    Prop :=
  ∃ row ∈ events.rows, (row.tenantId = tenantId ∧ row.eventId = eventId) ∧
    property row

/-- The row is still in the processing state it was inserted with. -/
abbrev IsPending (tenantId : String) (events : Events) (eventId : String) : Prop :=
  HasRow tenantId eventId events (·.processedAt = none)

section Rows

variable {tenantId eventId : String} {before after : Events}
  {property : EventRow → Prop}

theorem HasRow.later (hasRow : HasRow tenantId eventId before property)
    (ingested : Ingested before after) : HasRow tenantId eventId after property := by
  obtain ⟨row, member, isKey, holds⟩ := hasRow
  exact ⟨row, ingested.keeps member, isKey, holds⟩

/-- What is known of a stored row does not change. -/
theorem HasRow.iff (isStored : HasRow tenantId eventId before fun _ => True)
    (ingested : Ingested before after) :
    HasRow tenantId eventId after property ↔
      HasRow tenantId eventId before property := by
  constructor
  · rintro ⟨row, member, ⟨isTenant, isEvent⟩, holds⟩
    obtain ⟨stored, storedMember, ⟨storedTenant, storedEvent⟩, _⟩ := isStored
    obtain rfl := eq_of_sameKey member (ingested.keeps storedMember)
      (isTenant.trans storedTenant.symm) (isEvent.trans storedEvent.symm)
    exact ⟨row, storedMember, ⟨isTenant, isEvent⟩, holds⟩
  · exact fun hasRow => hasRow.later ingested

theorem isAmong_iff {eventIds : List String} {row : EventRow} :
    isAmong tenantId eventIds row = true ↔
      row.tenantId = tenantId ∧ row.eventId ∈ eventIds := by
  simp [isAmong]

end Rows

section Queries

variable {tenantId : String} {world : World}

/-- What the loop over the rows of a query leaves in the map. -/
theorem foldl_setHash {rows : List EventRow} {hashes : String → Option String}
    {eventId hash : String}
    (found : rows.foldl setHash hashes eventId = some hash) :
    hashes eventId = some hash ∨
      ∃ row ∈ rows, row.eventId = eventId ∧ row.payloadSha256 = hash := by
  induction rows generalizing hashes with
  | nil => exact .inl found
  | cons row rows induction =>
      rcases induction found with isEarlier | ⟨other, member, isRow⟩
      · by_cases isEvent : eventId = row.eventId
        · rw [setHash, isEvent, Function.update_self] at isEarlier
          exact .inr ⟨row, List.mem_cons_self, isEvent.symm,
            Option.some.inj isEarlier⟩
        · rw [setHash, Function.update_of_ne isEvent] at isEarlier
          exact .inl isEarlier
      · exact .inr ⟨other, List.mem_cons_of_mem _ member, isRow⟩

theorem foldl_setHash_eq {rows : List EventRow} {hashes : String → Option String}
    {eventId hash : String}
    (known : hashes eventId = some hash ∨ ∃ row ∈ rows, row.eventId = eventId)
    (agree : ∀ row ∈ rows, row.eventId = eventId → row.payloadSha256 = hash) :
    rows.foldl setHash hashes eventId = some hash := by
  induction rows generalizing hashes with
  | nil => simpa using known
  | cons row rows induction =>
      rw [List.foldl_cons]
      apply induction
      · by_cases isEvent : row.eventId = eventId
        · left
          rw [setHash, ← isEvent, Function.update_self,
            agree row List.mem_cons_self isEvent]
        · rw [setHash, Function.update_of_ne (Ne.symm isEvent)]
          rcases known with isEarlier | ⟨other, member, isOther⟩
          · exact .inl isEarlier
          · rcases List.mem_cons.mp member with rfl | isLater
            · exact absurd isOther isEvent
            · exact .inr ⟨other, isLater, isOther⟩
      · exact fun other member => agree other (List.mem_cons_of_mem _ member)

/-- What the map knows after some of the identifiers. -/
structure KnowsHashes (tenantId : String) (world : World) (eventIds : List String)
    (hashes : String → Option String) (after : World) : Prop where
  reads : Reads world after
  sound : ∀ eventId hash, hashes eventId = some hash →
    HasRow tenantId eventId after.events (·.payloadSha256 = hash)
  complete : ∀ eventId hash, eventId ∈ eventIds →
    HasRow tenantId eventId world.events (·.payloadSha256 = hash) →
      hashes eventId = some hash

/-- One more query. -/
theorem KnowsHashes.query {eventIds : List String}
    {hashes : String → Option String} {after : World}
    (knows : KnowsHashes tenantId world eventIds hashes after)
    (chunk : List String) :
    KnowsHashes tenantId world (eventIds ++ chunk)
      ((after.meet.events.rows.filter (isAmong tenantId chunk)).foldl setHash
        hashes) after.meet where
  reads := knows.reads.trans (Reads.meet after)
  sound := by
    intro eventId hash found
    rcases foldl_setHash found with isEarlier | ⟨row, selected, isEvent, isHash⟩
    · exact (knows.sound eventId hash isEarlier).later (Ingested.meet after)
    · obtain ⟨member, among⟩ := List.mem_filter.mp selected
      exact ⟨row, member, ⟨(isAmong_iff.mp among).1, isEvent⟩, isHash⟩
  complete := by
    rintro eventId hash isKnown ⟨row, member, ⟨isTenant, isEvent⟩, isHash⟩
    have isLater : row ∈ after.meet.events.rows :=
      (knows.reads.ingested.trans (Ingested.meet after)).keeps member
    apply foldl_setHash_eq
    · rcases List.mem_append.mp isKnown with isEarlier | isAdded
      · exact .inl (knows.complete eventId hash isEarlier
          ⟨row, member, ⟨isTenant, isEvent⟩, isHash⟩)
      · refine .inr ⟨row, List.mem_filter.mpr ⟨isLater, ?_⟩, isEvent⟩
        exact isAmong_iff.mpr ⟨isTenant, isEvent ▸ isAdded⟩
    · intro other selected otherEvent
      obtain ⟨otherMember, among⟩ := List.mem_filter.mp selected
      rw [eq_of_sameKey otherMember isLater
        ((isAmong_iff.mp among).1.trans isTenant.symm)
        (otherEvent.trans isEvent.symm), isHash]

theorem existingEventHashes_ensures (eventIds : List String) :
    Ensures (· = world) (existingEventHashes tenantId eventIds)
      fun outcome after => ∃ hashes, outcome = .ok hashes ∧
        KnowsHashes tenantId world eventIds hashes after := by
  have positive : 0 < 90 := by decide
  have loop : Ensures (KnowsHashes tenantId world ([] : List (List String)).flatten
      fun _ => none) (existingEventHashes tenantId eventIds)
      fun outcome after => ∃ hashes, outcome = .ok hashes ∧
        KnowsHashes tenantId world eventIds hashes after := by
    apply Ensures.foldlM fun done => KnowsHashes tenantId world done.flatten
    · intro done chunk rest hashes _
      refine ⟨fun after knows => ?_⟩
      rw [List.flatten_append, List.flatten_singleton]
      exact knows.query chunk
    · intro hashes after holds
      rw [flatten_slices positive] at holds
      exact ⟨hashes, rfl, holds⟩
  refine loop.narrows ?_
  rintro _ rfl
  exact ⟨Reads.refl _, nofun, nofun⟩

/-- The pending ones among some identifiers. -/
structure FindsPending (tenantId : String) (world : World) (eventIds : List String)
    (pending : List String) (after : World) : Prop where
  reads : Reads world after
  distinct : pending.Nodup
  iff : ∀ eventId, eventId ∈ pending ↔
    eventId ∈ eventIds ∧ IsPending tenantId world.events eventId

theorem FindsPending.query {eventIds pending : List String} {after : World}
    (finds : FindsPending tenantId world eventIds pending after)
    (chunk : List String) (apart : ∀ eventId ∈ eventIds, eventId ∉ chunk)
    (stored : ∀ eventId ∈ chunk,
      HasRow tenantId eventId world.events fun _ => True) :
    FindsPending tenantId world (eventIds ++ chunk)
      (pending ++ (after.meet.events.rows.filter fun row =>
        isAmong tenantId chunk row && row.processedAt.isNone).map (·.eventId))
      after.meet := by
  have reads := finds.reads.trans (Reads.meet after)
  have isFound : ∀ eventId, eventId ∈ (after.meet.events.rows.filter fun row =>
      isAmong tenantId chunk row && row.processedAt.isNone).map (·.eventId) ↔
        eventId ∈ chunk ∧ IsPending tenantId world.events eventId := by
    intro eventId
    constructor
    · intro found
      obtain ⟨row, selected, rfl⟩ := List.mem_map.mp found
      obtain ⟨member, isSelected⟩ := List.mem_filter.mp selected
      obtain ⟨among, isNone⟩ := Bool.and_eq_true_iff.mp isSelected
      obtain ⟨isTenant, isChunk⟩ := isAmong_iff.mp among
      refine ⟨isChunk, ((stored _ isChunk).iff reads.ingested).mp ?_⟩
      exact ⟨row, member, ⟨isTenant, rfl⟩, Option.isNone_iff_eq_none.mp isNone⟩
    · rintro ⟨isChunk, isPending⟩
      obtain ⟨row, member, ⟨isTenant, rfl⟩, isNone⟩ :=
        isPending.later reads.ingested
      refine List.mem_map_of_mem (List.mem_filter.mpr ⟨member, ?_⟩)
      rw [isAmong_iff.mpr ⟨isTenant, isChunk⟩, isNone]
      rfl
  have distinct : ((after.meet.events.rows.filter fun row =>
      isAmong tenantId chunk row && row.processedAt.isNone).map
        (·.eventId)).Nodup := by
    rw [List.Nodup, List.pairwise_map]
    refine (after.meet.events.unique.filter _).imp_of_mem ?_
    intro left right isLeft isRight noClash same
    have isAmongLeft := (Bool.and_eq_true_iff.mp (List.mem_filter.mp isLeft).2).1
    have isAmongRight := (Bool.and_eq_true_iff.mp (List.mem_filter.mp isRight).2).1
    have clashes : left.clash right = true := hasKey_iff.mpr
      ⟨(isAmong_iff.mp isAmongLeft).1.trans (isAmong_iff.mp isAmongRight).1.symm,
        same⟩
    rw [noClash] at clashes
    cases clashes
  refine ⟨reads, ?_, ?_⟩
  · refine List.Nodup.append finds.distinct distinct ?_
    intro eventId isEarlier isAdded
    exact apart eventId ((finds.iff eventId).mp isEarlier).1
      ((isFound eventId).mp isAdded).1
  · intro eventId
    rw [List.mem_append, List.mem_append, finds.iff, isFound]
    exact or_and_right.symm

theorem pendingDuplicates_ensures {eventIds : List String}
    (distinct : eventIds.Nodup) (stored : ∀ eventId ∈ eventIds,
      HasRow tenantId eventId world.events fun _ => True) :
    Ensures (· = world) (pendingDuplicates tenantId eventIds)
      fun outcome after => ∃ pending, outcome = .ok pending ∧
        FindsPending tenantId world eventIds pending after := by
  have whole : (slices 90 eventIds).flatten = eventIds :=
    flatten_slices (by decide) eventIds
  have loop : Ensures (FindsPending tenantId world
      ([] : List (List String)).flatten []) (pendingDuplicates tenantId eventIds)
      fun outcome after => ∃ pending, outcome = .ok pending ∧
        FindsPending tenantId world eventIds pending after := by
    apply Ensures.foldlM fun done => FindsPending tenantId world done.flatten
    · intro done chunk rest pending isDone
      rw [isDone, List.flatten_append, List.flatten_cons] at whole
      rw [← whole] at distinct stored
      refine ⟨fun after finds => ?_⟩
      rw [List.flatten_append, List.flatten_singleton]
      apply finds.query chunk
      · intro eventId isEarlier isAdded
        exact List.disjoint_of_nodup_append distinct isEarlier
          (List.mem_append_left _ isAdded)
      · intro eventId isAdded
        exact stored eventId
          (List.mem_append_right _ (List.mem_append_left _ isAdded))
    · intro pending after holds
      rw [whole] at holds
      exact ⟨pending, rfl, holds⟩
  refine loop.narrows ?_
  rintro _ rfl
  exact ⟨Reads.refl _, List.nodup_nil, by simp⟩

end Queries

/-! ## The queue -/

section Queue

variable {runtime : Runtime} {tenantId : String} {eventIds : List String}

/-- The world with some more messages. -/
def World.send (world : World) (messages : List QueueMessage) : World :=
  { world with sent := world.sent ++ messages }

theorem enqueueEventIds_ensures (world : World) :
    Ensures (· = world) (enqueueEventIds runtime tenantId eventIds)
      fun outcome after => outcome = .ok () ∧
        after = world.send (queueMessages runtime tenantId eventIds) := by
  have whole : (slices queueMessagesPerSend
      (queueMessages runtime tenantId eventIds)).flatten =
        queueMessages runtime tenantId eventIds :=
    flatten_slices (by decide) _
  have loop : Ensures (· = world.send ([] : List (List QueueMessage)).flatten)
      (enqueueEventIds runtime tenantId eventIds)
      fun outcome after => outcome = .ok () ∧
        after = world.send (queueMessages runtime tenantId eventIds) := by
    apply Ensures.foldlM fun (done : List (List QueueMessage)) (_ : Unit) after =>
      after = world.send done.flatten
    · intro done messages rest _ _
      refine ⟨?_⟩
      rintro _ rfl
      simp only [World.send, List.flatten_append, List.flatten_singleton,
        ← List.append_assoc]
      rfl
    · rintro _ after isEnd
      rw [whole] at isEnd
      exact ⟨rfl, isEnd⟩
  refine loop.narrows ?_
  rintro _ rfl
  rw [World.send, List.flatten_nil, List.append_nil]

theorem queueMessages_eventIds :
    (queueMessages runtime tenantId eventIds).flatMap (·.eventIds) = eventIds := by
  have same : (queueMessages runtime tenantId eventIds).map (·.eventIds) =
      slices eventIdsPerQueueMessage eventIds := by
    apply List.ext_getElem
    · simp [queueMessages]
    · intro index _ _
      simp [queueMessages]
  rw [List.flatMap_def, same]
  exact flatten_slices (by decide) eventIds

theorem length_queueMessages {message : QueueMessage}
    (member : message ∈ queueMessages runtime tenantId eventIds) :
    message.tenantId = tenantId ∧
      message.eventIds.length ≤ eventIdsPerQueueMessage := by
  obtain ⟨index, bounded, rfl⟩ := List.mem_mapIdx.mp member
  exact ⟨rfl, length_le_of_mem_slices (List.getElem_mem bounded)⟩

end Queue

end Ingestion

end Cloud

end ControlForge
