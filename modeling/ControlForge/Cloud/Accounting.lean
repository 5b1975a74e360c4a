import ControlForge.Cloud.IngestionRuns

/-!
# Every event is accounted for

A call of `persistEvents` stores what it accepts, names every other event of its
batch as a duplicate and enqueues what is pending, while other ingestions run
between its statements.  It fails to do so in two ways only: where a chunk is
refused after an earlier one has stored an event, and where the batch repeats an
event that it stores.
-/

namespace ControlForge

namespace Cloud

namespace Ingestion

open ControlForge.Effect (Ensures bind_apply gets_apply modify_apply ofExcept_apply
  pure_apply)

/-! ## Attempts -/

/-- The trigger aborts the batch. -/
def InsertAttempt.isRefused (attempt : InsertAttempt) : Bool :=
  attempt.rows.any (conflicts attempt.before)

/-- What the batch has added to the table. -/
def InsertAttempt.stored (attempt : InsertAttempt) : List EventRow :=
  match insertBatch attempt.before attempt.rows with
  | none => []
  | some (after, _) => after.rows.drop attempt.before.rows.length

/-- What the call has stored. -/
def World.stored (world : World) : List EventRow :=
  world.attempts.flatMap (·.stored)

/-- A batch that has stored its new rows. -/
structure Done (attempt : InsertAttempt) : Prop where
  unrefused : attempt.isRefused = false
  stored : attempt.stored =
    attempt.rows.filter (!isStored attempt.before ·)

section Insertion

variable {tenantId : String} {receivedAt : Timestamp} {start : World}
  {known : List String}

/-- After the chunks of some candidates. -/
structure Inserted (tenantId : String) (start : World) (known : List String)
    (done : List NormalizedEvent) (progress : Progress) (world : World) :
    Prop where
  ingested : Ingested start.events world.events
  sent : world.sent = start.sent
  attempts : ∀ attempt ∈ world.attempts, Done attempt
  accepted : progress.accepted = world.stored.map (·.eventId)
  sublist : progress.accepted.Sublist (identifiers done)
  counted : (progress.accepted ++
    (progress.duplicates ++ spread progress.raced)).Perm (spread done ++ known)
  raced : ∀ entry ∈ progress.raced, HasRow tenantId entry.event.eventId world.events
    (·.payloadSha256 = entry.payloadSha256)
  pending : ∀ eventId ∈ progress.accepted,
    IsPending tenantId world.events eventId
  duplicates : ∀ eventId ∈ progress.duplicates,
    HasRow tenantId eventId world.events fun _ => True
  appended : world.stored.Sublist
    (world.events.rows.drop start.events.rows.length)

/-- The call has given up: before its first insert, or when one was refused. -/
structure Rejected (start world : World) : Prop where
  ingested : Ingested start.events world.events
  sent : world.sent = start.sent
  appended : world.stored.Sublist
    (world.events.rows.drop start.events.rows.length)
  refused : world.attempts = [] ∨ ∃ earlier attempt,
    world.attempts = earlier ++ [attempt] ∧ attempt.isRefused = true ∧
      attempt.stored = [] ∧ ∀ other ∈ earlier, Done other

/-- The row of an entry and what the table has of its identifier. -/
theorem conflicts_row {events : Events} {entry : NormalizedEvent}
    (noConflict : conflicts events (entry.row tenantId receivedAt) = false)
    (stored : isStored events (entry.row tenantId receivedAt) = true) :
    HasRow tenantId entry.event.eventId events
      (·.payloadSha256 = entry.payloadSha256) := by
  obtain ⟨row, member, isKey⟩ := isStored_iff.mp stored
  refine ⟨row, member, isKey, ?_⟩
  by_contra differs
  have isConflict : conflicts events (entry.row tenantId receivedAt) = true :=
    conflicts_iff.mpr ⟨row, member, isKey, differs⟩
  rw [noConflict] at isConflict
  cases isConflict

/-- The rows of a chunk. -/
abbrev rowsOf (tenantId : String) (receivedAt : Timestamp)
    (chunk : List NormalizedEvent) : List EventRow :=
  chunk.map (·.row tenantId receivedAt)

theorem rowsOf_eventId (chunk : List NormalizedEvent) :
    (rowsOf tenantId receivedAt chunk).map (·.eventId) = identifiers chunk := by
  rw [rowsOf, List.map_map]
  rfl

theorem attempt_done {before : Events} {rows : List EventRow}
    (distinct : (rows.map (·.eventId)).Nodup)
    (unrefused : (⟨before, rows⟩ : InsertAttempt).isRefused = false) :
    Done ⟨before, rows⟩ := by
  refine ⟨unrefused, ?_⟩
  have noConflict : ∀ row ∈ rows, conflicts before row = false := by
    simpa [InsertAttempt.isRefused] using unrefused
  obtain ⟨next, inserted, appended⟩ := insertBatch_done distinct noConflict
  simp [InsertAttempt.stored, inserted, appended]

theorem attempt_refused {before : Events} {rows : List EventRow}
    (distinct : (rows.map (·.eventId)).Nodup)
    (refused : (⟨before, rows⟩ : InsertAttempt).isRefused = true) :
    insertBatch before rows = none ∧
      (⟨before, rows⟩ : InsertAttempt).stored = [] := by
  have isConflict : ∃ row ∈ rows, conflicts before row = true := by
    simpa [InsertAttempt.isRefused] using refused
  have none := insertBatch_conflict distinct isConflict
  exact ⟨none, by simp [InsertAttempt.stored, none]⟩

/-- The world after a batch. -/
def World.attempt (world : World) (rows : List EventRow) (next : Events) : World :=
  { world.meet with
    events := next
    attempts := world.meet.attempts ++ [⟨world.meet.events, rows⟩] }

theorem insertChunk_apply (progress : Progress) (chunk : List NormalizedEvent)
    (world : World) :
    insertChunk tenantId receivedAt progress chunk world =
      match insertBatch world.meet.events (rowsOf tenantId receivedAt chunk) with
      | none => (.error .conflict,
          world.attempt (rowsOf tenantId receivedAt chunk) world.meet.events)
      | some (next, results) => (progress.record results chunk,
          world.attempt (rowsOf tenantId receivedAt chunk) next) := by
  cases inserted : insertBatch world.meet.events
      (rowsOf tenantId receivedAt chunk) with
  | none =>
      simp only [insertChunk, databaseBatch, bind_apply,
        modify_apply, gets_apply, inserted, pure_apply]
      rfl
  | some found =>
      simp only [insertChunk, databaseBatch, bind_apply,
        modify_apply, gets_apply, inserted, pure_apply,
        ofExcept_apply]
      rfl

theorem stored_attempt (world : World) (rows : List EventRow) (next : Events) :
    (world.attempt rows next).stored =
      world.stored ++ (⟨world.meet.events, rows⟩ : InsertAttempt).stored := by
  simp [World.stored, World.attempt, (Reads.meet world).attempts]

theorem appended_later {before after : Events} {stored : List EventRow}
    {length : Nat} (appended : stored.Sublist (before.rows.drop length))
    (ingested : Ingested before after) :
    stored.Sublist (after.rows.drop length) := by
  obtain ⟨added, same⟩ := ingested.grows
  rw [← same, List.drop_append]
  exact appended.trans (List.sublist_append_left _ _)

/-- A batch that is refused ends the call. -/
theorem Inserted.refuse {done : List NormalizedEvent} {progress : Progress}
    {world : World} (inserted : Inserted tenantId start known done progress world)
    {rows : List EventRow} (distinct : (rows.map (·.eventId)).Nodup)
    (refused : (⟨world.meet.events, rows⟩ : InsertAttempt).isRefused = true) :
    Rejected start (world.attempt rows world.meet.events) where
  ingested := inserted.ingested.trans (Ingested.meet world)
  sent := (Reads.meet world).sent.trans inserted.sent
  appended := by
    rw [stored_attempt, (attempt_refused distinct refused).2, List.append_nil]
    exact appended_later inserted.appended (Ingested.meet world)
  refused := .inr ⟨world.attempts, ⟨world.meet.events, rows⟩, by
    simp [World.attempt, (Reads.meet world).attempts], refused,
    (attempt_refused distinct refused).2, inserted.attempts⟩

theorem Inserted.next {done chunk : List NormalizedEvent} {progress : Progress}
    {world : World} (inserted : Inserted tenantId start known done progress world)
    (distinct : (identifiers chunk).Nodup)
    (positive : ∀ entry ∈ chunk, 0 < entry.occurrences)
    (unrefused : (⟨world.meet.events, rowsOf tenantId receivedAt chunk⟩ :
      InsertAttempt).isRefused = false) :
    ∃ next results progress', insertBatch world.meet.events
        (rowsOf tenantId receivedAt chunk) = some (next, results) ∧
      progress.record results chunk = .ok progress' ∧
      Inserted tenantId start known (done ++ chunk) progress'
        (world.attempt (rowsOf tenantId receivedAt chunk) next) := by
  let isKnown : NormalizedEvent → Bool := fun entry =>
    isStored world.meet.events (entry.row tenantId receivedAt)
  let fresh := chunk.filter (!isKnown ·)
  have distinctRows : ((rowsOf tenantId receivedAt chunk).map
      (·.eventId)).Nodup := by
    rw [rowsOf_eventId]
    exact distinct
  have noConflict : ∀ row ∈ rowsOf tenantId receivedAt chunk,
      conflicts world.meet.events row = false := by
    simpa [InsertAttempt.isRefused] using unrefused
  have isDone := attempt_done distinctRows unrefused
  obtain ⟨next, isBatch, appended⟩ := insertBatch_done distinctRows noConflict
  have freshRows : (rowsOf tenantId receivedAt chunk).filter
      (!isStored world.meet.events ·) = rowsOf tenantId receivedAt fresh :=
    List.filter_map
  have isStoredRows := isDone.stored.trans freshRows
  have later : Ingested world.events next :=
    (Ingested.meet world).trans (Ingested.batch isBatch)
  have isAdded : ∀ entry ∈ fresh, entry.row tenantId receivedAt ∈ next.rows := by
    intro entry member
    rw [appended, freshRows]
    exact List.mem_append_right _ (List.mem_map_of_mem member)
  rw [rowsOf, List.map_map] at isBatch
  refine ⟨next, _, _, isBatch, record_eq progress isKnown, ?_⟩
  refine ⟨?_, ?_, ?_, ?_, ?_, ?_, ?_, ?_, ?_, ?_⟩
  · exact inserted.ingested.trans later
  · exact (Reads.meet world).sent.trans inserted.sent
  · intro attempt member
    rw [World.attempt, (Reads.meet world).attempts] at member
    rcases List.mem_append.mp member with isEarlier | isLast
    · exact inserted.attempts attempt isEarlier
    · rw [List.mem_singleton.mp isLast]
      exact isDone
  · rw [stored_attempt, List.map_append, ← inserted.accepted, isStoredRows,
      rowsOf_eventId]
  · rw [identifiers_append]
    exact inserted.sublist.append (List.filter_sublist.map _)
  · have freshPositive : ∀ entry ∈ chunk.filter (!isKnown ·),
        0 < entry.occurrences :=
      fun entry member => positive entry (List.mem_filter.mp member).1
    have earlier := List.perm_iff_count.mp inserted.counted
    have split := List.perm_iff_count.mp (spread_eq_rest freshPositive)
    have whole := List.perm_iff_count.mp (spread_filter chunk isKnown)
    apply List.perm_iff_count.mpr
    intro eventId
    specialize earlier eventId
    specialize split eventId
    specialize whole eventId
    simp only [spread_append, List.count_append] at earlier split whole ⊢
    omega
  · intro entry member
    rcases List.mem_append.mp member with isEarlier | isRaced
    · exact (inserted.raced entry isEarlier).later later
    · obtain ⟨isChunk, known⟩ := List.mem_filter.mp isRaced
      have isRow := noConflict _ (List.mem_map_of_mem isChunk)
      exact (conflicts_row isRow known).later (Ingested.batch isBatch)
  · intro eventId member
    rcases List.mem_append.mp member with isEarlier | isAccepted
    · exact (inserted.pending eventId isEarlier).later later
    · obtain ⟨entry, isFresh, rfl⟩ := List.mem_map.mp isAccepted
      exact ⟨_, isAdded entry isFresh, ⟨rfl, rfl⟩, rfl⟩
  · intro eventId member
    rcases List.mem_append.mp member with isEarlier | isAccepted
    · exact (inserted.duplicates eventId isEarlier).later later
    · obtain ⟨entry, isFresh, isRest⟩ := List.mem_flatMap.mp isAccepted
      rw [List.eq_of_mem_replicate isRest]
      exact ⟨_, isAdded entry isFresh, ⟨rfl, rfl⟩, trivial⟩
  · have reached := inserted.ingested.trans (Ingested.meet world)
    have atLeast := reached.grows.length_le
    rw [stored_attempt, isStoredRows]
    change (world.stored ++ _).Sublist (next.rows.drop _)
    rw [appended, freshRows, List.drop_append_of_le_length atLeast]
    exact (appended_later inserted.appended (Ingested.meet world)).append
      (List.Sublist.refl _)

theorem insertChunk_ensures {done chunk : List NormalizedEvent}
    {progress : Progress} (distinct : (identifiers chunk).Nodup)
    (positive : ∀ entry ∈ chunk, 0 < entry.occurrences) :
    Ensures (Inserted tenantId start known done progress)
      (insertChunk tenantId receivedAt progress chunk) fun outcome world =>
        match outcome with
        | .ok next => Inserted tenantId start known (done ++ chunk) next world
        | .error _ => Rejected start world := by
  refine ⟨fun world inserted => ?_⟩
  rw [insertChunk_apply]
  cases refused : (⟨world.meet.events, rowsOf tenantId receivedAt chunk⟩ :
      InsertAttempt).isRefused with
  | true =>
      have distinctRows : ((rowsOf tenantId receivedAt chunk).map
          (·.eventId)).Nodup := by
        rw [rowsOf_eventId]
        exact distinct
      rw [(attempt_refused distinctRows refused).1]
      exact inserted.refuse distinctRows refused
  | false =>
      obtain ⟨next, results, progress', isBatch, isRecorded, holds⟩ :=
        inserted.next distinct positive refused
      rw [isBatch]
      dsimp only
      rw [isRecorded]
      exact holds

theorem Inserted.reads {done : List NormalizedEvent} {progress : Progress}
    {world after : World}
    (inserted : Inserted tenantId start known done progress world)
    (reads : Reads world after) :
    Inserted tenantId start known done progress after where
  ingested := inserted.ingested.trans reads.ingested
  sent := reads.sent.trans inserted.sent
  attempts := by
    rw [reads.attempts]
    exact inserted.attempts
  accepted := by
    rw [World.stored, reads.attempts]
    exact inserted.accepted
  sublist := inserted.sublist
  counted := inserted.counted
  raced := fun entry member => (inserted.raced entry member).later reads.ingested
  pending := fun eventId member =>
    (inserted.pending eventId member).later reads.ingested
  duplicates := fun eventId member =>
    (inserted.duplicates eventId member).later reads.ingested
  appended := by
    rw [World.stored, reads.attempts]
    exact appended_later inserted.appended reads.ingested

theorem insertions_ensures {candidates : List NormalizedEvent}
    {progress : Progress} (distinct : (identifiers candidates).Nodup)
    (positive : ∀ entry ∈ candidates, 0 < entry.occurrences) :
    Ensures (Inserted tenantId start known [] progress)
      ((slices 100 candidates).foldlM (insertChunk tenantId receivedAt) progress)
      fun outcome world =>
        match outcome with
        | .ok next => Inserted tenantId start known candidates next world
        | .error _ => Rejected start world := by
  have whole : (slices 100 candidates).flatten = candidates :=
    flatten_slices (by decide) candidates
  apply Ensures.foldlM fun done progress =>
    Inserted tenantId start known done.flatten progress
  · intro done chunk rest progress isDone
    rw [isDone, List.flatten_append, List.flatten_cons] at whole
    rw [← whole, identifiers_append, identifiers_append] at distinct
    rw [← whole] at positive
    rw [List.flatten_append, List.flatten_singleton]
    refine (insertChunk_ensures ?_ ?_).implies ?_
    · exact distinct.of_append_right.of_append_left
    · intro entry member
      exact positive entry (List.mem_append_right _ (List.mem_append_left _ member))
    · rintro (failure | next) world holds
      · exact holds
      · exact holds
  · intro progress world holds
    rw [whole] at holds
    exact holds

/-- The raced events are there, with the payload of the batch. -/
theorem confirmRaced_ensures {candidates : List NormalizedEvent}
    {progress : Progress} :
    Ensures (Inserted tenantId start known candidates progress)
      (confirmRaced tenantId progress.raced) fun outcome world =>
        outcome = .ok (spread progress.raced) ∧
          Inserted tenantId start known candidates progress world := by
  by_cases none : progress.raced = []
  · rw [confirmRaced, if_pos none, none]
    exact Ensures.returns fun world holds => ⟨rfl, holds⟩
  · rw [confirmRaced, if_neg none]
    apply Ensures.pointwise
    intro world inserted
    refine (existingEventHashes_ensures _).bind ?_ ?_
    · intro hashes
      refine ⟨?_⟩
      rintro after ⟨found, same, knows⟩
      cases same
      have confirmed : confirm hashes progress.raced =
          .ok (spread progress.raced) :=
        confirm_ok fun entry member => knows.complete _ _
          (List.mem_map_of_mem member) (inserted.raced entry member)
      rw [ofExcept_apply, confirmed]
      exact ⟨rfl, inserted.reads knows.reads⟩
    · rintro failure after ⟨found, same, _⟩
      cases same

end Insertion

/-! ## The whole call -/

section Call

variable {runtime : Runtime} {tenantId : String} {receivedAt : Timestamp}
  {events : List SecurityEvent} {start : World}

/-- What is known once the stored events have been looked up. -/
structure Prepared (tenantId : String) (events : List SecurityEvent)
    (start : World) (candidates : List NormalizedEvent) (known : List String)
    (world : World) : Prop where
  reads : Reads start world
  distinct : (identifiers candidates).Nodup
  positive : ∀ entry ∈ candidates, 0 < entry.occurrences
  counted : (spread candidates ++ known).Perm (events.map (·.eventId))
  stored : ∀ eventId ∈ known, HasRow tenantId eventId world.events fun _ => True

theorem prepare_ensures :
    Ensures (· = start) (prepare runtime tenantId events) fun outcome world =>
      match outcome with
      | .ok (candidates, known) =>
          Prepared tenantId events start candidates known world
      | .error _ => Reads start world := by
  cases isInput : events.mapM (normalize runtime) with
  | error failure =>
      refine ⟨?_⟩
      rintro _ rfl
      simp only [prepare, bind_apply, ofExcept_apply, isInput]
      exact Reads.refl _
  | ok input =>
      cases isCollected : collect [] input with
      | error failure =>
          refine ⟨?_⟩
          rintro _ rfl
          simp only [prepare, bind_apply, ofExcept_apply, isInput,
            isCollected]
          exact Reads.refl _
      | ok unique =>
          have same : prepare runtime tenantId events =
              existingEventHashes tenantId (identifiers unique) >>= fun hashes =>
                ControlForge.Effect.ofExcept (separate hashes unique) := by
            funext world
            simp only [prepare, bind_apply, ofExcept_apply, isInput,
              isCollected]
            rfl
          obtain ⟨sameIds, once⟩ := mapM_normalize_ok isInput
          have nothing : Collected [] [] :=
            ⟨List.nodup_nil, by simp, List.Perm.refl _⟩
          have collected := collect_ok nothing once isCollected
          rw [List.nil_append, sameIds] at collected
          rw [same]
          refine (existingEventHashes_ensures _).bind ?_ ?_
          · intro hashes
            refine ⟨?_⟩
            rintro after ⟨found, isFound, knows⟩
            cases isFound
            rw [ofExcept_apply]
            cases isSeparated : separate hashes unique with
            | error failure => exact knows.reads
            | ok pair =>
                obtain ⟨candidates, known⟩ := pair
                obtain ⟨sublist, counted, areKnown⟩ := separate_ok isSeparated
                refine ⟨knows.reads, ?_, ?_, ?_, ?_⟩
                · exact collected.distinct.sublist (sublist.map _)
                · exact fun entry member =>
                    collected.positive entry (sublist.subset member)
                · exact counted.trans collected.counted
                · intro eventId member
                  obtain ⟨hash, isHash⟩ :=
                    Option.isSome_iff_exists.mp (areKnown eventId member).2
                  obtain ⟨row, isRow, isKey, _⟩ := knows.sound eventId hash isHash
                  exact ⟨row, isRow, isKey, trivial⟩
          · rintro failure after ⟨found, isFound, _⟩
            cases isFound

/-- A call that returns. -/
structure Returned (runtime : Runtime) (tenantId : String)
    (events : List SecurityEvent) (start : World)
    (accepted duplicates : List String) (world : World) : Prop where
  ingested : Ingested start.events world.events
  attempts : ∀ attempt ∈ world.attempts, Done attempt
  appended : world.stored.Sublist
    (world.events.rows.drop start.events.rows.length)
  isStored : accepted = world.stored.map (·.eventId)
  distinct : accepted.Nodup
  counted : (accepted ++ duplicates).Perm (events.map (·.eventId))
  isPending : ∀ eventId ∈ accepted, IsPending tenantId world.events eventId
  isSent : ∃ pending : List String, pending.Nodup ∧
    (∀ eventId, eventId ∈ pending ↔
      eventId ∈ duplicates ∧ IsPending tenantId world.events eventId) ∧
    world.sent = start.sent ++ queueMessages runtime tenantId (accepted ++ pending)

theorem finish_ensures {candidates : List NormalizedEvent} {known : List String}
    {progress : Progress} (distinct : (identifiers candidates).Nodup)
    (counted : (spread candidates ++ known).Perm (events.map (·.eventId))) :
    Ensures (Inserted tenantId start known candidates progress)
      (finish runtime tenantId progress) fun outcome world =>
        ∃ duplicates, outcome = .ok (progress.accepted, duplicates) ∧
          Returned runtime tenantId events start progress.accepted duplicates
            world := by
  apply confirmRaced_ensures.followed
  apply Ensures.pointwise
  intro world inserted
  have stored : ∀ eventId ∈
      (progress.duplicates ++ spread progress.raced).eraseDups,
      HasRow tenantId eventId world.events fun _ => True := by
    intro eventId member
    rcases List.mem_append.mp (List.mem_eraseDups.mp member) with isKnown | isRaced
    · exact inserted.duplicates eventId isKnown
    · obtain ⟨entry, isEntry, rfl⟩ := mem_identifiers_of_spread isRaced
      obtain ⟨row, isRow, isKey, _⟩ := inserted.raced entry isEntry
      exact ⟨row, isRow, isKey, trivial⟩
  refine (pendingDuplicates_ensures (nodup_eraseDups _) stored).bind ?_ ?_
  · intro pending
    apply Ensures.pointwise
    rintro after ⟨found, isFound, finds⟩
    cases isFound
    have later := inserted.reads finds.reads
    refine (enqueueEventIds_ensures after).followed (Ensures.returns ?_)
    rintro _ rfl
    refine ⟨_, rfl, later.ingested, later.attempts, later.appended, later.accepted,
      distinct.sublist later.sublist, ?_, later.pending, pending, finds.distinct,
      ?_, ?_⟩
    · exact later.counted.trans counted
    · intro eventId
      rw [finds.iff, List.mem_eraseDups]
      constructor
      · rintro ⟨isDuplicate, isPending⟩
        exact ⟨isDuplicate, isPending.later finds.reads.ingested⟩
      · rintro ⟨isDuplicate, isPending⟩
        exact ⟨isDuplicate, ((stored eventId (List.mem_eraseDups.mpr
          isDuplicate)).iff finds.reads.ingested).mp isPending⟩
    · change after.sent ++ _ = _
      rw [later.sent]
  · rintro failure after ⟨found, isFound, _⟩
    cases isFound

theorem persistEvents_ensures (isNew : start.attempts = []) :
    Ensures (· = start) (persistEvents runtime tenantId receivedAt events)
      fun outcome world =>
        match outcome with
        | .ok (accepted, duplicates) =>
            Returned runtime tenantId events start accepted duplicates world
        | .error _ => Rejected start world := by
  have none : start.stored = [] := by
    rw [World.stored, isNew, List.flatMap_nil]
  refine prepare_ensures.bind ?_ ?_
  · rintro ⟨candidates, known⟩
    apply Ensures.pointwise
    intro world prepared
    have noStored : world.stored = [] := by
      rw [World.stored, prepared.reads.attempts]
      exact none
    have begin : Inserted tenantId start known [] ⟨[], known, []⟩ world := by
      refine ⟨prepared.reads.ingested, prepared.reads.sent, ?_, ?_, ?_, ?_, ?_, ?_,
        prepared.stored, ?_⟩
      · rw [prepared.reads.attempts, isNew]
        simp
      · rw [noStored, List.map_nil]
      · exact List.Sublist.refl _
      · simp
      · simp
      · simp
      · rw [noStored]
        exact List.nil_sublist _
    have inserts : Ensures (· = world) ((slices 100 candidates).foldlM
        (insertChunk tenantId receivedAt) ⟨[], known, []⟩) fun outcome world =>
          match outcome with
          | .ok next => Inserted tenantId start known candidates next world
          | .error _ => Rejected start world := by
      apply (insertions_ensures prepared.distinct prepared.positive).narrows
      rintro _ rfl
      exact begin
    refine inserts.bind ?_ ?_
    · intro progress
      refine (finish_ensures prepared.distinct prepared.counted).implies ?_
      rintro _ after ⟨duplicates, rfl, returned⟩
      exact returned
    · exact fun failure after holds => holds
  · intro failure world reads
    refine ⟨reads.ingested, reads.sent, ?_, .inl (reads.attempts.trans isNew)⟩
    rw [World.stored, reads.attempts, isNew, List.flatMap_nil]
    exact List.nil_sublist _

end Call

/-! ## Accounting -/

/-- What a call owes its batch: all or nothing is stored, every event is named
once for each time it occurs, and every accepted or pending one is enqueued
once. -/
structure Accounted (tenantId : String) (events : List SecurityEvent)
    (table : Events) (outcome : Except IngestionError (List String × List String))
    (world : World) : Prop where
  keeps : table.rows <+: world.events.rows
  appended : world.stored.Sublist (world.events.rows.drop table.rows.length)
  accounts :
    match outcome with
    | .error _ => world.stored = []
    | .ok (accepted, duplicates) =>
        (accepted ++ duplicates).Perm (events.map (·.eventId)) ∧
          accepted.Nodup ∧ accepted = world.stored.map (·.eventId) ∧
          (∀ eventId, eventId ∈ accepted ∨
              (eventId ∈ duplicates ∧ IsPending tenantId world.events eventId) →
            (world.sent.flatMap (·.eventIds)).count eventId = 1) ∧
          ∀ message ∈ world.sent, message.tenantId = tenantId ∧
            message.eventIds.length ≤ eventIdsPerQueueMessage

theorem Accounted.once {tenantId : String} {events : List SecurityEvent}
    {table : Events} {outcome : Except IngestionError (List String × List String)}
    {world : World} {accepted duplicates : List String}
    (accounted : Accounted tenantId events table outcome world)
    (isOutcome : outcome = .ok (accepted, duplicates)) :
    ∀ eventId ∈ accepted,
      (world.sent.flatMap (·.eventIds)).count eventId = 1 := by
  subst isOutcome
  obtain ⟨_, _, _, once, _⟩ := accounted.accounts
  exact fun eventId member => once eventId (.inl member)

/-- The tables that the inserts of the call have met leave room for neither
fault. -/
structure Undisturbed (events : List SecurityEvent)
    (attempts : List InsertAttempt) : Prop where
  /-- An event that the batch repeats is there when its insert runs. -/
  repeats : ∀ attempt ∈ attempts, attempt.isRefused = false →
    ∀ row ∈ attempt.rows, 1 < (events.map (·.eventId)).count row.eventId →
      isStored attempt.before row = true
  /-- Where an insert is refused, the others find all of their events. -/
  refusals : ∀ refused ∈ attempts, refused.isRefused = true →
    ∀ attempt ∈ attempts, attempt.isRefused = false →
      ∀ row ∈ attempt.rows, isStored attempt.before row = true

section

variable {runtime : Runtime} {tenantId : String} {events : List SecurityEvent}
  {start world : World} {accepted duplicates : List String}

theorem Done.mem_stored {attempt : InsertAttempt} (done : Done attempt)
    {row : EventRow} : row ∈ attempt.stored ↔
      row ∈ attempt.rows ∧ isStored attempt.before row = false := by
  rw [done.stored, List.mem_filter, Bool.not_eq_true']

/-- Of a rejected batch nothing is stored exactly when nothing was before the
refusal. -/
theorem Rejected.undisturbed (rejected : Rejected start world) :
    world.stored = [] ↔ Undisturbed events world.attempts := by
  rcases rejected.refused with none | ⟨earlier, refused, isLast, isRefused, nothing,
    areDone⟩
  · simp only [World.stored, none, List.flatMap_nil, true_iff]
    exact ⟨by simp, by simp⟩
  · have stored : world.stored = earlier.flatMap (·.stored) := by
      simp [World.stored, isLast, nothing]
    have isDone : ∀ attempt ∈ world.attempts, attempt.isRefused = false →
        attempt ∈ earlier := by
      intro attempt member unrefused
      rw [isLast] at member
      rcases List.mem_append.mp member with isEarlier | isRefusal
      · exact isEarlier
      · rw [List.mem_singleton.mp isRefusal, isRefused] at unrefused
        cases unrefused
    constructor
    · intro none
      have known : ∀ attempt ∈ world.attempts, attempt.isRefused = false →
          ∀ row ∈ attempt.rows, isStored attempt.before row = true := by
        intro attempt member unrefused row isRow
        have isEarlier := isDone attempt member unrefused
        have empty : attempt.stored = [] := by
          rw [stored] at none
          exact List.flatMap_eq_nil_iff.mp none attempt isEarlier
        by_contra isNew
        have isStoredRow : row ∈ attempt.stored := (areDone attempt
          isEarlier).mem_stored.mpr ⟨isRow, Bool.eq_false_iff.mpr isNew⟩
        rw [empty] at isStoredRow
        cases isStoredRow
      exact ⟨fun attempt member unrefused row isRow _ =>
        known attempt member unrefused row isRow, fun _ _ _ => known⟩
    · intro undisturbed
      rw [stored, List.flatMap_eq_nil_iff]
      intro attempt isEarlier
      have unrefused := (areDone attempt isEarlier).unrefused
      have isAttempt : attempt ∈ world.attempts := by
        rw [isLast]
        exact List.mem_append_left _ isEarlier
      have isRefusal : refused ∈ world.attempts := by
        rw [isLast]
        exact List.mem_append_right _ List.mem_cons_self
      refine List.eq_nil_iff_forall_not_mem.mpr fun row isStoredRow => ?_
      obtain ⟨isRow, isNew⟩ := (areDone attempt isEarlier).mem_stored.mp isStoredRow
      have known := undisturbed.refusals refused isRefusal isRefused attempt isAttempt
        unrefused row isRow
      rw [isNew] at known
      cases known

/-- An accepted event is also a duplicate exactly when the batch repeats it. -/
theorem Returned.repeats
    (returned : Returned runtime tenantId events start accepted duplicates world) :
    (∀ eventId ∈ accepted, eventId ∉ duplicates) ↔
      Undisturbed events world.attempts := by
  have count : ∀ eventId ∈ accepted,
      (events.map (·.eventId)).count eventId = 1 + duplicates.count eventId := by
    intro eventId member
    rw [← returned.counted.count_eq, List.count_append,
      List.count_eq_one_of_mem returned.distinct member]
  constructor
  · intro apart
    refine ⟨?_, ?_⟩
    · intro attempt member _ row isRow isRepeated
      by_contra isNew
      have isStoredRow : row ∈ attempt.stored := (returned.attempts attempt
        member).mem_stored.mpr ⟨isRow, Bool.eq_false_iff.mpr isNew⟩
      have isAccepted : row.eventId ∈ accepted := by
        rw [returned.isStored]
        exact List.mem_map_of_mem (List.mem_flatMap.mpr ⟨attempt, member,
          isStoredRow⟩)
      rw [count _ isAccepted, List.count_eq_zero.mpr (apart _ isAccepted)]
        at isRepeated
      exact Nat.lt_irrefl 1 isRepeated
    · intro refused member isRefused
      rw [(returned.attempts refused member).unrefused] at isRefused
      cases isRefused
  · intro undisturbed eventId isAccepted isDuplicate
    have isRepeated : 1 < (events.map (·.eventId)).count eventId := by
      have positive := List.count_pos_iff.mpr isDuplicate
      rw [count _ isAccepted]
      omega
    rw [returned.isStored] at isAccepted
    obtain ⟨row, isStoredRow, rfl⟩ := List.mem_map.mp isAccepted
    obtain ⟨attempt, member, isRow⟩ := List.mem_flatMap.mp isStoredRow
    have done := returned.attempts attempt member
    obtain ⟨isRow, isNew⟩ := done.mem_stored.mp isRow
    have known := undisturbed.repeats attempt member done.unrefused row isRow
      isRepeated
    rw [isNew] at known
    cases known

/-- What is owed to the queue is enqueued once, unless it is both accepted and a
duplicate. -/
theorem Returned.sent_once
    (returned : Returned runtime tenantId events start accepted duplicates world)
    (isNew : start.sent = []) {eventId : String}
    (isOwed : eventId ∈ accepted ∨
      (eventId ∈ duplicates ∧ IsPending tenantId world.events eventId)) :
    (world.sent.flatMap (·.eventIds)).count eventId = 1 ↔
      (eventId ∈ accepted → eventId ∉ duplicates) := by
  obtain ⟨pending, distinct, isPending, sent⟩ := returned.isSent
  rw [sent, isNew, List.nil_append, queueMessages_eventIds, List.count_append]
  by_cases isAccepted : eventId ∈ accepted
  · have known := returned.isPending eventId isAccepted
    rw [List.count_eq_one_of_mem returned.distinct isAccepted]
    constructor
    · intro once _ isDuplicate
      have twice := List.count_eq_one_of_mem distinct
        ((isPending eventId).mpr ⟨isDuplicate, known⟩)
      omega
    · intro apart
      have none : eventId ∉ pending := fun member =>
        apart isAccepted ((isPending eventId).mp member).1
      rw [List.count_eq_zero.mpr none]
  · have member := (isPending eventId).mpr (isOwed.resolve_left isAccepted)
    rw [List.count_eq_zero.mpr isAccepted, List.count_eq_one_of_mem distinct member]
    exact ⟨fun _ isHere => absurd isHere isAccepted, fun _ => rfl⟩

theorem Returned.accounted {table : Events}
    {others : List (List (List EventRow))}
    (returned : Returned runtime tenantId events (.start table others) accepted
      duplicates world) :
    Accounted tenantId events table (.ok (accepted, duplicates)) world ↔
      ∀ eventId ∈ accepted, eventId ∉ duplicates := by
  constructor
  · intro accounted eventId isAccepted
    exact (returned.sent_once rfl (.inl isAccepted)).mp
      (accounted.once rfl eventId isAccepted) isAccepted
  · intro apart
    refine ⟨returned.ingested.grows, returned.appended, returned.counted,
      returned.distinct, returned.isStored, ?_, ?_⟩
    · intro eventId isOwed
      exact (returned.sent_once rfl isOwed).mpr (apart eventId)
    · intro message member
      obtain ⟨pending, _, _, sent⟩ := returned.isSent
      rw [sent] at member
      rcases List.mem_append.mp member with isOld | isMessage
      · cases isOld
      · exact length_queueMessages isMessage

end

/-- A call accounts for every event of its batch exactly when it meets neither
fault. -/
theorem persistEvents_accounts (runtime : Runtime) (tenantId : String)
    (receivedAt : Timestamp) (events : List SecurityEvent) (table : Events)
    (others : List (List (List EventRow))) :
    let ended := persistEvents runtime tenantId receivedAt events
      (.start table others)
    Accounted tenantId events table ended.1 ended.2 ↔
      Undisturbed events ended.2.attempts := by
  have isNew : (World.start table others).attempts = [] := rfl
  have ends := (persistEvents_ensures isNew :
    Ensures _ (persistEvents runtime tenantId receivedAt events) _).ends _ rfl
  dsimp only
  generalize persistEvents runtime tenantId receivedAt events
    (.start table others) = ended at ends ⊢
  obtain ⟨outcome, world⟩ := ended
  cases outcome with
  | error failure =>
      have rejected : Rejected (.start table others) world := ends
      rw [← rejected.undisturbed]
      constructor
      · exact fun accounted => accounted.accounts
      · exact fun none => ⟨rejected.ingested.grows, rejected.appended, none⟩
  | ok lists =>
      obtain ⟨accepted, duplicates⟩ := lists
      have returned : Returned runtime tenantId events (.start table others)
        accepted duplicates world := ends
      exact returned.accounted.trans returned.repeats

/-! ## A batch with one event twice -/

def quietRuntime : Runtime where
  sha256Hex text := text
  attemptId index := toString index

def startedProcess : SecurityEvent where
  eventId := "e1"
  eventType := "process_start"
  timestamp := ⟨0, "1970-01-01T00:00:00Z"⟩
  actor := "device:d1"
  sourceIp := none
  target := none
  deviceId := some "d1"
  attributes := { members := [] }

def repeatedRun :
    Except IngestionError (List String × List String) × World :=
  persistEvents quietRuntime "t1" 0 [startedProcess, startedProcess]
    (.start Table.empty [])

/-- The accepted event is its own duplicate, still pending, and enqueued once
more. -/
theorem persistEvents_enqueues_twice :
    repeatedRun.1 = .ok (["e1"], ["e1"]) ∧
      ¬ Accounted "t1" [startedProcess, startedProcess] Table.empty repeatedRun.1
        repeatedRun.2 := by
  have isResult : repeatedRun.1 = .ok (["e1"], ["e1"]) := by
    decide +kernel
  have isSent : (repeatedRun.2.sent.flatMap (·.eventIds)).count "e1" = 2 := by
    decide +kernel
  refine ⟨isResult, ?_⟩
  intro accounted
  have once := accounted.once isResult "e1" List.mem_cons_self
  rw [isSent] at once
  cases once

end Ingestion

end Cloud

end ControlForge
