import ControlForge.Cloud.Recovery

/-!
# Recovery makes progress unless an event fails

A run reports on its maintenance exactly when no event of its batches fails.
Then it has processed at least one event if there was one, so that the oldest
failing event is in a batch sooner or later, and every run after that fails.
-/

namespace ControlForge

namespace Cloud

namespace Recovery

variable {Alert : Type} {processing : Processing Alert}

/-- The recovery of the event fails: its processing throws, or a safe event has
an alert. -/
def Processing.Throws (processing : Processing Alert) (event : StoredEvent) :
    Prop :=
  match processing.detectEvent event with
  | .error _ => True
  | .ok alerts =>
      if event.safe then alerts ≠ []
      else ∃ alert ∈ alerts, ∃ message,
        processing.persistAlertAndCase event alert = .error message

/-! ## Marked events -/

/-- The events of the rows become processed, and the others stay as they
are. -/
def Marked (rows : List EventRow) (before after : Database) : Prop :=
  ∃ mark : EventRow → EventRow,
    after.events.rows = before.events.rows.map mark ∧
    (∀ row, (mark row).event = row.event) ∧
    (∀ row, row.processedAt.isSome → (mark row).processedAt.isSome) ∧
    (∀ marked ∈ rows, ∀ row,
      row.hasKey marked.event.tenantId marked.event.eventId = true →
      (mark row).processedAt.isSome) ∧
    ∀ row, (∀ marked ∈ rows,
      row.hasKey marked.event.tenantId marked.event.eventId = false) →
      mark row = row

theorem Marked.refl (database : Database) : Marked [] database database :=
  ⟨id, (List.map_id _).symm, fun _ => rfl, fun _ => id, nofun, fun _ _ => rfl⟩

theorem Marked.trans {first second : List EventRow}
    {before middle after : Database} (left : Marked first before middle)
    (right : Marked second middle after) :
    Marked (first ++ second) before after := by
  obtain ⟨mark, rows, event, keeps, marks, others⟩ := left
  obtain ⟨later, laterRows, laterEvent, laterKeeps, laterMarks, laterOthers⟩ :=
    right
  refine ⟨later ∘ mark, ?_, fun row => ?_, fun row isProcessed => ?_,
    fun marked member row hasKey => ?_, fun row free => ?_⟩
  · rw [laterRows, rows, List.map_map]
  · rw [Function.comp_apply, laterEvent, event]
  · exact laterKeeps _ (keeps row isProcessed)
  · rcases List.mem_append.mp member with ofFirst | ofSecond
    · exact laterKeeps _ (marks marked ofFirst row hasKey)
    · apply laterMarks marked ofSecond
      rw [EventRow.hasKey, event]
      exact hasKey
  · have unmarked : mark row = row :=
      others row fun marked member => free marked (List.mem_append_left _ member)
    rw [Function.comp_apply, unmarked]
    exact laterOthers row fun marked member =>
      free marked (List.mem_append_right _ member)

/-- The update of a list of events. -/
theorem Marked.of_update {rows : List EventRow} {selected : EventRow → Bool}
    {now : Timestamp} {error : Option String} {database next : Database}
    (selects : ∀ row, selected row = true ↔ ∃ marked ∈ rows,
      row.hasKey marked.event.tenantId marked.event.eventId = true)
    (isRows : next.events.rows = database.events.rows.map
      (Table.applyWhere selected fun row =>
        { row with processedAt := some now, processingError := error })) :
    Marked rows database next := by
  refine ⟨Table.applyWhere selected fun row =>
    { row with processedAt := some now, processingError := error }, isRows,
    fun row => ?_, fun row isProcessed => ?_, fun marked member row hasKey => ?_,
    fun row free => ?_⟩
  · unfold Table.applyWhere
    split
    · rfl
    · rfl
  · unfold Table.applyWhere
    split
    · rfl
    · exact isProcessed
  · have isSelected := (selects row).mpr ⟨marked, member, hasKey⟩
    rw [Table.applyWhere, if_pos isSelected]
    rfl
  · have unselected : selected row ≠ true := by
      intro isSelected
      obtain ⟨marked, member, hasKey⟩ := (selects row).mp isSelected
      rw [free marked member] at hasKey
      cases hasKey
    rw [Table.applyWhere, if_neg unselected]

theorem hasKey_self (row : EventRow) :
    row.hasKey row.event.tenantId row.event.eventId = true := by
  simp [EventRow.hasKey]

theorem row_eq_of_key {database : Database} {left right : EventRow}
    (leftStored : left ∈ database.events.rows)
    (rightStored : right ∈ database.events.rows)
    (same : left.hasKey right.event.tenantId right.event.eventId = true) :
    left = right := by
  apply database.events.eq_of_clash leftStored rightStored same
  simp only [EventRow.clash, EventRow.hasKey, decide_eq_true_eq] at same ⊢
  exact ⟨same.1.symm, same.2.symm⟩

/-- A row that is not among the marked ones is stored afterwards, too. -/
theorem Marked.stored {rows : List EventRow} {before after : Database}
    (marked : Marked rows before after) (rowsStored : ∀ row ∈ rows,
      row ∈ before.events.rows) {row : EventRow}
    (stored : row ∈ before.events.rows) (other : row ∉ rows) :
    row ∈ after.events.rows := by
  obtain ⟨mark, isRows, -, -, -, others⟩ := marked
  rw [isRows]
  refine List.mem_map.mpr ⟨row, stored, others row fun marked member => ?_⟩
  cases hasKey : row.hasKey marked.event.tenantId marked.event.eventId with
  | false => rfl
  | true =>
      have same := row_eq_of_key stored (rowsStored marked member) hasKey
      rw [same] at other
      exact absurd member other

/-! ## Processing one event -/

theorem persistAlerts_events (event : StoredEvent) (alerts : List Alert)
    (database : Database) :
    (persistAlerts processing event alerts database).2.events =
      database.events := by
  induction alerts generalizing database with
  | nil => rfl
  | cons alert alerts induction =>
      unfold persistAlerts
      cases processing.persistAlertAndCase event alert with
      | error message => rfl
      | ok => exact induction _

theorem persistAlerts_eq_none {event : StoredEvent} {alerts : List Alert}
    {database : Database} :
    (persistAlerts processing event alerts database).1 = none ↔
      ∀ alert ∈ alerts, ¬ ∃ message,
        processing.persistAlertAndCase event alert = .error message := by
  induction alerts generalizing database with
  | nil => exact ⟨fun _ => nofun, fun _ => rfl⟩
  | cons alert alerts induction =>
      unfold persistAlerts
      rw [List.forall_mem_cons]
      cases persisted : processing.persistAlertAndCase event alert with
      | error message =>
          refine ⟨nofun, fun holds => ?_⟩
          exact absurd ⟨message, rfl⟩ holds.1
      | ok =>
          refine ⟨fun isNone => ⟨nofun, induction.mp isNone⟩, fun holds => ?_⟩
          exact induction.mpr holds.2

/-- A general event is processed unless its processing throws. -/
theorem processEvent_spec {now : Timestamp} {database : Database}
    {row : EventRow} (stored : row ∈ database.events.rows)
    (isPending : row.processedAt = none) (isGeneral : row.event.safe = false) :
    ((processEvent processing now row.event.tenantId row.event.eventId
        database).1 = none ↔ ¬ processing.Throws row.event) ∧
    ((processEvent processing now row.event.tenantId row.event.eventId
        database).1 = none →
      Marked [row] database (processEvent processing now row.event.tenantId
        row.event.eventId database).2) := by
  have found : database.events.rows.find?
      (·.hasKey row.event.tenantId row.event.eventId) = some row := by
    apply Table.find?_eq_some_of_clash stored (hasKey_self row)
    intro other hasKey
    simp only [EventRow.clash, EventRow.hasKey, decide_eq_true_eq]
      at hasKey ⊢
    exact ⟨⟨hasKey.1.symm, hasKey.2.symm⟩, hasKey⟩
  have marks (next : Database) (events : next.events = database.events) :
      Marked [row] database (markEventProcessed now row.event.tenantId
        row.event.eventId none next) := by
    apply @Marked.of_update [row] (·.hasKey row.event.tenantId
      row.event.eventId) now none
    · intro other
      simp
    · change next.events.rows.map _ = _
      rw [events]
      rfl
  unfold processEvent Processing.Throws
  rw [found]
  simp only [isPending, isGeneral]
  cases detected : processing.detectEvent row.event with
  | error message => simp
  | ok alerts =>
      have events := @persistAlerts_events _ processing row.event alerts database
      have outcome := @persistAlerts_eq_none _ processing row.event alerts
        database
      dsimp only [Option.isSome_none, Bool.false_eq_true, if_false]
      generalize persistAlerts processing row.event alerts database = persisted
        at events outcome
      obtain ⟨failure, next⟩ := persisted
      cases failure with
      | none =>
          refine ⟨⟨fun _ => ?_, fun _ => rfl⟩, fun _ => marks next events⟩
          rintro ⟨alert, member, failed⟩
          exact outcome.mp rfl alert member failed
      | some message =>
          refine ⟨⟨?_, fun holds => ?_⟩, ?_⟩
          · intro isNone
            cases isNone
          · have none := outcome.mpr fun alert member failed =>
              holds ⟨alert, member, failed⟩
            cases none
          · intro isNone
            cases isNone

/-! ## Processing a batch -/

/-- What a batch of general events is to the database it is processed in. -/
structure Batch (rows : List EventRow) (database : Database) : Prop where
  stored : ∀ row ∈ rows, row ∈ database.events.rows
  pending : ∀ row ∈ rows, row.processedAt = none
  general : ∀ row ∈ rows, row.event.safe = false
  distinct : rows.Nodup

theorem Batch.head {row : EventRow} {rows : List EventRow}
    {database : Database} (batch : Batch (row :: rows) database) :
    row ∈ database.events.rows ∧ row.processedAt = none ∧
      row.event.safe = false :=
  ⟨batch.stored row List.mem_cons_self, batch.pending row List.mem_cons_self,
    batch.general row List.mem_cons_self⟩

/-- After some of its events have been processed, the others are a batch. -/
theorem Batch.rest {first second : List EventRow} {database next : Database}
    (batch : Batch (first ++ second) database)
    (marked : Marked first database next) : Batch second next := by
  have distinct := List.nodup_append.mp batch.distinct
  refine ⟨fun row member => ?_, fun row member => ?_, fun row member => ?_,
    distinct.2.1⟩
  · apply marked.stored
      (fun other isFirst => batch.stored other (List.mem_append_left _ isFirst))
      (batch.stored row (List.mem_append_right _ member))
    intro isFirst
    exact distinct.2.2 row isFirst row member rfl
  · exact batch.pending row (List.mem_append_right _ member)
  · exact batch.general row (List.mem_append_right _ member)

theorem Batch.first {first second : List EventRow} {database : Database}
    (batch : Batch (first ++ second) database) : Batch first database where
  stored row member := batch.stored row (List.mem_append_left _ member)
  pending row member := batch.pending row (List.mem_append_left _ member)
  general row member := batch.general row (List.mem_append_left _ member)
  distinct := (List.nodup_append.mp batch.distinct).1

/-- No event of the list fails. -/
def NoneThrows (processing : Processing Alert) (rows : List EventRow) : Prop :=
  ∀ row ∈ rows, ¬ processing.Throws row.event

theorem noneThrows_append {first second : List EventRow} :
    NoneThrows processing (first ++ second) ↔
      NoneThrows processing first ∧ NoneThrows processing second :=
  List.forall_mem_append

/-- The part of the work is done unless an event of the batch fails. -/
def Does (processing : Processing Alert) (rows : List EventRow)
    (database : Database) (result : Option String × Database) : Prop :=
  (result.1 = none ↔ NoneThrows processing rows) ∧
    (result.1 = none → Marked rows database result.2)

theorem processChunk_does {now : Timestamp} {rows : List EventRow}
    {database : Database} (batch : Batch rows database) :
    Does processing rows database
      (processChunk processing now rows database) := by
  induction rows generalizing database with
  | nil => exact ⟨⟨fun _ => nofun, fun _ => rfl⟩, fun _ => Marked.refl database⟩
  | cons row rows induction =>
      obtain ⟨stored, isPending, isGeneral⟩ := batch.head
      obtain ⟨succeeds, marks⟩ := @processEvent_spec _ processing now database
        row stored isPending isGeneral
      unfold processChunk
      dsimp only
      generalize processEvent processing now row.event.tenantId
        row.event.eventId database = first at succeeds marks
      obtain ⟨failure, next⟩ := first
      cases failure with
      | some message =>
          refine ⟨⟨nofun, fun holds => ?_⟩, nofun⟩
          have none := succeeds.mpr (holds row List.mem_cons_self)
          cases none
      | none =>
          have isMarked := marks rfl
          obtain ⟨restSucceeds, restMarks⟩ :=
            induction (@Batch.rest [row] rows _ _ batch isMarked)
          refine ⟨?_, fun isNone => ?_⟩
          · change (processChunk processing now rows next).1 = none ↔ _
            rw [restSucceeds]
            unfold NoneThrows
            rw [List.forall_mem_cons]
            exact ⟨fun holds => ⟨succeeds.mp rfl, holds⟩, And.right⟩
          · exact isMarked.trans (restMarks isNone)

theorem recoverChunks_does {now : Timestamp} {count : Nat}
    {rows : List EventRow} {database : Database}
    (enough : rows.length ≤ count) (batch : Batch rows database) :
    Does processing rows database
      (recoverChunks processing now count rows database) := by
  induction count generalizing rows database with
  | zero =>
      have empty : rows = [] := List.length_eq_zero_iff.mp (Nat.le_zero.mp enough)
      rw [empty]
      exact ⟨⟨fun _ => nofun, fun _ => rfl⟩, fun _ => Marked.refl database⟩
  | succ count induction =>
      cases rows with
      | nil =>
          exact ⟨⟨fun _ => nofun, fun _ => rfl⟩, fun _ => Marked.refl database⟩
      | cons row rows =>
          have split := List.take_append_drop recoveryConcurrency (row :: rows)
          have whole := batch
          rw [← split] at whole
          have chunk := @processChunk_does _ processing now _ _ whole.first
          unfold recoverChunks
          generalize processChunk processing now
            ((row :: rows).take recoveryConcurrency) database = result at chunk
          obtain ⟨failure, next⟩ := result
          obtain ⟨succeeds, marks⟩ := chunk
          cases failure with
          | some message =>
              refine ⟨⟨nofun, fun holds => ?_⟩, nofun⟩
              rw [← split, noneThrows_append] at holds
              have none := succeeds.mpr holds.1
              cases none
          | none =>
              have isMarked := marks rfl
              have shorter :
                  ((row :: rows).drop recoveryConcurrency).length ≤ count := by
                rw [List.length_drop, List.length_cons]
                rw [List.length_cons] at enough
                change rows.length + 1 - 20 ≤ count
                omega
              obtain ⟨restSucceeds, restMarks⟩ :=
                induction shorter (whole.rest isMarked)
              refine ⟨?_, fun isNone => ?_⟩
              · have parts := @noneThrows_append _ processing
                  ((row :: rows).take recoveryConcurrency)
                  ((row :: rows).drop recoveryConcurrency)
                rw [split] at parts
                rw [parts]
                refine Iff.trans restSucceeds ?_
                exact ⟨fun holds => ⟨succeeds.mp rfl, holds⟩, And.right⟩
              · have both := isMarked.trans (restMarks isNone)
                rw [split] at both
                exact both

/-- A batch of safe events fails where one of its events does. -/
theorem checkSafe_eq_none {rows : List EventRow}
    (safe : ∀ row ∈ rows, row.event.safe = true) :
    checkSafe processing rows = none ↔ NoneThrows processing rows := by
  induction rows with
  | nil => exact ⟨fun _ => nofun, fun _ => rfl⟩
  | cons row rows induction =>
      obtain ⟨isSafe, othersSafe⟩ := List.forall_mem_cons.mp safe
      have others := induction othersSafe
      unfold checkSafe NoneThrows
      rw [List.forall_mem_cons, Processing.Throws]
      cases detected : processing.detectEvent row.event with
      | error message => simp
      | ok alerts =>
          cases alerts with
          | nil =>
              refine Iff.trans others ?_
              constructor
              · intro holds
                exact ⟨by simp [isSafe], holds⟩
              · exact And.right
          | cons alert alerts => simp [isSafe]

/-! ## Unprocessed events -/

def Database.unprocessed (database : Database) : List EventRow :=
  database.events.rows.filter fun row => row.processedAt.isNone

@[simp] theorem mem_unprocessed {database : Database} {row : EventRow} :
    row ∈ database.unprocessed ↔
      row ∈ database.events.rows ∧ row.processedAt = none := by
  simp [Database.unprocessed]

theorem events_nodup (database : Database) : database.events.rows.Nodup :=
  Table.nodup hasKey_self

theorem unprocessed_nodup (database : Database) :
    database.unprocessed.Nodup :=
  (events_nodup database).filter _

/-- What is unprocessed afterwards was so before, and is not among the marked
rows. -/
theorem Marked.unprocessed {rows : List EventRow} {before after : Database}
    (marked : Marked rows before after) {row : EventRow}
    (isPending : row ∈ after.unprocessed) :
    row ∈ before.unprocessed ∧ row ∉ rows := by
  obtain ⟨mark, isRows, -, keeps, marks, others⟩ := marked
  obtain ⟨stored, notProcessed⟩ := mem_unprocessed.mp isPending
  rw [isRows] at stored
  obtain ⟨old, oldStored, rfl⟩ := List.mem_map.mp stored
  have free : ∀ marked ∈ rows,
      old.hasKey marked.event.tenantId marked.event.eventId = false := by
    intro marked member
    apply Bool.eq_false_iff.mpr
    intro hasKey
    have processed := marks marked member old hasKey
    rw [notProcessed] at processed
    cases processed
  rw [others old free] at notProcessed ⊢
  refine ⟨mem_unprocessed.mpr ⟨oldStored, notProcessed⟩, fun member => ?_⟩
  have keyed := free old member
  rw [hasKey_self] at keyed
  cases keyed

theorem mem_pendingBatch {safe : Bool} {limit : Nat} {database : Database}
    {row : EventRow} (member : row ∈ pendingBatch safe limit database) :
    row ∈ database.unprocessed ∧ row.event.safe = safe := by
  have selected := mem_orderBy.mp (List.mem_of_mem_take member)
  simpa [and_assoc] using selected

theorem pendingBatch_nodup {safe : Bool} {limit : Nat} {database : Database} :
    (pendingBatch safe limit database).Nodup := by
  apply List.Nodup.sublist (List.take_sublist _ _)
  apply orderBy_perm.nodup_iff.mpr
  exact (events_nodup database).filter _

/-- A class with an unprocessed event has a batch. -/
theorem pendingBatch_ne_nil {limit : Nat} {database : Database}
    {row : EventRow} (isPending : row ∈ database.unprocessed)
    (positive : 0 < limit) :
    pendingBatch row.event.safe limit database ≠ [] := by
  intro isEmpty
  rcases List.take_eq_nil_iff.mp isEmpty with isZero | noneSelected
  · exact absurd isZero (Nat.pos_iff_ne_zero.mp positive)
  · have selected : row ∈ orderBy EventRow.receivedAt
        (database.events.rows.filter fun other =>
          other.processedAt.isNone && other.event.safe == row.event.safe) := by
      apply mem_orderBy.mpr
      simpa using isPending
    rw [noneSelected] at selected
    cases selected

/-! ## Recovery -/

/-- The rows are unprocessed, and there are some unless there are none. -/
structure Chosen (rows : List EventRow) (database : Database) : Prop where
  pending : ∀ row ∈ rows, row ∈ database.unprocessed
  some : database.unprocessed ≠ [] → rows ≠ []

/-- A failed check of the safe events ends the recovery. -/
theorem recover_of_failed {clock : Clock} {database : Database}
    {message : String}
    (failed : checkSafe processing
      (pendingBatch true safeRecoveryEventsPerRun database) = some message) :
    recover processing clock database = (some message, database) := by
  unfold recover
  dsimp only
  rw [failed]

theorem recover_of_checked {clock : Clock} {database : Database}
    (checked : checkSafe processing
      (pendingBatch true safeRecoveryEventsPerRun database) = none) :
    recover processing clock database =
      let marked := markEventsProcessed clock.processedAt
        (pendingBatch true safeRecoveryEventsPerRun database) database
      let generalPending :=
        pendingBatch false generalRecoveryEventsPerRun marked
      recoverChunks processing clock.processedAt generalPending.length
        generalPending marked := by
  unfold recover
  dsimp only
  rw [checked]

theorem recover_does (clock : Clock) (database : Database) :
    ∃ rows, Chosen rows database ∧
      Does processing rows database (recover processing clock database) := by
  let safePending := pendingBatch true safeRecoveryEventsPerRun database
  have safeRows : ∀ row ∈ safePending,
      row ∈ database.unprocessed ∧ row.event.safe = true :=
    fun row member => mem_pendingBatch member
  have checked := @checkSafe_eq_none _ processing safePending
    fun row member => (safeRows row member).2
  cases safe : checkSafe processing safePending with
  | some message =>
      rw [recover_of_failed safe]
      rw [safe] at checked
      refine ⟨safePending, ⟨fun row member => (safeRows row member).1, ?_⟩, ?_⟩
      · rintro - isEmpty
        rw [isEmpty] at checked
        have none := checked.mpr (List.forall_mem_nil _)
        cases none
      · refine ⟨⟨?_, fun holds => ?_⟩, ?_⟩
        · intro isNone
          cases isNone
        · cases checked.mpr holds
        · intro isNone
          cases isNone
  | none =>
      rw [recover_of_checked safe]
      have safeSucceeds := checked.mp safe
      let marked := markEventsProcessed clock.processedAt safePending database
      let generalPending :=
        pendingBatch false generalRecoveryEventsPerRun marked
      have isMarked : Marked safePending database marked := by
        apply @Marked.of_update safePending (fun row => safePending.any
          fun marked => row.hasKey marked.event.tenantId marked.event.eventId)
          clock.processedAt none
        · intro row
          exact List.any_eq_true
        · rfl
      have generalRows : ∀ row ∈ generalPending,
          row ∈ marked.unprocessed ∧ row.event.safe = false :=
        fun row member => mem_pendingBatch member
      have batch : Batch generalPending marked := by
        refine ⟨fun row member => ?_, fun row member => ?_,
          fun row member => (generalRows row member).2, pendingBatch_nodup⟩
        · exact (mem_unprocessed.mp (generalRows row member).1).1
        · exact (mem_unprocessed.mp (generalRows row member).1).2
      obtain ⟨succeeds, marks⟩ := @recoverChunks_does _ processing
        clock.processedAt generalPending.length generalPending marked le_rfl
        batch
      refine ⟨safePending ++ generalPending, ⟨fun row member => ?_, ?_⟩, ?_, ?_⟩
      · rcases List.mem_append.mp member with ofSafe | ofGeneral
        · exact (safeRows row ofSafe).1
        · exact (isMarked.unprocessed (generalRows row ofGeneral).1).1
      · intro isSome isEmpty
        obtain ⟨safeEmpty, generalEmpty⟩ := List.append_eq_nil_iff.mp isEmpty
        obtain ⟨row, isPending⟩ := List.exists_mem_of_ne_nil _ isSome
        cases isSafe : row.event.safe with
        | true =>
            have batched := @pendingBatch_ne_nil safeRecoveryEventsPerRun _ _
              isPending (by decide)
            rw [isSafe] at batched
            exact batched safeEmpty
        | false =>
            obtain ⟨stored, notProcessed⟩ := mem_unprocessed.mp isPending
            have later : row ∈ marked.unprocessed := by
              refine mem_unprocessed.mpr ⟨?_, notProcessed⟩
              apply isMarked.stored
                (fun other member => (mem_unprocessed.mp (safeRows other member).1).1)
                stored
              rw [safeEmpty]
              exact List.not_mem_nil
            have batched := @pendingBatch_ne_nil generalRecoveryEventsPerRun _ _
              later (by decide)
            rw [isSafe] at batched
            exact batched generalEmpty
      · rw [noneThrows_append]
        refine Iff.trans succeeds ?_
        exact ⟨fun holds => ⟨safeSucceeds, holds⟩, And.right⟩
      · intro isNone
        exact isMarked.trans (marks isNone)

/-! ## Maintenance -/

theorem deleteRetired_keeps (config : RetentionConfig) (cutoffAt : Timestamp)
    (batches deletedEvents : Nat) (database : Database) :
    let next := (deleteRetired config cutoffAt batches deletedEvents database).2
    (∀ row, row ∈ next.unprocessed ↔ row ∈ database.unprocessed) ∧
      next.nonces = database.nonces ∧ next.actions = database.actions := by
  induction batches generalizing deletedEvents database with
  | zero => exact ⟨fun _ => Iff.rfl, rfl, rfl⟩
  | succ batches induction =>
      let batch := retiredBatch cutoffAt config.retentionBatchSize database
      let next := { database with
        events := database.events.deleteWhere fun row => batch.contains row }
      have keeps (row : EventRow) :
          row ∈ next.unprocessed ↔ row ∈ database.unprocessed := by
        rw [mem_unprocessed, mem_unprocessed, Table.mem_deleteWhere]
        constructor
        · exact fun ⟨⟨stored, _⟩, isPending⟩ => ⟨stored, isPending⟩
        · intro ⟨stored, isPending⟩
          refine ⟨⟨stored, Bool.eq_false_iff.mpr fun batched => ?_⟩, isPending⟩
          have selected := mem_orderBy.mp (List.mem_of_mem_take
            (List.contains_iff_mem.mp batched))
          simp [isRetired, isPending] at selected
      dsimp only [deleteRetired]
      split
      · exact ⟨keeps, rfl, rfl⟩
      · obtain ⟨others, nonces, actions⟩ :=
          induction (deletedEvents + batch.length) next
        exact ⟨fun row => (others row).trans (keeps row), nonces, actions⟩

/-- Retention keeps what is unprocessed, and what the other maintenance is
about. -/
theorem runTelemetryRetention_keeps (config : RetentionConfig) (clock : Clock)
    (database : Database) :
    let next := (runTelemetryRetention config clock database).2
    (∀ row, row ∈ next.unprocessed ↔ row ∈ database.unprocessed) ∧
      next.nonces = database.nonces ∧ next.actions = database.actions := by
  dsimp only [runTelemetryRetention]
  split
  · exact ⟨fun _ => Iff.rfl, rfl, rfl⟩
  · exact deleteRetired_keeps config _ _ _ database

/-- The run purges the expired nonces, expires the overdue actions and runs
the retention of telemetry on what it has recovered. -/
structure Maintained (processing : Processing Alert) (config : RetentionConfig)
    (clock : Clock) (database : Database) : Prop where
  purged : ∀ row ∈ (scheduled processing config clock database).2.nonces.rows,
    ¬ row.expiresAt < clock.now
  expired : ∀ row ∈ (scheduled processing config clock database).2.actions.rows,
    Dispatch.isOverdue clock.now row = false
  retained : ∃ report,
    scheduled processing config clock database = (.ok report,
      (runTelemetryRetention config clock (purgeAndExpire clock.now
        (recover processing clock database).2)).2)

theorem maintained_iff {config : RetentionConfig} {clock : Clock}
    {database : Database} :
    Maintained processing config clock database ↔
      (recover processing clock database).1 = none := by
  constructor
  · intro maintained
    obtain ⟨report, isRun⟩ := maintained.retained
    cases recovered : recover processing clock database with
    | mk failure next =>
        cases failure with
        | none => rfl
        | some message =>
            unfold scheduled at isRun
            rw [recovered] at isRun
            cases isRun
  · intro isNone
    have isRun : scheduled processing config clock database =
        (.ok (runTelemetryRetention config clock (purgeAndExpire clock.now
            (recover processing clock database).2)).1,
          (runTelemetryRetention config clock (purgeAndExpire clock.now
            (recover processing clock database).2)).2) := by
      unfold scheduled
      generalize recover processing clock database = recovered at isNone
      obtain ⟨failure, next⟩ := recovered
      cases isNone
      rfl
    obtain ⟨-, nonces, actions⟩ := runTelemetryRetention_keeps config clock
      (purgeAndExpire clock.now (recover processing clock database).2)
    refine ⟨?_, ?_, ⟨_, isRun⟩⟩
    · intro row member
      rw [isRun, nonces] at member
      have kept := (Table.mem_deleteWhere.mp member).2
      exact of_decide_eq_false kept
    · intro row member
      rw [isRun, actions] at member
      obtain ⟨old, -, rfl⟩ := List.mem_map.mp member
      cases overdue : Dispatch.isOverdue clock.now old with
      | false => rw [Table.applyWhere_unselected overdue, overdue]
      | true => rw [Table.applyWhere_selected overdue]; rfl

/-! ## Consecutive runs -/

/-- What one run that does its maintenance does to the unprocessed events. -/
structure Advances (processing : Processing Alert)
    (before after : Database) : Prop where
  old : ∀ row ∈ after.unprocessed, row ∈ before.unprocessed
  keeps : ∀ row ∈ before.unprocessed, processing.Throws row.event →
    row ∈ after.unprocessed
  fewer : before.unprocessed ≠ [] →
    after.unprocessed.length < before.unprocessed.length

theorem scheduled_advances {config : RetentionConfig} {clock : Clock}
    {database : Database}
    (maintained : Maintained processing config clock database) :
    Advances processing database
      (scheduled processing config clock database).2 := by
  have isNone := maintained_iff.mp maintained
  obtain ⟨report, isRun⟩ := maintained.retained
  obtain ⟨rows, chosen, succeeds, marks⟩ :=
    @recover_does _ processing clock database
  have noneThrows := succeeds.mp isNone
  have marked := marks isNone
  have keeps := (runTelemetryRetention_keeps config clock (purgeAndExpire
    clock.now (recover processing clock database).2)).1
  rw [isRun]
  have left : ∀ row, row ∈ (runTelemetryRetention config clock
      (purgeAndExpire clock.now
        (recover processing clock database).2)).2.unprocessed →
      row ∈ database.unprocessed ∧ row ∉ rows := by
    intro row isPending
    apply marked.unprocessed
    exact (keeps row).mp isPending
  refine ⟨fun row isPending => (left row isPending).1, ?_, ?_⟩
  · intro row isPending throws
    obtain ⟨stored, notProcessed⟩ := mem_unprocessed.mp isPending
    have unmarked : row ∉ rows := fun member => noneThrows row member throws
    apply (keeps row).mpr
    refine mem_unprocessed.mpr ⟨?_, notProcessed⟩
    apply marked.stored _ stored unmarked
    exact fun other member => (mem_unprocessed.mp (chosen.pending other member)).1
  · intro isSome
    obtain ⟨row, member⟩ := List.exists_mem_of_ne_nil _ (chosen.some isSome)
    -- a marked row and what is left are all unprocessed before the run
    have distinct := List.nodup_cons.mpr
      ⟨fun isPending => (left row isPending).2 member, unprocessed_nodup _⟩
    have included : row :: _ ⊆ database.unprocessed :=
      List.cons_subset.mpr ⟨chosen.pending row member,
        fun other isPending => (left other isPending).1⟩
    exact (List.subperm_of_subset distinct included).length_le

/-- Without failing events every run does its maintenance, and so do the later
ones. -/
theorem maintained_of_noneThrows {config : RetentionConfig}
    {database : Database}
    (healthy : NoneThrows processing database.unprocessed)
    (clocks : List Clock) (clock : Clock) :
    Maintained processing config clock
      (runs processing config clocks database) := by
  have maintained (database : Database)
      (healthy : NoneThrows processing database.unprocessed) (clock : Clock) :
      Maintained processing config clock database := by
    obtain ⟨rows, chosen, succeeds, -⟩ :=
      @recover_does _ processing clock database
    apply maintained_iff.mpr
    apply succeeds.mpr
    exact fun row member => healthy row (chosen.pending row member)
  induction clocks generalizing database with
  | nil => exact maintained database healthy clock
  | cons first clocks induction =>
      apply induction
      intro row isPending
      apply healthy
      exact (scheduled_advances (maintained database healthy first)).old row
        isPending

/-- Every run with its maintenance leaves fewer events, and the failing ones
among them. -/
theorem runs_left {config : RetentionConfig} {database : Database}
    (maintained : ∀ clocks clock, Maintained processing config clock
      (runs processing config clocks database)) (clocks : List Clock) :
    (runs processing config clocks database).unprocessed.length ≤
        database.unprocessed.length - clocks.length ∧
      ∀ row ∈ database.unprocessed, processing.Throws row.event →
        row ∈ (runs processing config clocks database).unprocessed := by
  induction clocks generalizing database with
  | nil => exact ⟨le_rfl, fun row isPending _ => isPending⟩
  | cons first clocks induction =>
      have advances : Advances processing database
          (scheduled processing config first database).2 :=
        scheduled_advances (maintained [] first)
      obtain ⟨length, keeps⟩ := @induction
        (scheduled processing config first database).2
        fun later clock => maintained (first :: later) clock
      constructor
      · refine length.trans ?_
        rw [List.length_cons]
        by_cases isEmpty : database.unprocessed = []
        · have nextEmpty : (scheduled processing config first
              database).2.unprocessed = [] := by
            apply List.eq_nil_iff_forall_not_mem.mpr
            intro row isPending
            have before := advances.old row isPending
            rw [isEmpty] at before
            cases before
          simp [nextEmpty]
        · have fewer := advances.fewer isEmpty
          omega
      · intro row isPending throws
        exact keeps row (advances.keeps row isPending throws) throws

/-- What the scheduled handler owes to a content of the database: this run and
every later one does the maintenance, and as many runs as there are unprocessed
events leave only failing ones. -/
structure Recovers (processing : Processing Alert) (config : RetentionConfig)
    (database : Database) : Prop where
  maintained : ∀ clocks clock, Maintained processing config clock
    (runs processing config clocks database)
  drained : ∀ clocks : List Clock,
    clocks.length = database.unprocessed.length →
    ∀ row ∈ (runs processing config clocks database).unprocessed,
      processing.Throws row.event

/-- Recovery is disabled by every unprocessed event that fails, and by nothing
else. -/
theorem recovers_iff (processing : Processing Alert) (config : RetentionConfig)
    (database : Database) :
    Recovers processing config database ↔
      ∀ row ∈ database.events.rows, row.processedAt = none →
        ¬ processing.Throws row.event := by
  constructor
  · intro recovers row stored notProcessed throws
    let clocks : List Clock :=
      List.replicate database.unprocessed.length ⟨0, 0, 0, 0⟩
    obtain ⟨length, keeps⟩ := runs_left recovers.maintained clocks
    have isLeft :=
      keeps row (mem_unprocessed.mpr ⟨stored, notProcessed⟩) throws
    rw [List.length_replicate, Nat.sub_self] at length
    rw [List.length_eq_zero_iff.mp (Nat.le_zero.mp length)] at isLeft
    cases isLeft
  · intro healthy
    have maintained := @maintained_of_noneThrows _ processing config database
      fun row isPending =>
        healthy row (mem_unprocessed.mp isPending).1
          (mem_unprocessed.mp isPending).2
    refine ⟨maintained, fun clocks enough row isLeft => ?_⟩
    have length := (runs_left maintained clocks).1
    rw [enough, Nat.sub_self] at length
    rw [List.length_eq_zero_iff.mp (Nat.le_zero.mp length)] at isLeft
    cases isLeft

/-! ## A failing event -/

/-- The detectors throw on every event. -/
def failing : Processing Unit where
  detectEvent _ := .error "D1_ERROR: no such table"
  persistAlertAndCase _ _ := .ok ()

/-- One unprocessed event, and a nonce that expired at 100. -/
def stuck : Database where
  events := ⟨[⟨⟨"t1", "e1", "login", none, 0⟩, none, none⟩],
    List.pairwise_singleton _ _⟩
  alerts := []
  nonces := ⟨[⟨"d1", "n1", 100⟩], List.pairwise_singleton _ _⟩
  actions := .empty
  retention := ⟨none, none, none, none, 0, none⟩

/-- The nonce is still stored after the run at 200. -/
theorem failing_event_stops_maintenance :
    ¬ Recovers failing ⟨30, 500, 20⟩ stuck := by
  intro recovers
  have purged := (recovers.maintained [] ⟨200, 200, 200, 200⟩).purged
    ⟨"d1", "n1", 100⟩
  exact purged (by decide) (by decide)

end Recovery

end Cloud

end ControlForge
