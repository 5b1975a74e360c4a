import ControlForge.Cloud.Ingestion
import ControlForge.Foundation.Transaction

/-!
# Batches of events

A batch of inserts whose identifiers differ is refused for a stored event with
another payload, and appends the events that are not stored yet otherwise.  What
a call makes of its input keeps count of every event.
-/

namespace ControlForge

namespace Cloud

namespace Ingestion

/-! ## Rows with a key -/

def isStored (events : Events) (row : EventRow) : Bool :=
  events.rows.any (·.hasKey row.tenantId row.eventId)

theorem hasKey_iff {row : EventRow} {tenantId eventId : String} :
    row.hasKey tenantId eventId = true ↔
      row.tenantId = tenantId ∧ row.eventId = eventId := by
  simp [EventRow.hasKey]

theorem isStored_iff {events : Events} {row : EventRow} :
    isStored events row = true ↔ ∃ existing ∈ events.rows,
      existing.tenantId = row.tenantId ∧ existing.eventId = row.eventId := by
  simp [isStored, hasKey_iff]

theorem conflicts_iff {events : Events} {row : EventRow} :
    conflicts events row = true ↔ ∃ existing ∈ events.rows,
      (existing.tenantId = row.tenantId ∧ existing.eventId = row.eventId) ∧
        existing.payloadSha256 ≠ row.payloadSha256 := by
  simp [conflicts, hasKey_iff]

/-- The row with a key is the only one. -/
theorem eq_of_sameKey {events : Events} {left right : EventRow}
    (isLeft : left ∈ events.rows) (isRight : right ∈ events.rows)
    (sameTenant : left.tenantId = right.tenantId)
    (sameEvent : left.eventId = right.eventId) : left = right := by
  apply Table.eq_of_clash isLeft isRight
  · exact hasKey_iff.mpr ⟨sameTenant, sameEvent⟩
  · exact hasKey_iff.mpr ⟨sameTenant.symm, sameEvent.symm⟩

/-! ## Inserts -/

section Inserts

variable {events next : Events} {row other : EventRow} {rows : List EventRow}

theorem insertOrIgnore_conflict (isConflict : conflicts events row = true) :
    insertOrIgnore events row = none := by
  simp [insertOrIgnore, isConflict]

theorem insertOrIgnore_stored (noConflict : conflicts events row = false)
    (stored : isStored events row = true) :
    insertOrIgnore events row = some (events, 0) := by
  have refused : events.insert row = none := by
    obtain ⟨existing, member, isKey⟩ := isStored_iff.mp stored
    exact Table.insert_eq_none.mpr ⟨existing, member, hasKey_iff.mpr isKey⟩
  simp [insertOrIgnore, noConflict, refused]

theorem insertOrIgnore_fresh (fresh : isStored events row = false) :
    ∃ next, insertOrIgnore events row = some (next, 1) ∧
      next.rows = events.rows ++ [row] := by
  have absent : ∀ existing ∈ events.rows,
      existing.hasKey row.tenantId row.eventId = false := by
    simpa [isStored] using fresh
  have noConflict : conflicts events row = false := by
    rw [← Bool.not_eq_true, conflicts_iff]
    rintro ⟨existing, member, isKey, _⟩
    have other := absent existing member
    rw [hasKey_iff.mpr isKey] at other
    cases other
  cases inserted : events.insert row with
  | none =>
      obtain ⟨existing, member, clashes⟩ := Table.insert_eq_none.mp inserted
      have other : existing.clash row = false := absent existing member
      rw [clashes] at other
      cases other
  | some next =>
      refine ⟨next, ?_, (Table.insert_eq_some.mp inserted).2⟩
      simp [insertOrIgnore, noConflict, inserted]

/-- An insert is ignored or appends its row. -/
theorem insertOrIgnore_grows {changes : Nat}
    (inserted : insertOrIgnore events row = some (next, changes)) :
    events.rows <+: next.rows := by
  cases isConflict : conflicts events row with
  | true =>
      rw [insertOrIgnore_conflict isConflict] at inserted
      cases inserted
  | false =>
      cases stored : isStored events row with
      | true =>
          rw [insertOrIgnore_stored isConflict stored] at inserted
          cases inserted
          exact List.prefix_rfl
      | false =>
          obtain ⟨final, same, rows⟩ := insertOrIgnore_fresh stored
          rw [same] at inserted
          cases inserted
          rw [rows]
          exact List.prefix_append _ _

theorem insertBatch_grows {results : List Nat}
    (inserted : insertBatch events rows = some (next, results)) :
    events.rows <+: next.rows := by
  induction rows generalizing events results with
  | nil =>
      cases inserted
      exact List.prefix_rfl
  | cons row rows induction =>
      simp only [insertBatch, Option.bind_eq_bind, Option.bind_eq_some_iff]
        at inserted
      obtain ⟨⟨middle, changes⟩, first, ⟨final, rest⟩, later, same⟩ := inserted
      cases same
      exact (insertOrIgnore_grows first).trans (induction later)

/-- An insert of another event changes nothing for a row. -/
theorem isStored_append (rows : next.rows = events.rows ++ [other])
    (differs : other.eventId ≠ row.eventId) :
    isStored next row = isStored events row ∧
      conflicts next row = conflicts events row := by
  have noKey : other.hasKey row.tenantId row.eventId = false := by
    rw [← Bool.not_eq_true, hasKey_iff]
    exact fun isKey => differs isKey.2
  constructor
  · simp [isStored, rows, noKey]
  · simp [conflicts, rows, noKey]

theorem insertBatch_conflict (distinct : (rows.map (·.eventId)).Nodup)
    (isConflict : ∃ row ∈ rows, conflicts events row = true) :
    insertBatch events rows = none := by
  induction rows generalizing events with
  | nil => simp at isConflict
  | cons first rows induction =>
      obtain ⟨absent, distinct⟩ := List.nodup_cons.mp distinct
      cases isFirst : conflicts events first with
      | true =>
          simp [insertBatch, insertOrIgnore_conflict isFirst]
      | false =>
          obtain ⟨row, member, isConflict⟩ := isConflict
          have isLater : row ∈ rows := by
            rcases List.mem_cons.mp member with rfl | isLater
            · rw [isFirst] at isConflict
              cases isConflict
            · exact isLater
          cases stored : isStored events first with
          | true =>
              simp [insertBatch, insertOrIgnore_stored isFirst stored,
                induction distinct ⟨row, isLater, isConflict⟩]
          | false =>
              obtain ⟨next, inserted, appended⟩ := insertOrIgnore_fresh stored
              have differs : first.eventId ≠ row.eventId := by
                intro same
                exact absent (List.mem_map.mpr ⟨row, isLater, same.symm⟩)
              have stillConflict : conflicts next row = true := by
                rw [(isStored_append appended differs).2, isConflict]
              simp [insertBatch, inserted,
                induction distinct ⟨row, isLater, stillConflict⟩]

/-- Without a conflict the events that are not stored yet are appended, and the
changes tell which. -/
theorem insertBatch_done (distinct : (rows.map (·.eventId)).Nodup)
    (noConflict : ∀ row ∈ rows, conflicts events row = false) :
    ∃ next, insertBatch events rows =
        some (next, rows.map fun row => if isStored events row then 0 else 1) ∧
      next.rows = events.rows ++ rows.filter (!isStored events ·) := by
  induction rows generalizing events with
  | nil => exact ⟨events, rfl, (List.append_nil _).symm⟩
  | cons first rows induction =>
      obtain ⟨absent, distinct⟩ := List.nodup_cons.mp distinct
      have isFirst := noConflict first List.mem_cons_self
      cases stored : isStored events first with
      | true =>
          obtain ⟨next, inserted, appended⟩ := induction distinct
            fun row member => noConflict row (List.mem_cons_of_mem _ member)
          refine ⟨next, ?_, ?_⟩
          · simp [insertBatch, insertOrIgnore_stored isFirst stored, inserted,
              stored]
          · rw [appended, List.filter_cons_of_neg (by simp [stored])]
      | false =>
          obtain ⟨middle, inserted, appended⟩ := insertOrIgnore_fresh stored
          have same : ∀ row ∈ rows, isStored middle row = isStored events row ∧
              conflicts middle row = conflicts events row := by
            intro row member
            apply isStored_append appended
            intro same
            exact absent (List.mem_map.mpr ⟨row, member, same.symm⟩)
          obtain ⟨next, later, appendedLater⟩ := induction distinct
            fun row member => (same row member).2.trans
              (noConflict row (List.mem_cons_of_mem _ member))
          refine ⟨next, ?_, ?_⟩
          · have results : rows.map (fun row =>
                if isStored middle row then 0 else 1) =
                rows.map fun row => if isStored events row then 0 else 1 :=
              List.map_congr_left fun row member => by rw [(same row member).1]
            simp [insertBatch, inserted, later, results, stored]
          · have others : rows.filter (!isStored middle ·) =
                rows.filter (!isStored events ·) :=
              List.filter_congr fun row member => by rw [(same row member).1]
            rw [appendedLater, appended, others,
              List.filter_cons_of_pos (by simp [stored]), List.append_assoc,
              List.singleton_append]

end Inserts

/-! ## Ingestions -/

/-- What ingestions make of a table: one batch after the other. -/
def Ingested (before after : Events) : Prop :=
  ∃ batches : List (List EventRow), after = batches.foldl ingestBatch before

namespace Ingested

variable {first second third : Events} {rows : List EventRow}

theorem refl (events : Events) : Ingested events events :=
  ⟨[], rfl⟩

theorem trans (earlier : Ingested first second) (later : Ingested second third) :
    Ingested first third := by
  obtain ⟨batches, rfl⟩ := earlier
  obtain ⟨others, rfl⟩ := later
  exact ⟨batches ++ others, List.foldl_append.symm⟩

theorem batch {results : List Nat}
    (inserted : insertBatch first rows = some (second, results)) :
    Ingested first second := by
  refine ⟨[rows], ?_⟩
  simp [ingestBatch, inserted]

theorem meet (world : World) : Ingested world.events world.meet.events := by
  unfold World.meet
  split
  · exact refl _
  · exact ⟨_, rfl⟩

/-- Stored rows stay as they are. -/
theorem grows (ingested : Ingested first second) : first.rows <+: second.rows := by
  obtain ⟨batches, rfl⟩ := ingested
  induction batches generalizing first with
  | nil => exact List.prefix_rfl
  | cons rows batches induction =>
      refine List.IsPrefix.trans ?_ induction
      unfold ingestBatch
      split
      next inserted => exact insertBatch_grows inserted
      next => exact List.prefix_rfl

theorem keeps (ingested : Ingested first second) {row : EventRow}
    (member : row ∈ first.rows) : row ∈ second.rows :=
  ingested.grows.subset member

end Ingested

end Ingestion

end Cloud

end ControlForge
