import ControlForge.Audit.Verification
import ControlForge.Foundation.Transition

/-!
# The log that appends build

Appends for any tenants, in any order, keep the entries in sequence order,
every tenant's chain valid, and one checkpoint for each entry.  Verification
of such a log succeeds, with the number of entries appended.
-/

namespace ControlForge

namespace Audit

/-- One append and what it returned. -/
structure AppendEvent where
  record : AuditRecord
  auditId : String
  checkpointId : String
  outcome : Except AuditError EntryRow

def emptyTables : Tables :=
  ⟨.empty, .empty⟩

def system (key : AuditKey) : TransitionSystem Log AppendEvent where
  initial log := log.tables = emptyTables ∧ log.lastSequence = 0
  step log event next :=
    (append key event.auditId event.checkpointId event.record).commit log =
      (event.outcome, next)

/-- The entry an append returned, if it is one of the tenant. -/
def AppendEvent.entry? (tenantId : String) (event : AppendEvent) :
    Option EntryRow :=
  match event.outcome with
  | .ok entry => if entry.tenantId = tenantId then some entry else none
  | .error _ => none

/-- The entries genuinely appended for a tenant. -/
def appendedEntries (trace : List AppendEvent) (tenantId : String) :
    List EntryRow :=
  trace.filterMap (AppendEvent.entry? tenantId)

/-! ## One append -/

theorem payloadIsObject_payloadText (payload : Dict) :
    ∃ members, Json.loads (payloadText payload) = some (.obj members) := by
  refine ⟨_, Json.loads_dumps false ?_⟩
  exact Json.wellFormed_sortKeys payload.json payload.wellFormed

/-- What a successful append did. -/
structure Appended (key : AuditKey) (event : AppendEvent) (log next : Log)
    (entry : EntryRow) : Prop where
  entryEq : entry = nextEntry key event.record event.auditId log
  entries : next.tables.entries.rows = log.tables.entries.rows ++ [entry]
  checkpoints : next.tables.checkpoints.rows =
    log.tables.checkpoints.rows ++ [checkpointRow key event.checkpointId entry]
  sequence : next.lastSequence = entry.sequence

theorem insertEntry_eq_ok {row : EntryRow} {log next : Log} {result : Unit}
    (inserted : insertEntry row log = .ok (result, next)) :
    next.tables.entries.rows = log.tables.entries.rows ++ [row] ∧
      next.tables.checkpoints = log.tables.checkpoints ∧
      next.lastSequence = row.sequence := by
  unfold insertEntry at inserted
  split at inserted
  · split at inserted
    · next entries stored =>
        cases inserted
        exact ⟨(Table.insert_eq_some.mp stored).2, rfl, rfl⟩
    · cases inserted
  · cases inserted

theorem insertCheckpoint_eq_ok {row : CheckpointRow} {log next : Log}
    {result : Unit}
    (inserted : insertCheckpoint row log = .ok (result, next)) :
    next.tables.checkpoints.rows = log.tables.checkpoints.rows ++ [row] ∧
      next.tables.entries = log.tables.entries ∧
      next.lastSequence = log.lastSequence := by
  unfold insertCheckpoint at inserted
  split at inserted
  · next checkpoints stored =>
      cases inserted
      exact ⟨(Table.insert_eq_some.mp stored).2, rfl, rfl⟩
  · cases inserted

theorem appended_of_ok {key : AuditKey} {event : AppendEvent} {log next : Log}
    {entry : EntryRow}
    (succeeded : append key event.auditId event.checkpointId event.record log =
      .ok (entry, next)) : Appended key event log next entry := by
  unfold append at succeeded
  obtain ⟨_, checked, check, afterCheck⟩ :=
    Transaction.run_bind_ok.mp succeeded
  obtain ⟨read, atRead, got, afterRead⟩ :=
    Transaction.run_bind_ok.mp afterCheck
  obtain ⟨_, middle, inserted, afterEntry⟩ :=
    Transaction.run_bind_ok.mp afterRead
  obtain ⟨_, last, checkpointed, returned⟩ :=
    Transaction.run_bind_ok.mp afterEntry
  have sameLog : checked = log := (Transaction.run_ofExcept_eq_ok.mp check).2
  have sameRead : (checked, checked) = (read, atRead) := Except.ok.inj got
  have isRead : read = log := (Prod.mk.inj sameRead).1.symm.trans sameLog
  have isAtRead : atRead = log := (Prod.mk.inj sameRead).2.symm.trans sameLog
  rw [isRead] at inserted checkpointed returned
  rw [isAtRead] at inserted
  have finished := Prod.mk.inj (Except.ok.inj returned)
  have entries := insertEntry_eq_ok inserted
  have checkpoints := insertCheckpoint_eq_ok checkpointed
  constructor
  · exact finished.1.symm
  · rw [← finished.2, ← finished.1, checkpoints.2.1, entries.1]
  · rw [← finished.2, ← finished.1, checkpoints.1, entries.2.1]
  · rw [← finished.2, ← finished.1, checkpoints.2.2, entries.2.2]

/-- A step either changes nothing or appends. -/
theorem step_cases {key : AuditKey} {log next : Log} {event : AppendEvent}
    (step : (system key).step log event next) :
    (∃ failure, event.outcome = .error failure ∧ next = log) ∨
      (event.outcome = .ok (nextEntry key event.record event.auditId log) ∧
        Appended key event log next
          (nextEntry key event.record event.auditId log)) := by
  have committed : (append key event.auditId event.checkpointId
      event.record).commit log = (event.outcome, next) := step
  cases outcome : event.outcome with
  | error failure =>
      rw [outcome] at committed
      exact .inl ⟨failure, rfl, Transaction.commit_error committed⟩
  | ok entry =>
      rw [outcome] at committed
      have appended := appended_of_ok (Transaction.commit_ok committed)
      have entryEq := appended.entryEq
      subst entryEq
      exact .inr ⟨rfl, appended⟩

/-! ## The chain of a tenant -/

theorem chainValid_append {key : AuditKey} {previous : Option String}
    {first second : List EntryRow} :
    ChainValid key previous (first ++ second) ↔
      ChainValid key previous first ∧
        ChainValid key (terminalHmac previous first) second := by
  induction first generalizing previous with
  | nil => simp [ChainValid, terminalHmac]
  | cons row first induction =>
      simp [ChainValid, terminalHmac, induction, and_assoc]

theorem terminalHmac_eq_getLast? (previous : Option String)
    (rows : List EntryRow) :
    terminalHmac previous rows =
      match rows.getLast? with
      | some row => some row.integrityHmac
      | none => previous := by
  induction rows generalizing previous with
  | nil => rfl
  | cons row rows induction =>
      rw [terminalHmac, induction]
      cases rows with
      | nil => rfl
      | cons next rest => rfl

/-- The rows of one tenant, in insertion order. -/
def tenantRows (tables : Tables) (tenantId : String) : List EntryRow :=
  tables.entries.rows.filter fun row => row.tenantId = tenantId

structure LogInvariant (key : AuditKey) (log : Log) : Prop where
  ordered : log.tables.entries.rows.Pairwise
    fun earlier later => earlier.sequence < later.sequence
  bounded : ∀ row ∈ log.tables.entries.rows, row.sequence ≤ log.lastSequence
  chain : ∀ tenantId, ChainValid key none (tenantRows log.tables tenantId)
  checkpoints : List.Forall₂
    (fun entry checkpoint =>
      checkpoint = checkpointRow key checkpoint.checkpointId entry)
    log.tables.entries.rows log.tables.checkpoints.rows

theorem tenantEntries_eq {key : AuditKey} {log : Log}
    (invariant : LogInvariant key log) (tenantId : String) :
    tenantEntries log.tables tenantId = tenantRows log.tables tenantId := by
  apply orderBy_of_sorted
  apply List.Pairwise.filter
  exact invariant.ordered.imp fun less => Int.le_of_lt less

theorem lastHmac_eq {key : AuditKey} {log : Log}
    (invariant : LogInvariant key log) (tenantId : String) :
    lastHmac log.tables tenantId =
      terminalHmac none (tenantRows log.tables tenantId) := by
  rw [lastHmac, tenantEntries_eq invariant, terminalHmac_eq_getLast?]
  cases (tenantRows log.tables tenantId).getLast? <;> rfl

theorem entryRow_content (key : AuditKey) (sequence : Int)
    (previous : Option String) (content : EntryContent) :
    (entryRow key sequence previous content).content = content := rfl

theorem logInvariant_step {key : AuditKey} {log next : Log}
    {event : AppendEvent} (invariant : LogInvariant key log)
    (step : (system key).step log event next) : LogInvariant key next := by
  rcases step_cases step with ⟨_, -, rfl⟩ | ⟨-, appended⟩
  · exact invariant
  · have newer : (nextEntry key event.record event.auditId log).sequence =
        log.lastSequence + 1 := rfl
    constructor
    · rw [appended.entries, List.pairwise_append]
      refine ⟨invariant.ordered, List.pairwise_singleton _ _, ?_⟩
      intro row member last lastMember
      have atMost := invariant.bounded row member
      rw [List.mem_singleton.mp lastMember, newer]
      omega
    · intro row member
      rw [appended.entries] at member
      rw [appended.sequence, newer]
      rcases List.mem_append.mp member with before | last
      · have atMost := invariant.bounded row before
        omega
      · rw [List.mem_singleton.mp last, newer]
    · intro tenantId
      unfold tenantRows
      rw [appended.entries, List.filter_append, chainValid_append]
      refine ⟨invariant.chain tenantId, ?_⟩
      by_cases own : event.record.tenantId = tenantId
      · have kept : ([nextEntry key event.record event.auditId log].filter
            fun row => row.tenantId = tenantId) =
            [nextEntry key event.record event.auditId log] := by
          simp [nextEntry, entryRow, recordContent, own]
        have link := lastHmac_eq invariant event.record.tenantId
        rw [kept]
        rw [own] at link
        refine ⟨⟨payloadIsObject_payloadText event.record.payload, ?_, ?_⟩,
          trivial⟩
        · rw [← own] at link ⊢
          exact link
        · rw [← own] at link ⊢
          unfold tenantRows at link
          rw [← link]
          rfl
      · have dropped : ([nextEntry key event.record event.auditId log].filter
            fun row => row.tenantId = tenantId) = [] := by
          simp [nextEntry, entryRow, recordContent, own]
        rw [dropped]
        trivial
    · rw [appended.entries, appended.checkpoints]
      apply List.rel_append invariant.checkpoints
      exact .cons rfl .nil

theorem logInvariant_run {key : AuditKey} {start finish : Log}
    {trace : List AppendEvent} (isInitial : (system key).initial start)
    (run : (system key).Run start trace finish) : LogInvariant key finish := by
  apply run.invariant (fun holds _ step => logInvariant_step holds step)
  obtain ⟨empty, -⟩ := isInitial
  constructor
  · simp [empty, emptyTables]
  · simp [empty, emptyTables]
  · intro tenantId
    simp [tenantRows, empty, emptyTables, ChainValid]
  · simp [empty, emptyTables]

/-! ## Completeness -/

/-- The rows of a tenant are the entries its appends returned. -/
theorem tenantRows_run {key : AuditKey} {start finish : Log}
    {trace : List AppendEvent} (isInitial : (system key).initial start)
    (run : (system key).Run start trace finish) (tenantId : String) :
    tenantRows finish.tables tenantId = appendedEntries trace tenantId := by
  apply run.historyInvariant
  · simp [tenantRows, isInitial.1, emptyTables, appendedEntries]
  · intro labels log event next same _ step
    rw [appendedEntries, List.filterMap_append, ← appendedEntries, ← same]
    rcases step_cases step with ⟨failure, refused, rfl⟩ | ⟨accepted, appended⟩
    · simp [AppendEvent.entry?, refused]
    · unfold tenantRows
      rw [appended.entries, List.filter_append]
      congr 1
      by_cases own : event.record.tenantId = tenantId
      · simp [AppendEvent.entry?, accepted, nextEntry, entryRow, recordContent,
          own]
      · simp [AppendEvent.entry?, accepted, nextEntry, entryRow, recordContent,
          own]

theorem tenantEntries_run {key : AuditKey} {start finish : Log}
    {trace : List AppendEvent} (isInitial : (system key).initial start)
    (run : (system key).Run start trace finish) (tenantId : String) :
    tenantEntries finish.tables tenantId = appendedEntries trace tenantId := by
  rw [tenantEntries_eq (logInvariant_run isInitial run),
    tenantRows_run isInitial run]

/-- The checkpoints of a tenant stand at its entries. -/
theorem checkpointSequences_eq {key : AuditKey} {entries : List EntryRow}
    {checkpoints : List CheckpointRow} (tenantId : String)
    (made : List.Forall₂
      (fun entry checkpoint =>
        checkpoint = checkpointRow key checkpoint.checkpointId entry)
      entries checkpoints) :
    (checkpoints.filter fun row => row.tenantId = tenantId).map
        CheckpointRow.throughSequence =
      (entries.filter fun row => row.tenantId = tenantId).map
        EntryRow.sequence := by
  induction made with
  | nil => rfl
  | @cons entry checkpoint entries checkpoints same made induction =>
      have sameTenant : checkpoint.tenantId = entry.tenantId := by rw [same]; rfl
      have sameSequence : checkpoint.throughSequence = entry.sequence := by
        rw [same]
        rfl
      by_cases own : entry.tenantId = tenantId
      · simp [sameTenant, own, sameSequence, induction]
      · simp [sameTenant, own, induction]

theorem tenantRows_sequences_sorted {key : AuditKey} {log : Log}
    (invariant : LogInvariant key log) (tenantId : String) :
    ((tenantRows log.tables tenantId).map EntryRow.sequence).Pairwise
      (· < ·) := by
  rw [List.pairwise_map]
  exact invariant.ordered.filter _

theorem tenantEntries_sequences_nodup {key : AuditKey} {log : Log}
    (invariant : LogInvariant key log) (tenantId : String) :
    ((tenantEntries log.tables tenantId).map EntryRow.sequence).Nodup := by
  rw [tenantEntries_eq invariant]
  exact (tenantRows_sequences_sorted invariant tenantId).imp
    fun less => Int.ne_of_lt less

theorem tenantCheckpoints_sequences {key : AuditKey} {log : Log}
    (invariant : LogInvariant key log) (tenantId : String) :
    (tenantCheckpoints log.tables tenantId).map
        CheckpointRow.throughSequence =
      (tenantEntries log.tables tenantId).map EntryRow.sequence := by
  have same := checkpointSequences_eq tenantId invariant.checkpoints
  rw [tenantEntries_eq invariant, tenantRows, ← same, tenantCheckpoints,
    orderBy_of_sorted]
  have sorted := tenantRows_sequences_sorted invariant tenantId
  rw [tenantRows, ← same, List.pairwise_map] at sorted
  exact sorted.imp fun less => Int.le_of_lt less

/-- A stored checkpoint is the one made for a stored entry. -/
theorem exists_entry_of_checkpoint {key : AuditKey} {entries : List EntryRow}
    {checkpoints : List CheckpointRow}
    (made : List.Forall₂
      (fun entry checkpoint =>
        checkpoint = checkpointRow key checkpoint.checkpointId entry)
      entries checkpoints)
    {checkpoint : CheckpointRow} (stored : checkpoint ∈ checkpoints) :
    ∃ entry ∈ entries,
      checkpoint = checkpointRow key checkpoint.checkpointId entry := by
  induction made with
  | nil => cases stored
  | cons same made induction =>
      rcases List.mem_cons.mp stored with isFirst | later
      · exact ⟨_, List.mem_cons_self, isFirst ▸ same⟩
      · obtain ⟨entry, member, same⟩ := induction later
        exact ⟨entry, List.mem_cons_of_mem _ member, same⟩

theorem verified_of_invariant {key : AuditKey} {log : Log}
    (invariant : LogInvariant key log) (tenantId : String) :
    Verified key log.tables tenantId := by
  constructor
  · rw [tenantEntries_eq invariant]
    exact invariant.chain tenantId
  · have same := congrArg List.length
      (tenantCheckpoints_sequences invariant tenantId)
    simpa only [List.length_map] using same
  · intro checkpoint member
    obtain ⟨stored, own⟩ := List.mem_filter.mp (mem_orderBy.mp member)
    obtain ⟨entry, entryStored, same⟩ :=
      exists_entry_of_checkpoint invariant.checkpoints stored
    have entryOwn : entry.tenantId = tenantId := by
      rw [same] at own
      exact of_decide_eq_true own
    constructor
    · rw [lookup_collected (tenantEntries_sequences_nodup invariant tenantId)]
      refine ⟨entry, ?_, ?_, ?_⟩
      · rw [tenantEntries_eq invariant]
        exact List.mem_filter.mpr ⟨entryStored, decide_eq_true entryOwn⟩
      · rw [same]
        rfl
      · rw [same]
        rfl
    · rw [same]
      rfl

end Audit

end ControlForge
