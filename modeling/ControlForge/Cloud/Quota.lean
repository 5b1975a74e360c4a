import ControlForge.Clock
import ControlForge.Foundation.FixedWindow
import ControlForge.Foundation.Table
import ControlForge.Foundation.Transaction
import ControlForge.Foundation.Transition

/-!
# The ingestion quota of the cloud runtime

A tenant and each of its devices have one row each that counts the events of
the current UTC minute.  An attempt upserts both rows in one batch; a trigger
aborts the batch when a count exceeds its limit.  The minute is that of the
clock the request has read, and requests arrive in any order.
-/

namespace ControlForge

namespace Cloud

namespace Quota

open FixedWindow (Accounts Counter)

/-! ## The table -/

inductive ScopeType where
  | tenant
  | device
deriving DecidableEq

/-- The key of a row: a tenant, or a device of a tenant. -/
structure Scope where
  tenantId : String
  scopeType : ScopeType
  scopeId : String
deriving DecidableEq

/-- A row of `tenant_ingestion_windows`. -/
structure WindowRow where
  scope : Scope
  windowStartedAt : Timestamp
  eventCount : Nat
  eventLimit : Nat
  updatedAt : Timestamp
deriving DecidableEq

def WindowRow.hasScope (scope : Scope) (row : WindowRow) : Bool :=
  row.scope = scope

def WindowRow.clash (left right : WindowRow) : Bool :=
  left.hasScope right.scope

abbrev Windows := Table WindowRow WindowRow.clash

structure Database where
  tenants : List String
  windows : Windows

inductive DatabaseError where
  | rateLimitExceeded
  | foreignKey
  | notUnique
deriving DecidableEq

def DatabaseError.message : DatabaseError → String
  | .rateLimitExceeded => "ingestion rate limit exceeded"
  | .foreignKey => "FOREIGN KEY constraint failed"
  | .notUnique => "UNIQUE constraint failed"

/-- Both triggers: `NEW.event_count > NEW.event_limit`. -/
def limitTrigger (new : WindowRow) : Option DatabaseError :=
  if new.eventLimit < new.eventCount then some .rateLimitExceeded else none

/-- `DO UPDATE SET`. -/
def WindowRow.merge (excluded stored : WindowRow) : WindowRow :=
  { stored with
    windowStartedAt := excluded.windowStartedAt
    eventCount :=
      if stored.windowStartedAt = excluded.windowStartedAt then
        stored.eventCount + excluded.eventCount
      else excluded.eventCount
    eventLimit := excluded.eventLimit
    updatedAt := excluded.updatedAt }

/-- The upsert.  Its insert trigger fires before the conflict is found. -/
def upsert (excluded : WindowRow) (windows : Windows) :
    Except DatabaseError Windows :=
  match limitTrigger excluded with
  | some failure => .error failure
  | none =>
      match windows.insert excluded with
      | some inserted => .ok inserted
      | none => do
          let (_, updated) ← windows.updateWhere (·.hasScope excluded.scope)
            excluded.merge (fun _ new => limitTrigger new) .notUnique
          return updated

/-! ## Attempts -/

/-- The two budgets of `operationalConfig`. -/
structure IngestionLimits where
  ingestEventsPerMinute : Nat
  deviceIngestEventsPerMinute : Nat
  tenantBounded : 100 ≤ ingestEventsPerMinute ∧ ingestEventsPerMinute ≤ 100000
  deviceBounded : 100 ≤ deviceIngestEventsPerMinute ∧
    deviceIngestEventsPerMinute ≤ 100000

structure Attempt where
  tenantId : String
  deviceId : String
  requestedEvents : Nat
  /-- The clock the request has read. -/
  now : Timestamp
deriving DecidableEq

inductive IngestionError where
  /-- `TenantIngestionLimitError`. -/
  | limited (retryAfterSeconds : Int)
  | database (failure : DatabaseError)
deriving DecidableEq

/-- `startedAt` of `minuteWindow`. -/
def minuteStart (now : Timestamp) : Timestamp :=
  now - now % seconds 60

/-- `retryAfterSeconds` of `minuteWindow`. -/
def retryAfterSeconds (now : Timestamp) : Int :=
  max 1 (60 - now % seconds 60 / seconds 1)

namespace Attempt

variable (attempt : Attempt)

def tenantScope : Scope := ⟨attempt.tenantId, .tenant, attempt.tenantId⟩

def deviceScope : Scope := ⟨attempt.tenantId, .device, attempt.deviceId⟩

/-- The values of `ingestionWindowStatement`. -/
def row (scope : Scope) (maximumEvents : Nat) : WindowRow where
  scope
  windowStartedAt := minuteStart attempt.now
  eventCount := attempt.requestedEvents
  eventLimit := maximumEvents
  updatedAt := attempt.now

/-- The size is within both budgets. -/
def Fits (limits : IngestionLimits) : Prop :=
  1 ≤ attempt.requestedEvents ∧
    attempt.requestedEvents ≤ limits.ingestEventsPerMinute ∧
    attempt.requestedEvents ≤ limits.deviceIngestEventsPerMinute

instance (limits : IngestionLimits) : Decidable (attempt.Fits limits) :=
  inferInstanceAs (Decidable (_ ∧ _))

/-- The batch of the two statements. -/
def batch (limits : IngestionLimits) (database : Database) :
    Except DatabaseError Windows := do
  if attempt.tenantId ∉ database.tenants then throw .foreignKey
  let windows ← upsert
    (attempt.row attempt.tenantScope limits.ingestEventsPerMinute)
    database.windows
  upsert (attempt.row attempt.deviceScope limits.deviceIngestEventsPerMinute)
    windows

/-- `enforceIngestionLimits`. -/
def enforceIngestionLimits (limits : IngestionLimits) (database : Database) :
    Except IngestionError Unit × Database :=
  if attempt.Fits limits then
    match attempt.batch limits database with
    | .ok windows => (.ok (), { database with windows })
    | .error .rateLimitExceeded =>
        (.error (.limited (retryAfterSeconds attempt.now)), database)
    | .error failure => (.error (.database failure), database)
  else (.error (.limited (retryAfterSeconds attempt.now)), database)

end Attempt

/-! ## Sequences of attempts -/

/-- An attempt and what came of it. -/
abbrev Label : Type := Attempt × Except IngestionError Unit

/-- Nothing has been counted yet. -/
def system (limits : IngestionLimits) : TransitionSystem Database Label where
  initial database := database.windows.rows = []
  step database label next :=
    label.1.enforceIngestionLimits limits database = (label.2, next)

def limitOf (limits : IngestionLimits) (scope : Scope) : Nat :=
  match scope.scopeType with
  | .tenant => limits.ingestEventsPerMinute
  | .device => limits.deviceIngestEventsPerMinute

/-- The admitted attempts of a scope: their minute and their size. -/
def history (scope : Scope) (labels : List Label) : List (Timestamp × Nat) :=
  labels.filterMap fun (attempt, outcome) =>
    match outcome with
    | .ok _ =>
        if attempt.tenantScope = scope ∨ attempt.deviceScope = scope then
          some (minuteStart attempt.now, attempt.requestedEvents)
        else none
    | .error _ => none

/-- The events admitted for a scope in a minute. -/
def admittedEvents (scope : Scope) (minute : Timestamp) (labels : List Label) :
    Nat :=
  FixedWindow.admitted minute (history scope labels)

/-- An attempt that reaches the database finds no later minute counted. -/
def InOrder (limits : IngestionLimits) (database : Database) (label : Label) :
    Prop :=
  label.1.Fits limits → ∀ row ∈ database.windows.rows,
    row.scope = label.1.tenantScope ∨ row.scope = label.1.deviceScope →
    row.windowStartedAt ≤ minuteStart label.1.now

/-! ## The rows as counters -/

/-- The counter of a scope. -/
def counterOf (scope : Scope) (windows : Windows) : Option (Counter Timestamp) :=
  (windows.rows.find? (·.hasScope scope)).map fun row =>
    ⟨row.windowStartedAt, row.eventCount⟩

theorem find?_map_of_scope {change : WindowRow → WindowRow}
    (same : ∀ row, (change row).scope = row.scope) (scope : Scope)
    (rows : List WindowRow) :
    (rows.map change).find? (·.hasScope scope) =
      (rows.find? (·.hasScope scope)).map change := by
  rw [List.find?_map]
  congr 2
  funext row
  rw [Function.comp_apply, WindowRow.hasScope, WindowRow.hasScope, same]

theorem limitTrigger_eq_none {row : WindowRow} :
    limitTrigger row = none ↔ row.eventCount ≤ row.eventLimit := by
  unfold limitTrigger
  split
  · next exceeds => simp [Nat.not_le_of_lt exceeds]
  · next fits => simp [Nat.le_of_not_lt fits]

/-- The statement admits its count to the counter of its scope, and leaves the
others. -/
theorem upsert_counters {excluded : WindowRow} {windows next : Windows}
    (upserted : upsert excluded windows = .ok next) :
    (∃ counter, FixedWindow.charge excluded.eventLimit
        (counterOf excluded.scope windows) excluded.windowStartedAt
        excluded.eventCount = some counter ∧
      counterOf excluded.scope next = some counter) ∧
    ∀ scope, scope ≠ excluded.scope →
      counterOf scope next = counterOf scope windows := by
  unfold upsert at upserted
  cases triggered : limitTrigger excluded with
  | some failure =>
      rw [triggered] at upserted
      cases upserted
  | none =>
      rw [triggered] at upserted
      have fits := limitTrigger_eq_none.mp triggered
      cases inserted : windows.insert excluded with
      | some table =>
          rw [inserted] at upserted
          cases upserted
          obtain ⟨noClash, rows⟩ := Table.insert_eq_some.mp inserted
          have missing : windows.rows.find? (·.hasScope excluded.scope) =
              none := by
            apply List.find?_eq_none.mpr
            intro row stored isScope
            have clash := noClash row stored
            rw [WindowRow.clash, isScope] at clash
            cases clash
          refine ⟨⟨⟨excluded.windowStartedAt, excluded.eventCount⟩, ?_, ?_⟩, ?_⟩
          · rw [counterOf, missing, FixedWindow.charge]
            exact if_pos fits
          · rw [counterOf, rows, List.find?_append, missing, Option.none_or]
            simp [WindowRow.hasScope]
          · intro scope other
            have notScope : excluded.hasScope scope = false := by
              simp [WindowRow.hasScope, Ne.symm other]
            rw [counterOf, counterOf, rows, List.find?_append,
              List.find?_cons_of_neg (by simp [notScope]), List.find?_nil,
              Option.or_none]
      | none =>
          rw [inserted] at upserted
          obtain ⟨⟨count, table⟩, updated, returned⟩ := bind_eq_ok.mp upserted
          cases returned
          obtain ⟨-, rows, guarded⟩ := Table.updateWhere_eq_ok.mp updated
          have keeps : ∀ row, (Table.applyWhere
              (·.hasScope excluded.scope) excluded.merge row).scope =
                row.scope := by
            intro row
            unfold Table.applyWhere
            split
            · rfl
            · rfl
          have found (scope : Scope) : counterOf scope next =
              ((windows.rows.find? (·.hasScope scope)).map
                (Table.applyWhere (·.hasScope excluded.scope)
                  excluded.merge)).map fun row =>
                    ⟨row.windowStartedAt, row.eventCount⟩ := by
            rw [counterOf, rows, find?_map_of_scope keeps]
          obtain ⟨stored, isStored, isScope⟩ :=
            Table.insert_eq_none.mp inserted
          constructor
          · cases lookup : windows.rows.find? (·.hasScope excluded.scope) with
            | none =>
                have missing := List.find?_eq_none.mp lookup stored isStored
                exact absurd isScope missing
            | some row =>
                have member := List.mem_of_find?_eq_some lookup
                have selected := List.find?_some lookup
                have allowed := limitTrigger_eq_none.mp
                  (guarded row member selected)
                refine ⟨⟨excluded.windowStartedAt,
                  (excluded.merge row).eventCount⟩, ?_, ?_⟩
                · rw [counterOf, lookup, FixedWindow.charge]
                  exact if_pos allowed
                · rw [found, lookup, Option.map_some, Option.map_some,
                    Table.applyWhere, if_pos selected]
                  rfl
          · intro scope other
            rw [found, counterOf]
            cases lookup : windows.rows.find? (·.hasScope scope) with
            | none => rfl
            | some row =>
                have isRow := List.find?_some lookup
                have unselected : row.hasScope excluded.scope = false := by
                  rw [WindowRow.hasScope, decide_eq_true_eq] at isRow
                  simp [WindowRow.hasScope, isRow, other]
                rw [Option.map_some, Option.map_some, Table.applyWhere,
                  if_neg (by simp [unselected])]
                rfl

/-! ## The batch -/

section Batch

variable {limits : IngestionLimits} {attempt : Attempt}
  {database : Database} {windows : Windows}

/-- The batch admits the attempt to both counters, and leaves the others. -/
theorem batch_counters (ran : attempt.batch limits database = .ok windows) :
    (∀ scope, scope = attempt.tenantScope ∨ scope = attempt.deviceScope →
      ∃ counter, FixedWindow.charge (limitOf limits scope)
          (counterOf scope database.windows) (minuteStart attempt.now)
          attempt.requestedEvents = some counter ∧
        counterOf scope windows = some counter) ∧
    ∀ scope, scope ≠ attempt.tenantScope → scope ≠ attempt.deviceScope →
      counterOf scope windows = counterOf scope database.windows := by
  unfold Attempt.batch at ran
  split at ran
  · cases ran
  · obtain ⟨middle, first, second⟩ := bind_eq_ok.mp ran
    obtain ⟨tenantAdmits, tenantKeeps⟩ := upsert_counters first
    obtain ⟨deviceAdmits, deviceKeeps⟩ := upsert_counters second
    have different : attempt.tenantScope ≠ attempt.deviceScope := by
      intro same
      cases congrArg Scope.scopeType same
    constructor
    · rintro scope (rfl | rfl)
      · obtain ⟨counter, admits, isCounter⟩ := tenantAdmits
        refine ⟨counter, admits, ?_⟩
        rw [deviceKeeps _ different]
        exact isCounter
      · obtain ⟨counter, admits, isCounter⟩ := deviceAdmits
        refine ⟨counter, ?_, isCounter⟩
        rw [← tenantKeeps _ (Ne.symm different)]
        exact admits
    · intro scope notTenant notDevice
      rw [deviceKeeps scope notDevice, tenantKeeps scope notTenant]

end Batch

theorem history_concat (scope : Scope) (labels : List Label)
    (label : Label) :
    history scope (labels ++ [label]) =
      history scope labels ++ history scope [label] :=
  List.filterMap_append

/-- What an attempt does: it is admitted by the batch, or changes nothing. -/
theorem step_cases {limits : IngestionLimits} {database next : Database}
    {label : Label} (step : (system limits).step database label next) :
    (label.2 = .ok () ∧ label.1.Fits limits ∧
      ∃ windows, label.1.batch limits database = .ok windows ∧
        next = { database with windows }) ∨
    ((∃ failure, label.2 = .error failure) ∧ next = database) := by
  obtain ⟨attempt, outcome⟩ := label
  change attempt.enforceIngestionLimits limits database = (outcome, next)
    at step
  unfold Attempt.enforceIngestionLimits at step
  split at step
  · next fits =>
      split at step
      · next windows ran =>
          cases step
          exact .inl ⟨rfl, fits, windows, ran, rfl⟩
      · cases step
        exact .inr ⟨⟨_, rfl⟩, rfl⟩
      · cases step
        exact .inr ⟨⟨_, rfl⟩, rfl⟩
  · cases step
    exact .inr ⟨⟨_, rfl⟩, rfl⟩

/-! ## The claim about every run -/

/-- Every counter accounts for what its scope has admitted. -/
def Accounted (limits : IngestionLimits) (labels : List Label)
    (database : Database) : Prop :=
  ∀ scope, Accounts (limitOf limits scope)
    (counterOf scope database.windows) (history scope labels)

theorem inOrder_counter {limits : IngestionLimits} {database : Database}
    {label : Label} (inOrder : InOrder limits database label)
    (fits : label.1.Fits limits) {scope : Scope}
    (isScope : scope = label.1.tenantScope ∨ scope = label.1.deviceScope) :
    FixedWindow.InOrder (counterOf scope database.windows)
      (minuteStart label.1.now) := by
  intro counter isCounter
  obtain ⟨row, found, rfl⟩ := Option.map_eq_some_iff.mp isCounter
  have stored := List.mem_of_find?_eq_some found
  have hasScope := List.find?_some found
  rw [WindowRow.hasScope, decide_eq_true_eq] at hasScope
  exact inOrder fits row stored (by rw [hasScope]; exact isScope)

theorem accounted_step {limits : IngestionLimits} {labels : List Label}
    {database next : Database} {label : Label}
    (accounted : Accounted limits labels database)
    (inOrder : InOrder limits database label)
    (step : (system limits).step database label next) :
    Accounted limits (labels ++ [label]) next := by
  intro scope
  rw [history_concat]
  rcases step_cases step with
    ⟨isOk, fits, windows, ran, rfl⟩ | ⟨⟨failure, isError⟩, rfl⟩
  · obtain ⟨admits, keeps⟩ := batch_counters ran
    by_cases isScope : scope = label.1.tenantScope ∨
        scope = label.1.deviceScope
    · have entry : history scope [label] =
          [(minuteStart label.1.now, label.1.requestedEvents)] := by
        obtain ⟨attempt, outcome⟩ := label
        have owns : attempt.tenantScope = scope ∨ attempt.deviceScope = scope :=
          isScope.imp Eq.symm Eq.symm
        cases isOk
        simp [history, owns]
      obtain ⟨counter, admitted, isCounter⟩ := admits scope isScope
      rw [entry, isCounter]
      exact (accounted scope).charge (inOrder_counter inOrder fits isScope)
        admitted
    · rw [not_or] at isScope
      have entry : history scope [label] = [] := by
        obtain ⟨attempt, outcome⟩ := label
        have owns : ¬ (attempt.tenantScope = scope ∨
            attempt.deviceScope = scope) := by
          rintro (rfl | rfl)
          · exact isScope.1 rfl
          · exact isScope.2 rfl
        cases isOk
        simp [history, owns]
      rw [entry, List.append_nil, keeps scope isScope.1 isScope.2]
      exact accounted scope
  · have entry : history scope [label] = [] := by
      obtain ⟨attempt, outcome⟩ := label
      cases isError
      rfl
    rw [entry, List.append_nil]
    exact accounted scope

/-- No tenant and no device exceeds its budget in a minute, and a rejected
attempt changes nothing. -/
structure Respected (limits : IngestionLimits) (labels : List Label)
    (database : Database) : Prop where
  tenant : ∀ tenantId minute,
    admittedEvents ⟨tenantId, .tenant, tenantId⟩ minute labels ≤
      limits.ingestEventsPerMinute
  device : ∀ tenantId deviceId minute,
    admittedEvents ⟨tenantId, .device, deviceId⟩ minute labels ≤
      limits.deviceIngestEventsPerMinute
  rejected : ∀ label next, (system limits).step database label next →
    label.2 ≠ .ok () → next.windows = database.windows

/-- The quota is respected in every run in which no attempt comes after a later
minute of its tenant or device. -/
theorem quota_respected {limits : IngestionLimits} {start database : Database}
    {labels : List Label} (isInitial : (system limits).initial start)
    (run : (system limits).RunWhere (InOrder limits) start labels database) :
    Respected limits labels database := by
  have initially : Accounted limits [] start := by
    intro scope
    change start.windows.rows = [] at isInitial
    rw [counterOf, isInitial]
    exact Accounts.initial _
  have accounted : Accounted limits labels database :=
    run.historyInvariant initially fun holds inOrder step =>
      accounted_step holds inOrder step
  refine ⟨fun tenantId minute => ?_, fun tenantId deviceId minute => ?_,
    fun label next step isRejected => ?_⟩
  · exact (accounted ⟨tenantId, .tenant, tenantId⟩).bounded minute
  · exact (accounted ⟨tenantId, .device, deviceId⟩).bounded minute
  · rcases step_cases step with ⟨isOk, -⟩ | ⟨-, rfl⟩
    · exact absurd isOk isRejected
    · rfl

/-! ### Attempts around the end of a minute -/

def sampleLimits : IngestionLimits where
  ingestEventsPerMinute := 150
  deviceIngestEventsPerMinute := 100
  tenantBounded := by decide
  deviceBounded := by decide

def sampleStart : Database where
  tenants := ["acme"]
  windows := .empty

def attemptAt (requestedEvents : Nat) (now : Timestamp) : Attempt :=
  ⟨"acme", "laptop", requestedEvents, now⟩

/-- The labels of the attempts, and the database after them. -/
def follow (limits : IngestionLimits) (database : Database) :
    List Attempt → List Label × Database
  | [] => ([], database)
  | attempt :: attempts =>
      let first := attempt.enforceIngestionLimits limits database
      let rest := follow limits first.2 attempts
      ((attempt, first.1) :: rest.1, rest.2)

instance (limits : IngestionLimits) (database : Database) (label : Label) :
    Decidable (InOrder limits database label) :=
  inferInstanceAs (Decidable (_ → ∀ row ∈ database.windows.rows, _ → _))

/-- Every attempt of the list comes in order. -/
def AllInOrder (limits : IngestionLimits) (database : Database) :
    List Attempt → Prop
  | [] => True
  | attempt :: attempts =>
      let first := attempt.enforceIngestionLimits limits database
      InOrder limits database (attempt, first.1) ∧
        AllInOrder limits first.2 attempts

theorem run_follow {limits : IngestionLimits} {database : Database}
    {attempts : List Attempt}
    (inOrder : AllInOrder limits database attempts) :
    (system limits).RunWhere (InOrder limits) database
      (follow limits database attempts).1
      (follow limits database attempts).2 := by
  induction attempts generalizing database with
  | nil => exact .nil
  | cons attempt attempts induction =>
      have first : (system limits).RunWhere (InOrder limits) database
          [(attempt, (attempt.enforceIngestionLimits limits database).1)]
          (attempt.enforceIngestionLimits limits database).2 :=
        .snoc .nil inOrder.1 rfl
      exact first.append (induction inOrder.2)

theorem run_follow_any (limits : IngestionLimits) (database : Database)
    (attempts : List Attempt) :
    (system limits).Run database (follow limits database attempts).1
      (follow limits database attempts).2 := by
  induction attempts generalizing database with
  | nil => exact .nil
  | cons attempt attempts induction =>
      have first : (system limits).Run database
          [(attempt, (attempt.enforceIngestionLimits limits database).1)]
          (attempt.enforceIngestionLimits limits database).2 :=
        .snoc .nil trivial rfl
      exact first.append (induction _)

/-- Two attempts in one minute, the second of which is rejected, and one in the
next. -/
def inOrderSample : List Attempt :=
  [attemptAt 80 (seconds 59), attemptAt 30 (seconds 59),
    attemptAt 100 (seconds 60)]

theorem quota_respected_sample :
    Respected sampleLimits (follow sampleLimits sampleStart inOrderSample).1
      (follow sampleLimits sampleStart inOrderSample).2 := by
  apply quota_respected
  · change sampleStart.windows.rows = []
    rfl
  · apply run_follow
    refine ⟨?_, ?_, ?_, trivial⟩
    · decide +kernel
    · decide +kernel
    · decide +kernel

/-- A request that has read the clock before the end of a minute, and comes
after one that has read it in the next, starts the minute again. -/
theorem quota_exceeded_out_of_order :
    ∃ start labels database,
      (system sampleLimits).initial start ∧
      (system sampleLimits).Run start labels database ∧
      ¬ Respected sampleLimits labels database := by
  refine ⟨sampleStart, _, _, rfl, run_follow_any sampleLimits sampleStart
    [attemptAt 80 (seconds 59), attemptAt 1 (seconds 60),
      attemptAt 80 (seconds 59)], fun respected => ?_⟩
  exact absurd (respected.tenant "acme" 0) (by decide +kernel)

end Quota

end Cloud

end ControlForge
