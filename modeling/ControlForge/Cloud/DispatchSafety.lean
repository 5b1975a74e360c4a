import ControlForge.Cloud.Dispatch

/-!
# Dispatched actions were handed out

A poll selects a page of device actions and then marks with a condition of its
own: every approved action whose target has the id of the device.  The two
agree as long as no action is approved in between, the page holds every
approved action, and what is marked is a device action that is not overdue.
-/

namespace ControlForge

namespace Cloud

namespace Dispatch

open Response (ActionStatus)

/-! ## The claim about a step -/

/-- A response to the device of the action contained it. -/
def WasHanded (labels : List (PoolLabel Input Effect)) (row : ActionRow) :
    Prop :=
  ∃ index input actions,
    PoolLabel.resume index input
      (.handed row.tenantId row.targetId actions) ∈ labels ∧
    row.handed ∈ actions

/-- The step is the poll by the device of the action that hands it out, before
its expiry. -/
def HandsOut (pool : Pool Database Process) (label : PoolLabel Input Effect)
    (row : ActionRow) : Prop :=
  row.targetType = .device ∧ pool.shared.clock < row.expiresAt ∧
    ∃ index input request actions,
      label = .resume index input
        (.handed row.tenantId row.targetId actions) ∧
      pool.process index =
        .poll request (.mark row.tenantId row.targetId actions) ∧
      request.collector.bound = some (row.tenantId, row.targetId) ∧
      row.handed ∈ actions

/-- The collector of a result is that of the device the action had been handed
out to, and the action is not overdue. -/
def AwaitsResult (labels : List (PoolLabel Input Effect)) (database : Database)
    (request : ResultRequest) (row : ActionRow) : Prop :=
  row.status = .dispatched ∧ row.targetType = .device ∧
    request.collector.bound = some (row.tenantId, row.targetId) ∧
    database.clock < row.expiresAt ∧ WasHanded labels row

structure Lawful (labels : List (PoolLabel Input Effect))
    (pool : Pool Database Process) (label : PoolLabel Input Effect)
    (next : Pool Database Process) : Prop where
  /-- A dispatched action was dispatched before, or is handed out now. -/
  marked : ∀ new ∈ next.shared.actions.rows, new.status = .dispatched →
    new ∈ pool.shared.actions.rows ∨
      ∃ old ∈ pool.shared.actions.rows, new = dispatched old ∧
        HandsOut pool label old
  /-- A result changes only an action that awaits it. -/
  recorded : ∀ index input effect request point,
    label = .resume index input effect →
    pool.process index = .result request point →
    ∀ new ∈ next.shared.actions.rows, new ∈ pool.shared.actions.rows ∨
      ∃ old ∈ pool.shared.actions.rows,
        (new.tenantId = old.tenantId ∧ new.actionId = old.actionId) ∧
          AwaitsResult labels pool.shared request old

/-! ## The condition -/

/-- No poll that will mark the action is between its statements. -/
def Unpolled (pool : Pool Database Process) (row : ActionRow) : Prop :=
  ∀ index request actions,
    pool.process index ≠ .poll request (.mark row.tenantId row.targetId actions)

/-- Every approved action the poll may select is among the oldest twenty. -/
def Fits (tenantId deviceId : String) (now : Timestamp)
    (rows : List ActionRow) : Prop :=
  ∀ row ∈ rows, isDispatchable tenantId deviceId now row = true →
    row.status = .approved →
    (rows.filter (isDispatchable tenantId deviceId now)).countP
      (fun other => other.proposedAt ≤ row.proposedAt) ≤ 20

def CarefulResume (pool : Pool Database Process) : Process → Prop
  | .poll _ (.select tenantId deviceId now) =>
      Fits tenantId deviceId now pool.shared.actions.rows
  | .poll _ (.mark tenantId deviceId _) =>
      ∀ row ∈ pool.shared.actions.rows, isMarked tenantId deviceId row = true →
        row.targetType = .device ∧ pool.shared.clock < row.expiresAt
  | .decision request (.write decidedAt) =>
      request.approve = true → ∀ row ∈ pool.shared.actions.rows,
        request.selects decidedAt row = true → Unpolled pool row
  | .proposal _ (.insert row) => row.status = .approved → Unpolled pool row
  | .result request (.write tenantId deviceId _) =>
      ∀ row ∈ pool.shared.actions.rows,
        request.selects tenantId deviceId row = true →
        pool.shared.clock < row.expiresAt
  | _ => True

def Careful (pool : Pool Database Process) :
    PoolLabel Input Effect → Prop
  | .resume index _ _ => CarefulResume pool (pool.process index)
  | _ => True

/-! ## What a resumption does -/

/-- The points that no assertion is about. -/
def Process.plain : Process → Bool
  | .poll _ (.select ..) | .poll _ (.mark ..) | .result _ (.write ..)
  | .proposal _ (.insert _) => false
  | _ => true

inductive Resumed (database : Database) :
    Process → Process → Database → Effect → Prop
  | quiet {process next : Process} {effect : Effect}
      (isPlain : next.plain = true) :
      Resumed database process next database effect
  | drafted {request : ProposalRequest} {actionId : String}
      {proposedAt expiresAt : Timestamp} :
      Resumed database (.proposal request (.check actionId proposedAt))
        (.proposal request (.insert (request.row actionId proposedAt expiresAt)))
        database .none
  | inserted {request : ProposalRequest} {row : ActionRow}
      {actions : Table ActionRow ActionRow.clash} {effect : Effect}
      (isInserted : database.actions.insert row = some actions) :
      Resumed database (.proposal request (.insert row))
        (.proposal request .finished) { database with actions } effect
  | decided {request : DecisionRequest} {decidedAt : Timestamp}
      {effect : Effect} :
      Resumed database (.decision request (.write decidedAt))
        (.decision request .finished)
        (database.update (request.selects decidedAt) (request.change decidedAt)
          fun _ => ⟨rfl, rfl⟩) effect
  | polled {request : PollRequest} {tenantId deviceId : String}
      (bound : request.collector.bound = some (tenantId, deviceId)) :
      Resumed database (.poll request .authorize)
        (.poll request (.select tenantId deviceId database.clock)) database .none
  | selected {request : PollRequest} {tenantId deviceId : String}
      {now : Timestamp} :
      Resumed database (.poll request (.select tenantId deviceId now))
        (.poll request (.mark tenantId deviceId
          ((dispatchable tenantId deviceId now database.actions.rows).map
            ActionRow.handed))) database .none
  | marked {request : PollRequest} {tenantId deviceId : String}
      {actions : List HandedAction} :
      Resumed database (.poll request (.mark tenantId deviceId actions))
        (.poll request .finished)
        (database.update (isMarked tenantId deviceId) dispatched
          fun _ => ⟨rfl, rfl⟩) (.handed tenantId deviceId actions)
  | authorized {request : ResultRequest} {tenantId deviceId : String}
      (bound : request.collector.bound = some (tenantId, deviceId)) :
      Resumed database (.result request .authorize)
        (.result request (.write tenantId deviceId database.clock)) database
        .none
  | recorded {request : ResultRequest} {tenantId deviceId : String}
      {completedAt : Timestamp} {effect : Effect} :
      Resumed database (.result request (.write tenantId deviceId completedAt))
        (.result request .finished)
        (database.update (request.selects tenantId deviceId)
          (request.change completedAt) fun _ => ⟨rfl, rfl⟩) effect

theorem resumed (input : Input) (process : Process) (database : Database) :
    Resumed database process (process.resume input database).1
      (process.resume input database).2.1
      (process.resume input database).2.2 := by
  cases process with
  | idle => exact .quiet rfl
  | proposal request point =>
      cases point with
      | findCase =>
          cases isOpen : input.openCase with
          | true => simpa [Process.resume, ProposalRequest.resume, isOpen] using .quiet rfl
          | false => simpa [Process.resume, ProposalRequest.resume, isOpen] using .quiet rfl
      | stamp => exact .quiet rfl
      | check actionId proposedAt =>
          simp only [Process.resume, ProposalRequest.resume]
          split
          · exact .quiet rfl
          · exact .drafted
      | insert row =>
          simp only [Process.resume, ProposalRequest.resume]
          split
          · exact .quiet rfl
          · next actions isInserted => exact .inserted isInserted
      | finished => exact .quiet rfl
  | decision request point =>
      cases point with
      | load =>
          simp only [Process.resume, DecisionRequest.resume]
          split
          · exact .quiet rfl
          · exact .quiet rfl
      | check action =>
          simp only [Process.resume, DecisionRequest.resume]
          split
          · exact .quiet rfl
          · split
            · exact .quiet rfl
            · split
              · exact .quiet rfl
              · exact .quiet rfl
      | stamp => exact .quiet rfl
      | write decidedAt =>
          simp only [Process.resume, DecisionRequest.resume]
          split
          · exact .decided
          · exact .decided
      | finished => exact .quiet rfl
  | poll request point =>
      cases point with
      | authorize =>
          simp only [Process.resume, PollRequest.resume]
          split
          · exact .quiet rfl
          · next tenantId deviceId bound =>
              split
              · exact .quiet rfl
              · split
                · exact .quiet rfl
                · next same =>
                    rw [not_not] at same
                    rw [same]
                    exact .polled bound
      | select tenantId deviceId now =>
          simp only [Process.resume, PollRequest.resume]
          split
          · exact .quiet rfl
          · exact .selected
      | mark tenantId deviceId actions => exact .marked
      | finished => exact .quiet rfl
  | result request point =>
      cases point with
      | authorize =>
          simp only [Process.resume, ResultRequest.resume]
          split
          · exact .quiet rfl
          · next tenantId deviceId bound => exact .authorized bound
      | write tenantId deviceId completedAt =>
          simp only [Process.resume, ResultRequest.resume]
          split
          · exact .recorded
          · exact .recorded
      | finished => exact .quiet rfl

/-! ## Rows after an update -/

section Update

variable {selected : ActionRow → Bool} {change : ActionRow → ActionRow}
  {rows : List ActionRow}

/-- A row after an update was there before, or is a changed one. -/
theorem mem_update {row : ActionRow}
    (member : row ∈ rows.map (Table.applyWhere selected change)) :
    (row ∈ rows ∧ selected row = false) ∨
      ∃ old ∈ rows, selected old = true ∧ row = change old := by
  obtain ⟨old, stored, changed⟩ := List.mem_map.mp member
  unfold Table.applyWhere at changed
  cases isSelected : selected old with
  | true =>
      rw [isSelected, if_pos rfl] at changed
      exact .inr ⟨old, stored, isSelected, changed.symm⟩
  | false =>
      rw [isSelected, if_neg nofun] at changed
      rw [← changed]
      exact .inl ⟨stored, isSelected⟩

/-- Rows of a status that the update does not set were there before. -/
theorem mem_update_of_status {status : ActionStatus}
    (other : ∀ row, selected row = true → (change row).status ≠ status)
    {row : ActionRow}
    (member : row ∈ rows.map (Table.applyWhere selected change))
    (isStatus : row.status = status) : row ∈ rows := by
  rcases mem_update member with ⟨stored, -⟩ | ⟨old, -, isSelected, rfl⟩
  · exact stored
  · exact absurd isStatus (other old isSelected)

end Update

theorem isMarked_iff {tenantId deviceId : String} {row : ActionRow} :
    isMarked tenantId deviceId row = true ↔
      (row.tenantId = tenantId ∧ row.targetId = deviceId) ∧
        row.status = .approved := by
  simp [isMarked, ActionRow.targets]

theorem isDispatchable_iff {tenantId deviceId : String} {now : Timestamp}
    {row : ActionRow} :
    isDispatchable tenantId deviceId now row = true ↔
      (((row.tenantId = tenantId ∧ row.targetId = deviceId) ∧
        row.targetType = .device) ∧
        (row.status = .approved ∨ row.status = .dispatched)) ∧
        now < row.expiresAt := by
  simp [isDispatchable, ActionRow.targets]

/-! ## The invariant -/

/-- What a suspended request relies on. -/
def Suspended (database : Database) : Process → Prop
  | .poll request (.select tenantId deviceId now) =>
      request.collector.bound = some (tenantId, deviceId) ∧
        now ≤ database.clock
  | .poll request (.mark tenantId deviceId actions) =>
      request.collector.bound = some (tenantId, deviceId) ∧
        ∀ row ∈ database.actions.rows, isMarked tenantId deviceId row = true →
          row.targetType = .device → database.clock < row.expiresAt →
          row.handed ∈ actions
  | .result request (.write tenantId deviceId _) =>
      request.collector.bound = some (tenantId, deviceId)
  | .proposal _ (.insert row) => row.status ≠ .dispatched
  | _ => True

theorem suspended_of_plain {database : Database} {process : Process}
    (isPlain : process.plain = true) : Suspended database process := by
  cases process with
  | idle => trivial
  | proposal request point => cases point <;> trivial
  | decision request point => trivial
  | poll request point => cases point <;> trivial
  | result request point => cases point <;> trivial

def assertions : Procedure.Assertions Database Process
    (PoolLabel Input Effect) where
  shared labels database := ∀ row ∈ database.actions.rows,
    row.status = .dispatched → WasHanded labels row
  process := Suspended
  pair _ _ _ := True

/-- Time passes, and no action is approved that a poll will mark. -/
def Guarantee (database next : Database) (process : Process) : Prop :=
  database.clock ≤ next.clock ∧
    ∀ request tenantId deviceId actions,
      process = .poll request (.mark tenantId deviceId actions) →
      ∀ row ∈ next.actions.rows, isMarked tenantId deviceId row = true →
        row ∈ database.actions.rows

theorem Guarantee.refl (database : Database) (process : Process) :
    Guarantee database database process :=
  ⟨le_refl _, fun _ _ _ _ _ _ stored _ => stored⟩

/-- An update that approves nothing guarantees it to every process. -/
theorem Guarantee.of_update {selected : ActionRow → Bool}
    {change : ActionRow → ActionRow}
    {same : ∀ row, (change row).tenantId = row.tenantId ∧
      (change row).actionId = row.actionId} {database : Database}
    (other : ∀ row, selected row = true → (change row).status ≠ .approved)
    (process : Process) :
    Guarantee database (database.update selected change same) process := by
  refine ⟨le_refl _, fun _ _ _ _ _ row member isApproved => ?_⟩
  exact mem_update_of_status other member (isMarked_iff.mp isApproved).2

theorem suspended_stable {database next : Database} {process : Process}
    (guaranteed : Guarantee database next process)
    (suspended : Suspended database process) : Suspended next process := by
  obtain ⟨later, unmarked⟩ := guaranteed
  cases process with
  | idle => trivial
  | proposal request point => cases point <;> exact suspended
  | decision request point => trivial
  | result request point => cases point <;> exact suspended
  | poll request point =>
      cases point with
      | authorize => trivial
      | finished => trivial
      | select tenantId deviceId now =>
          exact ⟨suspended.1, le_trans suspended.2 later⟩
      | mark tenantId deviceId actions =>
          refine ⟨suspended.1, fun row stored isApproved isDevice live => ?_⟩
          have before := unmarked _ _ _ _ rfl row stored isApproved
          exact suspended.2 row before isApproved isDevice
            (lt_of_le_of_lt later live)

theorem WasHanded.mono {labels : List (PoolLabel Input Effect)}
    {row : ActionRow} (handed : WasHanded labels row)
    (more : List (PoolLabel Input Effect)) : WasHanded (labels ++ more) row := by
  obtain ⟨index, input, actions, member, isHanded⟩ := handed
  exact ⟨index, input, actions, List.mem_append_left _ member, isHanded⟩

/-- The page of a poll holds every approved device action. -/
theorem fits_selected {tenantId deviceId : String} {now : Timestamp}
    {rows : List ActionRow} (fits : Fits tenantId deviceId now rows)
    {row : ActionRow} (stored : row ∈ rows)
    (isApproved : isMarked tenantId deviceId row = true)
    (isDevice : row.targetType = .device) (live : now < row.expiresAt) :
    row.handed ∈
      (dispatchable tenantId deviceId now rows).map ActionRow.handed := by
  obtain ⟨targets, approved⟩ := isMarked_iff.mp isApproved
  have isSelected : isDispatchable tenantId deviceId now row = true :=
    isDispatchable_iff.mpr ⟨⟨⟨targets, isDevice⟩, .inl approved⟩, live⟩
  apply List.mem_map_of_mem
  apply mem_take_orderBy
  · exact List.mem_filter.mpr ⟨stored, isSelected⟩
  · exact fits row stored isSelected approved

/-- The label of the step hands the action out. -/
theorem wasHanded_now {labels : List (PoolLabel Input Effect)} {index : Nat}
    {input : Input} {row : ActionRow} {actions : List HandedAction}
    (handed : row.handed ∈ actions) :
    WasHanded (labels ++
      [.resume index input (.handed row.tenantId row.targetId actions)]) row :=
  ⟨index, input, actions, List.mem_append_right _ (List.mem_singleton_self _),
    handed⟩

/-- Under the condition, what a poll marks it hands out. -/
theorem marked_handed {database : Database} {request : PollRequest}
    {tenantId deviceId : String} {actions : List HandedAction}
    (suspended : Suspended database
      (.poll request (.mark tenantId deviceId actions)))
    (careful : ∀ row ∈ database.actions.rows,
      isMarked tenantId deviceId row = true →
      row.targetType = .device ∧ database.clock < row.expiresAt)
    {row : ActionRow} (stored : row ∈ database.actions.rows)
    (isApproved : isMarked tenantId deviceId row = true) :
    row.handed ∈ actions := by
  obtain ⟨isDevice, live⟩ := careful row stored isApproved
  exact suspended.2 row stored isApproved isDevice live

theorem row_not_dispatched {request : ProposalRequest} {actionId : String}
    {proposedAt expiresAt : Timestamp} :
    (request.row actionId proposedAt expiresAt).status ≠ .dispatched := by
  change (if _ then ActionStatus.approved else .proposed) ≠ .dispatched
  split
  · nofun
  · nofun

theorem dispatched_not_approved {selected : ActionRow → Bool}
    (row : ActionRow) (_ : selected row = true) :
    (dispatched row).status ≠ .approved := by
  change ActionStatus.dispatched ≠ .approved
  nofun

theorem decided_not_dispatched {request : DecisionRequest}
    {decidedAt : Timestamp} {row : ActionRow} :
    (request.change decidedAt row).status ≠ .dispatched := by
  change (if _ then ActionStatus.approved else .rejected) ≠ .dispatched
  split
  · nofun
  · nofun

theorem decided_approved {request : DecisionRequest} {decidedAt : Timestamp}
    {row : ActionRow}
    (approved : (request.change decidedAt row).status = .approved) :
    request.approve = true := by
  change (if _ then ActionStatus.approved else .rejected) = .approved
    at approved
  split at approved
  · next approves => exact approves
  · cases approved

theorem recorded_status {request : ResultRequest} {completedAt : Timestamp}
    {row : ActionRow} :
    (request.change completedAt row).status ≠ .dispatched ∧
      (request.change completedAt row).status ≠ .approved := by
  change (if _ then ActionStatus.succeeded else .failed) ≠ .dispatched ∧
    (if _ then ActionStatus.succeeded else .failed) ≠ .approved
  split
  · exact ⟨nofun, nofun⟩
  · exact ⟨nofun, nofun⟩

theorem owner {labels : List (PoolLabel Input Effect)}
    {pool : Pool Database Process} {index : Nat} {input : Input}
    {point : Process} {shared : Database} {effect : Effect}
    (holds : assertions.Hold labels pool)
    (careful : CarefulResume pool (pool.process index))
    (moved : Resumed pool.shared (pool.process index) point shared effect) :
    assertions.shared (labels ++ [.resume index input effect]) shared ∧
      Suspended shared point ∧
      ∀ other, other ≠ index →
        Guarantee pool.shared shared (pool.process other) := by
  have before : ∀ label, ∀ row ∈ pool.shared.actions.rows,
      row.status = .dispatched → WasHanded (labels ++ [label]) row :=
    fun label row stored isDispatched =>
      (holds.shared row stored isDispatched).mono _
  have suspended := holds.process index
  generalize pool.process index = process at careful moved suspended
  cases moved with
  | quiet isPlain =>
      exact ⟨before _, suspended_of_plain isPlain,
        fun other _ => Guarantee.refl _ _⟩
  | drafted =>
      exact ⟨before _, row_not_dispatched, fun other _ => Guarantee.refl _ _⟩
  | @inserted request row actions _ isInserted =>
      obtain ⟨-, rows⟩ := Table.insert_eq_some.mp isInserted
      refine ⟨?_, trivial, fun other _ => ⟨le_refl _, ?_⟩⟩
      · intro added member isDispatched
        change added ∈ actions.rows at member
        rw [rows, List.mem_append, List.mem_singleton] at member
        rcases member with stored | rfl
        · exact before _ added stored isDispatched
        · exact absurd isDispatched suspended
      · intro request tenantId deviceId handed isPoll added member isApproved
        change added ∈ actions.rows at member
        rw [rows, List.mem_append, List.mem_singleton] at member
        rcases member with stored | rfl
        · exact stored
        · obtain ⟨⟨rfl, rfl⟩, approved⟩ := isMarked_iff.mp isApproved
          exact absurd isPoll (careful approved other request handed)
  | @decided request decidedAt =>
      refine ⟨?_, trivial, fun other _ => ⟨le_refl _, ?_⟩⟩
      · intro row member isDispatched
        apply before _ row _ isDispatched
        exact mem_update_of_status (fun _ _ => decided_not_dispatched) member
          isDispatched
      · intro poll tenantId deviceId handed isPoll row member isApproved
        rcases mem_update member with ⟨stored, -⟩ | ⟨old, stored, chosen, rfl⟩
        · exact stored
        · obtain ⟨⟨rfl, rfl⟩, approved⟩ := isMarked_iff.mp isApproved
          have approves := decided_approved approved
          exact absurd isPoll (careful approves old stored chosen other poll handed)
  | polled bound =>
      exact ⟨before _, ⟨bound, le_refl _⟩, fun other _ => Guarantee.refl _ _⟩
  | selected =>
      refine ⟨before _, ⟨suspended.1, ?_⟩, fun other _ => Guarantee.refl _ _⟩
      intro row stored isApproved isDevice live
      exact fits_selected careful stored isApproved isDevice
        (lt_of_le_of_lt suspended.2 live)
  | @marked request tenantId deviceId actions =>
      refine ⟨?_, trivial, fun other _ =>
        Guarantee.of_update dispatched_not_approved _⟩
      intro row member isDispatched
      rcases mem_update member with ⟨stored, -⟩ | ⟨old, stored, isMarked, rfl⟩
      · exact before _ row stored isDispatched
      · have handed := marked_handed suspended careful stored isMarked
        obtain ⟨⟨rfl, rfl⟩, -⟩ := isMarked_iff.mp isMarked
        exact @wasHanded_now _ _ _ (dispatched old) _ handed
  | authorized bound =>
      exact ⟨before _, bound, fun other _ => Guarantee.refl _ _⟩
  | recorded =>
      refine ⟨?_, trivial, fun other _ => Guarantee.of_update ?_ _⟩
      · intro row member isDispatched
        apply before _ row _ isDispatched
        exact mem_update_of_status (fun _ _ => recorded_status.1) member
          isDispatched
      · exact fun _ _ => recorded_status.2

theorem outside_guarantee {database next : Database}
    (changed : Outside database next) (process : Process) :
    Guarantee database next process := by
  cases changed with
  | tick later => exact ⟨later, fun _ _ _ _ _ _ stored _ => stored⟩
  | expire read =>
      apply Guarantee.of_update
      intro row _
      change ActionStatus.expired ≠ .approved
      nofun

theorem outside_dispatched {database next : Database}
    (changed : Outside database next) :
    ∀ row ∈ next.actions.rows, row.status = .dispatched →
      row ∈ database.actions.rows := by
  intro row member isDispatched
  cases changed with
  | tick later => exact member
  | expire read =>
      refine mem_update_of_status (fun other _ => ?_) member isDispatched
      change ActionStatus.expired ≠ .dispatched
      nofun

theorem sound : assertions.Sound procedure Careful Guarantee where
  symm _ := trivial
  idle _ := trivial
  idlePair _ _ := trivial
  starts shared point isStart := by
    refine ⟨?_, fun _ => trivial⟩
    cases isStart <;> trivial
  unseen holds _ row stored isDispatched :=
    (holds row stored isDispatched).mono _
  owner := by
    intro labels pool index input point shared effect holds careful moved
    have resumption := resumed input (pool.process index) pool.shared
    change (pool.process index).resume input pool.shared = _ at moved
    rw [moved] at resumption
    obtain ⟨sharedHolds, pointHolds, others⟩ := owner holds careful resumption
    exact ⟨sharedHolds, pointHolds, fun other isOther =>
      ⟨others other isOther, trivial⟩⟩
  outside holds changed := by
    refine ⟨fun row member isDispatched => ?_, outside_guarantee changed⟩
    exact holds row (outside_dispatched changed row member isDispatched)
      isDispatched
  refl := Guarantee.refl
  stable := suspended_stable
  stablePair _ _ _ := trivial

/-! ## The claim about every run -/

/-- The statement of a step that marks actions. -/
theorem lawful_marked {labels : List (PoolLabel Input Effect)}
    {pool next : Pool Database Process} {label : PoolLabel Input Effect}
    (holds : assertions.Hold labels pool) (careful : Careful pool label)
    (step : system.step pool label next) :
    ∀ new ∈ next.shared.actions.rows, new.status = .dispatched →
      new ∈ pool.shared.actions.rows ∨
        ∃ old ∈ pool.shared.actions.rows, new = dispatched old ∧
          HandsOut pool label old := by
  intro new member isDispatched
  cases step with
  | begin free isStart => exact .inl member
  | drop index => exact .inl member
  | outside changed =>
      exact .inl (outside_dispatched changed new member isDispatched)
  | @resume index input point shared effect moved =>
      have resumption := resumed input (pool.process index) pool.shared
      change (pool.process index).resume input pool.shared = _ at moved
      rw [moved] at resumption
      change CarefulResume pool (pool.process index) at careful
      have suspended := holds.process index
      change new ∈ shared.actions.rows at member
      generalize isProcess : pool.process index = process
        at careful resumption suspended
      cases resumption with
      | quiet isPlain => exact .inl member
      | drafted => exact .inl member
      | polled bound => exact .inl member
      | selected => exact .inl member
      | authorized bound => exact .inl member
      | inserted isInserted =>
          obtain ⟨-, rows⟩ := Table.insert_eq_some.mp isInserted
          rw [rows, List.mem_append, List.mem_singleton] at member
          rcases member with stored | rfl
          · exact .inl stored
          · exact absurd isDispatched suspended
      | decided =>
          exact .inl (mem_update_of_status
            (fun _ _ => decided_not_dispatched) member isDispatched)
      | recorded =>
          exact .inl (mem_update_of_status
            (fun _ _ => recorded_status.1) member isDispatched)
      | @marked request tenantId deviceId actions =>
          rcases mem_update member with
            ⟨stored, -⟩ | ⟨old, stored, chosen, rfl⟩
          · exact .inl stored
          · have handed := marked_handed suspended careful stored chosen
            obtain ⟨isDevice, live⟩ := careful old stored chosen
            obtain ⟨⟨rfl, rfl⟩, -⟩ := isMarked_iff.mp chosen
            exact .inr ⟨old, stored, rfl, isDevice, live, index, input, request,
              actions, rfl, isProcess, suspended.1, handed⟩

theorem resultSelects_iff {request : ResultRequest}
    {tenantId deviceId : String} {row : ActionRow} :
    request.selects tenantId deviceId row = true ↔
      (((row.tenantId = tenantId ∧ row.actionId = request.actionId) ∧
        row.targetType = .device) ∧ row.targetId = deviceId) ∧
        row.status = .dispatched := by
  simp [ResultRequest.selects, ActionRow.hasKey]

/-- The statement of a result. -/
theorem lawful_recorded {labels : List (PoolLabel Input Effect)}
    {pool next : Pool Database Process} {label : PoolLabel Input Effect}
    (holds : assertions.Hold labels pool) (careful : Careful pool label)
    (step : system.step pool label next) {index : Nat} {input : Input}
    {effect : Effect} {request : ResultRequest} {point : ResultPoint}
    (isLabel : label = .resume index input effect)
    (isProcess : pool.process index = .result request point) :
    ∀ new ∈ next.shared.actions.rows, new ∈ pool.shared.actions.rows ∨
      ∃ old ∈ pool.shared.actions.rows,
        (new.tenantId = old.tenantId ∧ new.actionId = old.actionId) ∧
          AwaitsResult labels pool.shared request old := by
  subst isLabel
  intro new member
  cases step with
  | @resume _ _ reached shared _ moved =>
      have resumption := resumed input (pool.process index) pool.shared
      change (pool.process index).resume input pool.shared = _ at moved
      rw [moved, isProcess] at resumption
      change CarefulResume pool (pool.process index) at careful
      rw [isProcess] at careful
      have suspended := holds.process index
      rw [isProcess] at suspended
      change new ∈ shared.actions.rows at member
      cases resumption with
      | quiet isPlain => exact .inl member
      | authorized bound => exact .inl member
      | recorded =>
          rcases mem_update member with
            ⟨stored, -⟩ | ⟨old, stored, chosen, rfl⟩
          · exact .inl stored
          · have live := careful old stored chosen
            obtain ⟨⟨⟨⟨rfl, -⟩, isDevice⟩, rfl⟩, isDispatched⟩ :=
              resultSelects_iff.mp chosen
            exact .inr ⟨old, stored, ⟨rfl, rfl⟩, isDispatched, isDevice,
              suspended, live, holds.shared old stored isDispatched⟩

/-- In every run whose steps meet the condition, only what a poll hands out
becomes dispatched, and a result changes only what was handed out to its
device. -/
theorem dispatched_handed_out {start pool next : Pool Database Process}
    {labels : List (PoolLabel Input Effect)} {label : PoolLabel Input Effect}
    (isInitial : system.initial start)
    (run : system.RunWhere Careful start labels pool)
    (careful : Careful pool label) (step : system.step pool label next) :
    Lawful labels pool label next := by
  have holds : assertions.Hold labels pool := by
    refine Procedure.Assertions.Hold.run sound (fun shared isEmpty => ?_) isInitial run
    intro row stored
    rw [isEmpty] at stored
    cases stored
  constructor
  · exact lawful_marked holds careful step
  · intro index input effect request point isLabel isProcess
    exact lawful_recorded holds careful step isLabel isProcess

/-! ### A run, and one in which an action is approved in between -/

def sampleStart : Pool Database Process where
  shared := ⟨.empty, 0⟩
  process _ := .idle

theorem sampleStart_initial : system.initial sampleStart :=
  ⟨rfl, fun _ => rfl⟩

/-- Diagnostics need no approval. -/
def diagnostics : ProposalRequest where
  tenantId := "acme"
  principalId := "ana"
  caseId := "case-1"
  proposesActive := false
  proposal := ⟨.collectDiagnostics, .device, "laptop", "collect the logs", 60,
    rfl, by decide⟩

def resumeAt (index : Nat) (uuid : String) : Procedure.Command Process Input :=
  .resume index ⟨uuid, true⟩

def proposeAt (index : Nat) (actionId : String) :
    List (Procedure.Command Process Input) :=
  [.begin index (.proposal diagnostics .findCase), resumeAt index "",
    resumeAt index actionId, resumeAt index "", resumeAt index ""]

def pollAt (index : Nat) : List (Procedure.Command Process Input) :=
  [.begin index (.poll ⟨⟨some "acme", some "laptop"⟩, some "laptop"⟩ .authorize),
    resumeAt index "", resumeAt index ""]

/-- An action is proposed, and a poll selects it. -/
def selected : List (PoolLabel Input Effect) × Pool Database Process :=
  procedure.follow sampleStart (proposeAt 0 "action-1" ++ pollAt 1)

theorem selected_run :
    system.RunWhere Careful sampleStart selected.1 selected.2 := by
  apply Procedure.run_follow
  refine ⟨⟨rfl, .proposal _⟩, trivial, ?_⟩
  iterate 3 refine ⟨trivial, trivial, ?_⟩
  refine ⟨trivial, ?_, ⟨rfl, .poll _⟩, trivial, trivial, trivial, trivial, ?_,
    trivial⟩
  · intro _ index request actions isPoll
    by_cases isProposal : index = 0
    · subst isProposal
      cases isPoll
    · iterate 4 rw [Procedure.perform_of_ne _ isProposal] at isPoll
      cases isPoll
  · intro row stored _ _
    rw [show row = _ from List.mem_singleton.mp stored]
    decide +kernel

/-- The poll then marks it, and hands it out. -/
theorem dispatched_handed_out_selected :
    Lawful selected.1 selected.2
      (procedure.perform selected.2 (resumeAt 1 "")).1
      (procedure.perform selected.2 (resumeAt 1 "")).2 ∧
    ∃ row ∈ (procedure.perform selected.2
      (resumeAt 1 "")).2.shared.actions.rows, row.status = .dispatched := by
  refine ⟨dispatched_handed_out sampleStart_initial selected_run ?_
    (Procedure.step_perform trivial), ?_⟩
  · intro row stored _
    rw [show row = _ from List.mem_singleton.mp stored]
    decide +kernel
  · exact ⟨_, List.mem_singleton_self _, by decide +kernel⟩

/-- Another action is proposed, and approved by policy, before the poll
marks. -/
def overtaken : List (PoolLabel Input Effect) × Pool Database Process :=
  procedure.follow selected.2 (proposeAt 2 "action-2")

/-- The second action is then dispatched although no response contains it. -/
theorem dispatched_not_handed_out :
    ∃ start labels pool label next,
      system.initial start ∧ system.Run start labels pool ∧
      system.step pool label next ∧ ¬ Lawful labels pool label next := by
  have before : system.Run sampleStart selected.1 selected.2 :=
    selected_run.weaken fun _ _ _ => trivial
  have between : system.Run selected.2 overtaken.1 overtaken.2 := by
    apply Procedure.run_follow
    refine ⟨⟨rfl, .proposal _⟩, trivial, ?_⟩
    iterate 4 refine ⟨trivial, trivial, ?_⟩
    trivial
  refine ⟨sampleStart, selected.1 ++ overtaken.1, overtaken.2, _, _,
    sampleStart_initial, before.append between,
    @Procedure.step_perform _ _ _ _ _ _ (resumeAt 1 "") trivial,
    fun lawful => ?_⟩
  have isLabel : (procedure.perform overtaken.2 (resumeAt 1 "")).1 =
      .resume 1 ⟨"", true⟩ (.handed "acme" "laptop"
        [(diagnostics.row "action-1" 0 (seconds 3600)).handed]) := by
    have effect : (Process.resume ⟨"", true⟩ (overtaken.2.process 1)
        overtaken.2.shared).2.2 = .handed "acme" "laptop"
          [(diagnostics.row "action-1" 0 (seconds 3600)).handed] := by
      decide +kernel
    rw [← effect]
    rfl
  have stored : dispatched (diagnostics.row "action-2" 0 (seconds 3600)) ∈
      (procedure.perform overtaken.2
        (resumeAt 1 "")).2.shared.actions.rows := by
    decide +kernel
  have notBefore : dispatched (diagnostics.row "action-2" 0 (seconds 3600)) ∉
      overtaken.2.shared.actions.rows := by
    decide +kernel
  rcases lawful.marked _ stored rfl with
    already | ⟨old, -, isNew, -, -, index, input, request, actions, same, -, -,
      handed⟩
  · exact notBefore already
  · rw [isLabel] at same
    obtain ⟨-, -, effects⟩ := PoolLabel.resume.inj same
    obtain ⟨-, -, isActions⟩ := Effect.handed.inj effects
    rw [← isActions, List.mem_singleton] at handed
    have first : old.actionId = "action-1" :=
      congrArg HandedAction.actionId handed
    have second : "action-2" = old.actionId := congrArg ActionRow.actionId isNew
    rw [first] at second
    exact absurd second (by decide)

end Dispatch

end Cloud

end ControlForge
