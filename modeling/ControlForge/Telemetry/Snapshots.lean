import ControlForge.Foundation.Transition
import ControlForge.Telemetry.Spool

/-!
# Coalescing of control snapshots

An iteration of the agent spools its telemetry together with a snapshot of the
endpoint controls, and leaves out a snapshot that repeats the last one.  The
operations of the spool are taken here in any order: collections, deliveries,
acknowledgements, failures and restarts.
-/

namespace ControlForge

namespace Telemetry

namespace Snapshots

/-- The arguments of `enqueue_collected` and the batch id it draws. -/
structure Collection where
  batchId : String
  controlEvents : List SecurityEvent
  telemetryEvents : List SecurityEvent
  fingerprint : String
  intervalSeconds : Int
  now : Timestamp

/-- What `enqueue_collected` returns. -/
structure Outcome where
  batchId : Option String
  controlDue : Bool
deriving DecidableEq

/-- `selected_events` of a call. -/
def Collection.selected (call : Collection) (due : Bool) :
    List SecurityEvent :=
  Spool.selectedEvents due call.controlEvents call.telemetryEvents

def Collection.due (call : Collection) (spool : Spool) : Bool :=
  spool.controlDue call.fingerprint call.intervalSeconds call.now

def Collection.outcome (call : Collection) (spool : Spool) : Outcome :=
  if call.selected (call.due spool) = [] then ⟨none, false⟩
  else ⟨some call.batchId, call.due spool⟩

/-- `enqueue_collected` with the check of its interval and its result. -/
def collect (call : Collection) (spool : Spool) : Option (Outcome × Spool) :=
  if 60 ≤ call.intervalSeconds ∧ call.intervalSeconds ≤ 86400 then
    (spool.enqueueCollected call.batchId call.controlEvents
      call.telemetryEvents call.fingerprint call.intervalSeconds
      call.now).map fun next => (call.outcome spool, next)
  else none

inductive Label where
  | collected (call : Collection) (outcome : Outcome)
  | enqueued (batchId : String) (events : List SecurityEvent)
  /-- A flush reads the batches it delivers. -/
  | read (batches : List (String × List SecurityEvent))
  | acknowledged (batchId : String)
  | failed (batchId error : String)
  | retryRecorded
  | retryCleared
  /-- A restart, or an operation that raised and was rolled back. -/
  | restarted

inductive Step : Spool → Label → Spool → Prop
  | collect {spool next : Spool} {call : Collection} {outcome : Outcome}
      (collected : collect call spool = some (outcome, next)) :
      Step spool (.collected call outcome) next
  | enqueue {spool next : Spool} {batchId : String}
      {events : List SecurityEvent} {now : Timestamp}
      (enqueued : spool.enqueue batchId events now = some next) :
      Step spool (.enqueued batchId events) next
  | read {spool : Spool} {limit : Nat} :
      Step spool (.read (spool.pending limit)) spool
  | acknowledge {spool : Spool} {batchId : String} :
      Step spool (.acknowledged batchId) (spool.acknowledge batchId)
  | fail {spool : Spool} {batchId error : String} :
      Step spool (.failed batchId error) (spool.fail batchId error)
  | recordRetry {spool : Spool} {delaySeconds : Nat → Int} {now : Timestamp} :
      Step spool .retryRecorded (spool.recordRetryFailure delaySeconds now)
  | clearRetry {spool : Spool} :
      Step spool .retryCleared spool.clearRetryState
  | restart {spool : Spool} : Step spool .restarted spool

/-- No snapshot was enqueued yet. -/
def system : TransitionSystem Spool Label where
  initial := fun spool => spool.controlSnapshot = none
  step := Step

/-! ## The snapshots of a run -/

/-- A snapshot that was enqueued, with the batch that carries it. -/
structure Enqueued where
  fingerprint : String
  batchId : String
  events : List SecurityEvent
  enqueuedAt : Timestamp
  /-- The batch was not acknowledged since. -/
  pending : Bool

def Enqueued.acknowledged (batchId : String) (snapshot : Enqueued) :
    Enqueued :=
  if snapshot.batchId = batchId then { snapshot with pending := false }
  else snapshot

def record (snapshots : List Enqueued) : Label → List Enqueued
  | .collected call ⟨some batchId, true⟩ =>
      ⟨call.fingerprint, batchId, call.selected true, call.now, true⟩ ::
        snapshots
  | .acknowledged batchId => snapshots.map (Enqueued.acknowledged batchId)
  | _ => snapshots

/-- The enqueued snapshots, the last one first. -/
def snapshots (labels : List Label) : List Enqueued :=
  labels.foldl record []

/-- The snapshots since the last change of the fingerprint. -/
def sinceChange : List Enqueued → List Enqueued
  | [] => []
  | last :: earlier =>
      last :: earlier.takeWhile fun snapshot =>
        snapshot.fingerprint = last.fingerprint

/-- When a snapshot is to be enqueued, by the snapshots enqueued before. -/
def Due (call : Collection) : List Enqueued → Prop
  | [] => True
  | last :: _ =>
      last.fingerprint ≠ call.fingerprint ∨
        (last.pending = false ∧
          last.enqueuedAt + seconds call.intervalSeconds ≤ call.now)

@[simp] theorem snapshots_concat (labels : List Label) (label : Label) :
    snapshots (labels ++ [label]) = record (snapshots labels) label := by
  simp [snapshots]

theorem snapshots_append (before after : List Label) :
    snapshots (before ++ after) = after.foldl record (snapshots before) :=
  List.foldl_append

@[simp] theorem acknowledged_fingerprint (batchId : String)
    (snapshot : Enqueued) :
    (snapshot.acknowledged batchId).fingerprint = snapshot.fingerprint := by
  unfold Enqueued.acknowledged
  split <;> rfl

@[simp] theorem sinceChange_acknowledged (batchId : String)
    (snapshots : List Enqueued) :
    sinceChange (snapshots.map (Enqueued.acknowledged batchId)) =
      (sinceChange snapshots).map (Enqueued.acknowledged batchId) := by
  cases snapshots with
  | nil => rfl
  | cons last earlier => simp [sinceChange, List.takeWhile_map, Function.comp_def]

/-! ## The invariant -/

/-- The row the spool keeps for its last snapshot. -/
def Enqueued.row (snapshot : Enqueued) : ControlSnapshot where
  fingerprint := snapshot.fingerprint
  pendingBatchId := if snapshot.pending then some snapshot.batchId else none
  lastEnqueuedAt := snapshot.enqueuedAt

@[simp] theorem row_fingerprint (snapshot : Enqueued) :
    snapshot.row.fingerprint = snapshot.fingerprint := rfl

@[simp] theorem row_lastEnqueuedAt (snapshot : Enqueued) :
    snapshot.row.lastEnqueuedAt = snapshot.enqueuedAt := rfl

structure Coalesced (snapshots : List Enqueued) (spool : Spool) : Prop where
  recorded : spool.controlSnapshot = snapshots.head?.map Enqueued.row
  held : ∀ snapshot ∈ snapshots, snapshot.pending = true →
    spool.Holds (snapshot.batchId, snapshot.events)
  single : ∀ snapshot ∈ (sinceChange snapshots).tail, snapshot.pending = false

variable {snapshots : List Enqueued} {spool next : Spool} {call : Collection}
  {outcome : Outcome}

/-- The pending batch of the row is the one the last snapshot is in. -/
theorem pendingExists_row {last : Enqueued}
    (held : last.pending = true → spool.Holds (last.batchId, last.events)) :
    spool.pendingExists last.row = last.pending := by
  cases isPending : last.pending with
  | false => simp [Spool.pendingExists, Enqueued.row, isPending]
  | true =>
      obtain ⟨batch, member, isBatch, -⟩ := held isPending
      simp only [Spool.pendingExists, Enqueued.row, isPending, if_true,
        Option.any_some, List.any_eq_true, decide_eq_true_eq]
      exact ⟨batch, member, isBatch⟩

theorem Coalesced.due_iff (coalesced : Coalesced snapshots spool) :
    call.due spool = true ↔ Due call snapshots := by
  unfold Collection.due Spool.controlDue
  rw [coalesced.recorded]
  cases snapshots with
  | nil => simp [Due]
  | cons last earlier =>
      have pendingExists : spool.pendingExists last.row = last.pending :=
        pendingExists_row (coalesced.held last List.mem_cons_self)
      simp only [List.head?_cons, Option.map_some, Bool.or_eq_true,
        Bool.and_eq_true, decide_eq_true_eq, pendingExists]
      simp [Due]

theorem due_acknowledged {batchId : String}
    (other : ∀ last ∈ snapshots.head?, last.batchId ≠ batchId) :
    Due call (snapshots.map (Enqueued.acknowledged batchId)) ↔
      Due call snapshots := by
  cases snapshots with
  | nil => exact Iff.rfl
  | cons last earlier =>
      have isOther : last.batchId ≠ batchId := other last rfl
      simp [Due, Enqueued.acknowledged, isOther]

theorem Coalesced.countP_pending (coalesced : Coalesced snapshots spool) :
    (sinceChange snapshots).countP Enqueued.pending ≤ 1 := by
  have single := coalesced.single
  cases isSince : sinceChange snapshots with
  | nil => simp
  | cons last earlier =>
      rw [isSince, List.tail_cons] at single
      have none : earlier.countP Enqueued.pending = 0 := by
        rw [List.countP_eq_zero]
        intro snapshot member
        simp [single snapshot member]
      rw [List.countP_cons, none]
      split <;> simp

theorem enqueueCollected_cases
    (enqueued : spool.enqueueCollected call.batchId call.controlEvents
      call.telemetryEvents call.fingerprint call.intervalSeconds call.now =
        some next) :
    (call.selected (call.due spool) = [] ∧ next = spool) ∨
    (call.selected (call.due spool) ≠ [] ∧
      ∃ spooled, spool.insertBatch (Spool.newBatch call.batchId
          (call.selected (call.due spool)) call.now) = some spooled ∧
        next = if call.due spool then { spooled with
          controlSnapshot :=
            some ⟨call.fingerprint, some call.batchId, call.now⟩ }
          else spooled) := by
  have isSelected : Spool.selectedEvents (spool.controlDue call.fingerprint
      call.intervalSeconds call.now) call.controlEvents call.telemetryEvents =
        call.selected (call.due spool) := rfl
  unfold Spool.enqueueCollected at enqueued
  dsimp only at enqueued
  rw [isSelected] at enqueued
  split at enqueued
  · next isEmpty =>
      cases enqueued
      exact Or.inl ⟨isEmpty, rfl⟩
  · next event events isCons =>
      rw [isCons]
      obtain ⟨spooled, inserted, returned⟩ :=
        Option.bind_eq_some_iff.mp enqueued
      refine Or.inr ⟨List.cons_ne_nil _ _, spooled, inserted, ?_⟩
      change (if call.due spool = true then _ else _) = _ at returned
      split at returned
      · next due =>
          cases returned
          rw [if_pos due]
      · next notDue =>
          cases returned
          rw [if_neg notDue]

/-- What a call did, by whether it had anything to spool. -/
theorem collect_cases (collected : collect call spool = some (outcome, next)) :
    (call.selected (call.due spool) = [] ∧ outcome = ⟨none, false⟩ ∧
      next = spool) ∨
    (call.selected (call.due spool) ≠ [] ∧
      outcome = ⟨some call.batchId, call.due spool⟩ ∧
      ∃ spooled, spool.insertBatch (Spool.newBatch call.batchId
          (call.selected (call.due spool)) call.now) = some spooled ∧
        next = if call.due spool then { spooled with
          controlSnapshot :=
            some ⟨call.fingerprint, some call.batchId, call.now⟩ }
          else spooled) := by
  unfold collect at collected
  split at collected
  · obtain ⟨stored, enqueued, same⟩ := Option.map_eq_some_iff.mp collected
    obtain ⟨rfl, rfl⟩ := Prod.mk.inj same
    simp only [Collection.outcome]
    rcases enqueueCollected_cases enqueued with
      ⟨isEmpty, rfl⟩ | ⟨some, spooled, inserted, returned⟩
    · exact Or.inl ⟨isEmpty, if_pos isEmpty, rfl⟩
    · exact Or.inr ⟨some, if_neg some, spooled, inserted, returned⟩
  · cases collected

/-- What keeps the row and the pending batches keeps the invariant. -/
theorem Coalesced.frame (coalesced : Coalesced snapshots spool)
    (row : next.controlSnapshot = spool.controlSnapshot)
    (keeps : ∀ entry, spool.Holds entry → next.Holds entry) :
    Coalesced snapshots next where
  recorded := row.trans coalesced.recorded
  held := fun snapshot member isPending =>
    keeps _ (coalesced.held snapshot member isPending)
  single := coalesced.single

theorem Coalesced.acknowledge (coalesced : Coalesced snapshots spool)
    (batchId : String) :
    Coalesced (snapshots.map (Enqueued.acknowledged batchId))
      (spool.acknowledge batchId) where
  recorded := by
    have row : ∀ snapshot : Enqueued,
        Spool.acknowledgeSnapshot batchId snapshot.row =
          (snapshot.acknowledged batchId).row := by
      intro snapshot
      by_cases isBatch : snapshot.batchId = batchId
      · cases isPending : snapshot.pending <;>
          simp [Spool.acknowledgeSnapshot, Enqueued.row, Enqueued.acknowledged,
            isBatch, isPending]
      · cases isPending : snapshot.pending <;>
          simp [Spool.acknowledgeSnapshot, Enqueued.row, Enqueued.acknowledged,
            isBatch, isPending]
    simp only [Spool.acknowledge, coalesced.recorded, Option.map_map,
      List.head?_map]
    congr 1
    funext snapshot
    exact row snapshot
  held := by
    intro snapshot member isPending
    obtain ⟨earlier, isEarlier, rfl⟩ := List.mem_map.mp member
    unfold Enqueued.acknowledged at isPending ⊢
    split at isPending
    · cases isPending
    · next other =>
        rw [if_neg other]
        exact (coalesced.held earlier isEarlier isPending).acknowledge other
  single := by
    intro snapshot member
    rw [sinceChange_acknowledged, ← List.map_tail] at member
    obtain ⟨earlier, isEarlier, rfl⟩ := List.mem_map.mp member
    unfold Enqueued.acknowledged
    split
    · rfl
    · exact coalesced.single earlier isEarlier

/-- A snapshot that was due repeats no pending one since the last change. -/
theorem single_due (due : Due call snapshots)
    (single : ∀ snapshot ∈ (sinceChange snapshots).tail,
      snapshot.pending = false) :
    ∀ snapshot ∈ snapshots.takeWhile
      fun snapshot => snapshot.fingerprint = call.fingerprint,
      snapshot.pending = false := by
  cases snapshots with
  | nil => simp
  | cons last earlier =>
      by_cases same : last.fingerprint = call.fingerprint
      · have delivered : last.pending = false :=
          (due.resolve_left (not_not_intro same)).1
        intro snapshot member
        rw [List.takeWhile_cons_of_pos (by simpa using same),
          List.mem_cons] at member
        rcases member with rfl | member
        · exact delivered
        · apply single
          simpa only [sinceChange, List.tail_cons, same] using member
      · simp [same]

theorem Coalesced.collect (coalesced : Coalesced snapshots spool)
    (collected : collect call spool = some (outcome, next)) :
    Coalesced (record snapshots (.collected call outcome)) next := by
  rcases collect_cases collected with
    ⟨-, rfl, rfl⟩ | ⟨-, rfl, spooled, inserted, rfl⟩
  · exact coalesced
  · have row := Spool.insertBatch_controlSnapshot inserted
    cases isDue : call.due spool with
    | false => exact coalesced.frame row fun _ holds => holds.insertBatch inserted
    | true =>
        refine ⟨rfl, ?_, single_due (coalesced.due_iff.mp isDue)
          coalesced.single⟩
        intro snapshot member isPending
        rcases List.mem_cons.mp member with rfl | earlier
        · rw [isDue] at inserted
          exact Spool.holds_insertBatch inserted
        · have kept :=
            (coalesced.held snapshot earlier isPending).insertBatch inserted
          exact kept

theorem Coalesced.step (coalesced : Coalesced snapshots spool) {label : Label}
    (step : Step spool label next) : Coalesced (record snapshots label) next := by
  cases step with
  | collect collected => exact coalesced.collect collected
  | enqueue enqueued =>
      exact coalesced.frame (Spool.insertBatch_controlSnapshot enqueued)
        fun _ holds => holds.insertBatch enqueued
  | read => exact coalesced
  | acknowledge => exact coalesced.acknowledge _
  | fail => exact coalesced.frame rfl fun _ => Spool.holds_fail.mpr
  | recordRetry =>
      exact coalesced.frame rfl fun _ => Spool.holds_recordRetryFailure.mpr
  | clearRetry =>
      exact coalesced.frame rfl fun _ => Spool.holds_clearRetryState.mpr
  | restart => exact coalesced

theorem run_coalesced {start finish : Spool} {labels : List Label}
    (isInitial : system.initial start)
    (run : system.Run start labels finish) :
    Coalesced (Snapshots.snapshots labels) finish := by
  apply @TransitionSystem.RunWhere.historyInvariant _ _ _ _
    (fun labels spool => Coalesced (Snapshots.snapshots labels) spool) _
    ⟨isInitial, nofun, nofun⟩ _ _ _ run
  intro labels state label next coalesced _ step
  rw [snapshots_concat]
  exact coalesced.step step

/-! ## Telemetry and transitions -/

/-- A batch stays until it is acknowledged. -/
theorem run_holds {start finish : Spool} {labels : List Label}
    {entry : String × List SecurityEvent} (holds : start.Holds entry)
    (run : system.Run start labels finish)
    (unacknowledged : Label.acknowledged entry.1 ∉ labels) :
    finish.Holds entry := by
  induction run with
  | nil => exact holds
  | snoc before _ step induction =>
      obtain ⟨earlier, last⟩ := not_or.mp (List.mem_append.not.mp unacknowledged)
      have kept := induction earlier
      cases step with
      | collect collected =>
          rcases collect_cases collected with
            ⟨-, -, rfl⟩ | ⟨-, -, spooled, inserted, rfl⟩
          · exact kept
          · have stays := kept.insertBatch inserted
            split <;> exact stays
      | enqueue enqueued => exact kept.insertBatch enqueued
      | read | restart => exact kept
      | acknowledge =>
          apply kept.acknowledge
          intro same
          exact last (by simp [same])
      | fail => exact Spool.holds_fail.mpr kept
      | recordRetry => exact Spool.holds_recordRetryFailure.mpr kept
      | clearRetry => exact Spool.holds_clearRetryState.mpr kept

/-- What a call was given is in the spool or there was nothing to spool. -/
theorem collect_spools (collected : collect call spool = some (outcome, next)) :
    (outcome.batchId = none → call.selected outcome.controlDue = []) ∧
      ∀ batchId, outcome.batchId = some batchId →
        next.Holds (batchId, call.selected outcome.controlDue) := by
  rcases collect_cases collected with
    ⟨isEmpty, rfl, -⟩ | ⟨-, rfl, spooled, inserted, rfl⟩
  · refine ⟨fun _ => ?_, nofun⟩
    cases isDue : call.due spool with
    | false => rwa [isDue] at isEmpty
    | true =>
        rw [isDue] at isEmpty
        exact (List.append_eq_nil_iff.mp isEmpty).2
  · refine ⟨nofun, fun batchId isBatch => ?_⟩
    cases isBatch
    have holds := Spool.holds_insertBatch inserted
    split <;> exact holds

theorem controlDue_iff (coalesced : Coalesced snapshots spool)
    (collected : collect call spool = some (outcome, next)) :
    outcome.controlDue = true ↔
      call.selected true ≠ [] ∧ Due call snapshots := by
  rw [← coalesced.due_iff]
  rcases collect_cases collected with ⟨isEmpty, rfl, -⟩ | ⟨some, rfl, -⟩
  · constructor
    · nofun
    · rintro ⟨some, isDue⟩
      rw [isDue] at isEmpty
      exact absurd isEmpty some
  · constructor
    · intro isDue
      change call.due spool = true at isDue
      rw [isDue] at some
      exact ⟨some, isDue⟩
    · exact And.right

theorem record_not_due (notDue : outcome.controlDue = false) :
    record snapshots (.collected call outcome) = snapshots := by
  obtain ⟨batchId, controlDue⟩ := outcome
  cases notDue
  cases batchId <;> rfl

/-- The last enqueued snapshot is what the last collection observed. -/
theorem collect_observed (observes : call.controlEvents ≠ [])
    (coalesced : Coalesced snapshots spool)
    (collected : collect call spool = some (outcome, next)) :
    (record snapshots (.collected call outcome)).head?.map
      Enqueued.fingerprint = some call.fingerprint := by
  have decision := controlDue_iff coalesced collected
  by_cases isDue : Due call snapshots
  · have some : call.selected true ≠ [] :=
      fun isEmpty => observes (List.append_eq_nil_iff.mp isEmpty).1
    have enqueued := decision.mpr ⟨some, isDue⟩
    rcases collect_cases collected with ⟨-, rfl, -⟩ | ⟨-, rfl, -⟩
    · cases enqueued
    · simp only at enqueued
      simp [record, enqueued]
  · have notDue : outcome.controlDue = false := by
      simpa [isDue] using decision
    rw [record_not_due notDue]
    cases snapshots with
    | nil => exact absurd trivial isDue
    | cons last earlier =>
        have same := not_not.mp (not_or.mp isDue).1
        simp [same]

@[simp] theorem map_acknowledged_fingerprint (batchId : String)
    (snapshots : List Enqueued) :
    (snapshots.map (Enqueued.acknowledged batchId)).map
      Enqueued.fingerprint = snapshots.map Enqueued.fingerprint := by
  simp [Function.comp_def]

/-- Only collections enqueue snapshots. -/
theorem record_quiet {label : Label}
    (quiet : ∀ call outcome, label ≠ .collected call outcome) :
    (record snapshots label).map Enqueued.fingerprint =
      snapshots.map Enqueued.fingerprint := by
  cases label with
  | collected call outcome => exact absurd rfl (quiet call outcome)
  | acknowledged batchId => exact map_acknowledged_fingerprint batchId _
  | enqueued | read | failed | retryRecorded | retryCleared | restarted => rfl

theorem foldl_record_quiet {labels : List Label}
    (quiet : ∀ call outcome, Label.collected call outcome ∉ labels) :
    (labels.foldl record snapshots).map Enqueued.fingerprint =
      snapshots.map Enqueued.fingerprint := by
  induction labels generalizing snapshots with
  | nil => rfl
  | cons label labels induction =>
      calc
        (labels.foldl record (record snapshots label)).map
            Enqueued.fingerprint =
          (record snapshots label).map Enqueued.fingerprint :=
            induction fun call outcome member =>
              quiet call outcome (List.mem_cons_of_mem _ member)
        _ = snapshots.map Enqueued.fingerprint :=
            record_quiet fun call outcome same =>
              quiet call outcome (same ▸ List.mem_cons_self)

/-- What the last snapshot does not repeat is due. -/
theorem due_of_changed {fingerprint : String}
    (observed : (snapshots.map Enqueued.fingerprint).head? = some fingerprint)
    (changed : fingerprint ≠ call.fingerprint) : Due call snapshots := by
  cases snapshots with
  | nil => exact trivial
  | cons last earlier =>
      have same : last.fingerprint = fingerprint := by simpa using observed
      exact Or.inl (same ▸ changed)

/-! ## The spool over a run -/

structure HidesNoTransition (labels : List Label) (finish : Spool) :
    Prop where
  /-- A snapshot is enqueued exactly when it is due. -/
  decision : ∀ before call outcome after,
    labels = before ++ .collected call outcome :: after →
    (outcome.controlDue = true ↔
      call.selected true ≠ [] ∧ Due call (Snapshots.snapshots before))
  /-- Nothing given to a call is lost before it is acknowledged. -/
  lossless : ∀ before call outcome after,
    labels = before ++ .collected call outcome :: after →
    (outcome.batchId = none → call.selected outcome.controlDue = []) ∧
      ∀ batchId, outcome.batchId = some batchId →
        Label.acknowledged batchId ∉ after →
        finish.Holds (batchId, call.selected outcome.controlDue)
  /-- A snapshot that differs from the one observed before it is enqueued. -/
  transition : ∀ before first outcome between second outcome' after,
    labels = before ++ .collected first outcome ::
      (between ++ .collected second outcome' :: after) →
    (∀ call outcome, Label.collected call outcome ∉ between) →
    first.controlEvents ≠ [] → second.controlEvents ≠ [] →
    first.fingerprint ≠ second.fingerprint → outcome'.controlDue = true
  acknowledged : ∀ call batchId,
    (∀ last ∈ (Snapshots.snapshots labels).head?, last.batchId ≠ batchId) →
    Collection.due call (finish.acknowledge batchId) = call.due finish
  failed : ∀ call batchId error,
    Collection.due call (finish.fail batchId error) = call.due finish
  /-- The pending snapshots are in the spool. -/
  held : ∀ snapshot ∈ Snapshots.snapshots labels, snapshot.pending = true →
    finish.Holds (snapshot.batchId, snapshot.events)
  single : (sinceChange (Snapshots.snapshots labels)).countP
    Enqueued.pending ≤ 1
  recorded : finish.controlSnapshot.map ControlSnapshot.fingerprint =
    (Snapshots.snapshots labels).head?.map Enqueued.fingerprint

/-- Coalescing hides no transition, whatever the order of the operations. -/
theorem coalescing_hides_no_transition {start finish : Spool}
    {labels : List Label} (isInitial : system.initial start)
    (run : system.Run start labels finish) :
    HidesNoTransition labels finish := by
  have coalesced := run_coalesced isInitial run
  refine { decision := ?_, lossless := ?_, transition := ?_,
           acknowledged := ?_, failed := ?_, held := coalesced.held,
           single := ?_, recorded := ?_ }
  · rintro before call outcome after rfl
    obtain ⟨state, next, first, -, step, -⟩ := run.split
    cases step with
    | collect collected =>
        exact controlDue_iff (run_coalesced isInitial first) collected
  · rintro before call outcome after rfl
    obtain ⟨state, next, -, -, step, rest⟩ := run.split
    cases step with
    | collect collected =>
        obtain ⟨nothing, spooled⟩ := collect_spools collected
        refine ⟨nothing, fun batchId isBatch unacknowledged => ?_⟩
        exact run_holds (spooled batchId isBatch) rest unacknowledged
  · rintro before first outcome between second outcome' after rfl quiet
      firstObserves secondObserves changed
    obtain ⟨state, next, run, -, step, rest⟩ := run.split
    obtain ⟨later, last, middle, -, step', -⟩ := rest.split
    cases step with
    | collect collected =>
        have earlier := run_coalesced isInitial run
        have now := run_coalesced isInitial
          ((run.snoc trivial (.collect collected)).append middle)
        have observed := collect_observed firstObserves earlier collected
        rw [← List.head?_map, ← snapshots_concat,
          ← foldl_record_quiet quiet] at observed
        have isDue : Due second (Snapshots.snapshots
            (before ++ [.collected first outcome] ++ between)) := by
          apply due_of_changed _ changed
          rwa [snapshots_append]
        have some : second.selected true ≠ [] :=
          fun isEmpty => secondObserves (List.append_eq_nil_iff.mp isEmpty).1
        cases step' with
        | collect collected' =>
            exact (controlDue_iff now collected').mpr ⟨some, isDue⟩
  · intro call batchId other
    rw [Bool.eq_iff_iff, (coalesced.acknowledge batchId).due_iff,
      coalesced.due_iff]
    exact due_acknowledged other
  · intro call batchId error
    have failed : Coalesced (Snapshots.snapshots labels)
        (finish.fail batchId error) :=
      coalesced.frame rfl fun _ => Spool.holds_fail.mpr
    rw [Bool.eq_iff_iff, failed.due_iff, coalesced.due_iff]
  · exact coalesced.countP_pending
  · rw [coalesced.recorded, Option.map_map]
    rfl

def sampleControl : SecurityEvent where
  eventId := "control-1"
  eventType := "endpoint_control_status"
  timestamp := ⟨0, "1970-01-01T00:00:00Z"⟩
  actor := "device:laptop"
  sourceIp := none
  target := some "edr"
  deviceId := some "laptop"
  attributes := { members := [] }

def sampleCollection (batchId fingerprint : String) : Collection where
  batchId := batchId
  controlEvents := [sampleControl]
  telemetryEvents := []
  fingerprint := fingerprint
  intervalSeconds := 60
  now := 0

/-- A repeated snapshot is left out, and a changed one is spooled while the
one before it is pending. -/
theorem coalescing_hides_no_transition_changed :
    ∃ finish, HidesNoTransition
      [.collected (sampleCollection "first" "healthy") ⟨some "first", true⟩,
        .collected (sampleCollection "second" "healthy") ⟨none, false⟩,
        .collected (sampleCollection "third" "failed") ⟨some "third", true⟩]
      finish := by
  have isInitial : system.initial Spool.empty := rfl
  have run : system.Run Spool.empty
      ([] ++ [.collected (sampleCollection "first" "healthy")
          ⟨some "first", true⟩] ++
        [.collected (sampleCollection "second" "healthy") ⟨none, false⟩] ++
        [.collected (sampleCollection "third" "failed")
          ⟨some "third", true⟩]) _ :=
    .snoc (.snoc (.snoc .nil trivial (Step.collect rfl)) trivial
      (Step.collect rfl)) trivial (Step.collect rfl)
  exact ⟨_, coalescing_hides_no_transition isInitial run⟩

end Snapshots

end Telemetry

end ControlForge
