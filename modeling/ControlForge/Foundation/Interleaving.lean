import Mathlib.Logic.Function.Basic
import ControlForge.Foundation.Transition

/-!
# Interleaved processes over shared data

A procedure is a sequence of atomic steps over shared data, with a local point
between any two of them.  A pool runs any number of such processes: they begin,
are resumed in any order, and may be dropped at any point, while the shared
data also changes from outside.

The invariant rule is the one of rely and guarantee: the owner of a step
establishes the invariant of the data, its own assertion and its assertions
about pairs; the assertions of the other processes must be stable under what a
step guarantees.
-/

namespace ControlForge

/-- One kind of process. -/
structure Procedure (Shared Point Input Effect : Type) where
  /-- Nothing runs here. -/
  idle : Point
  /-- The points at which a process begins. -/
  starts : Point → Prop
  resume : Input → Point → Shared → Point × Shared × Effect
  outside : Shared → Shared → Prop

structure Pool (Shared Point : Type) where
  shared : Shared
  process : Nat → Point

inductive PoolLabel (Input Effect : Type) where
  | begin (index : Nat)
  | resume (index : Nat) (input : Input) (effect : Effect)
  | drop (index : Nat)
  | outside

namespace Procedure

variable {Shared Point Input Effect : Type}
  (procedure : Procedure Shared Point Input Effect)

inductive Step : Pool Shared Point → PoolLabel Input Effect →
    Pool Shared Point → Prop
  | begin {pool : Pool Shared Point} {index : Nat} {point : Point}
      (free : pool.process index = procedure.idle)
      (isStart : procedure.starts point) :
      Step pool (.begin index)
        { pool with process := Function.update pool.process index point }
  | resume {pool : Pool Shared Point} {index : Nat} {input : Input}
      {point : Point} {shared : Shared} {effect : Effect}
      (moved : procedure.resume input (pool.process index) pool.shared =
        (point, shared, effect)) :
      Step pool (.resume index input effect)
        ⟨shared, Function.update pool.process index point⟩
  | drop {pool : Pool Shared Point} (index : Nat) :
      Step pool (.drop index)
        { pool with process := Function.update pool.process index procedure.idle }
  | outside {pool : Pool Shared Point} {shared : Shared}
      (changed : procedure.outside pool.shared shared) :
      Step pool .outside { pool with shared }

/-- Processes that have not begun, over initial data. -/
def system (initial : Shared → Prop) :
    TransitionSystem (Pool Shared Point) (PoolLabel Input Effect) where
  initial pool := initial pool.shared ∧ ∀ index, pool.process index = procedure.idle
  step := procedure.Step

/-! ## Schedules -/

/-- A schedule begins processes and resumes them. -/
inductive Command (Point Input : Type) where
  | begin (index : Nat) (point : Point)
  | resume (index : Nat) (input : Input)

def perform (pool : Pool Shared Point) :
    Command Point Input → PoolLabel Input Effect × Pool Shared Point
  | .begin index point =>
      (.begin index,
        { pool with process := Function.update pool.process index point })
  | .resume index input =>
      let moved := procedure.resume input (pool.process index) pool.shared
      (.resume index input moved.2.2,
        ⟨moved.2.1, Function.update pool.process index moved.1⟩)

/-- The labels of a schedule, and the pool after it. -/
def follow (pool : Pool Shared Point) :
    List (Command Point Input) →
      List (PoolLabel Input Effect) × Pool Shared Point
  | [] => ([], pool)
  | command :: commands =>
      let first := procedure.perform pool command
      let rest := follow first.2 commands
      (first.1 :: rest.1, rest.2)

/-- A process begins where none runs. -/
def Permitted (pool : Pool Shared Point) : Command Point Input → Prop
  | .begin index point =>
      pool.process index = procedure.idle ∧ procedure.starts point
  | .resume _ _ => True

/-- Every command of the schedule is permitted and meets the condition. -/
def Legal (condition : Pool Shared Point → PoolLabel Input Effect → Prop)
    (pool : Pool Shared Point) : List (Command Point Input) → Prop
  | [] => True
  | command :: commands =>
      procedure.Permitted pool command ∧
        condition pool (procedure.perform pool command).1 ∧
        Legal condition (procedure.perform pool command).2 commands

variable {procedure}

theorem step_perform {pool : Pool Shared Point}
    {command : Command Point Input}
    (permitted : procedure.Permitted pool command) :
    procedure.Step pool (procedure.perform pool command).1
      (procedure.perform pool command).2 := by
  cases command with
  | begin index point => exact .begin permitted.1 permitted.2
  | resume index input => exact .resume rfl

/-- The process a command is about. -/
def Command.index : Command Point Input → Nat
  | .begin index _ | .resume index _ => index

theorem perform_of_ne (pool : Pool Shared Point)
    {command : Command Point Input} {other : Nat}
    (different : other ≠ command.index) :
    (procedure.perform pool command).2.process other = pool.process other := by
  cases command with
  | begin index point => exact Function.update_of_ne different _ _
  | resume index input => exact Function.update_of_ne different _ _

theorem run_follow {initial : Shared → Prop}
    {condition : Pool Shared Point → PoolLabel Input Effect → Prop}
    {pool : Pool Shared Point} {commands : List (Command Point Input)}
    (legal : procedure.Legal condition pool commands) :
    (procedure.system initial).RunWhere condition pool
      (procedure.follow pool commands).1
      (procedure.follow pool commands).2 := by
  induction commands generalizing pool with
  | nil => exact .nil
  | cons command commands induction =>
      obtain ⟨permitted, holds, rest⟩ := legal
      have first : (procedure.system initial).RunWhere condition pool
          [(procedure.perform pool command).1]
          (procedure.perform pool command).2 :=
        .snoc .nil holds (step_perform permitted)
      exact first.append (induction rest)

/-! ## Assertions -/

/-- An invariant of the data, an assertion of every process, and one of every
pair of processes.  The history is that of the labels. -/
structure Assertions (Shared Point Label : Type) where
  shared : List Label → Shared → Prop
  process : Shared → Point → Prop
  pair : Shared → Point → Point → Prop

namespace Assertions

variable (assertions : Assertions Shared Point (PoolLabel Input Effect))

structure Hold (labels : List (PoolLabel Input Effect))
    (pool : Pool Shared Point) : Prop where
  shared : assertions.shared labels pool.shared
  process : ∀ index, assertions.process pool.shared (pool.process index)
  pair : ∀ left right, left ≠ right →
    assertions.pair pool.shared (pool.process left) (pool.process right)

/-- What the owner of a step must establish, and what it guarantees to a process
at another point. -/
structure Sound (procedure : Procedure Shared Point Input Effect)
    (condition : Pool Shared Point → PoolLabel Input Effect → Prop)
    (guarantee : Shared → Shared → Point → Prop) : Prop where
  symm : ∀ {shared left right}, assertions.pair shared left right →
    assertions.pair shared right left
  idle : ∀ shared, assertions.process shared procedure.idle
  idlePair : ∀ shared point, assertions.pair shared procedure.idle point
  starts : ∀ shared {point}, procedure.starts point →
    assertions.process shared point ∧
      ∀ other, assertions.pair shared point other
  /-- A step that no process may see keeps the invariant. -/
  unseen : ∀ {labels shared label}, assertions.shared labels shared →
    (∀ index input effect, label ≠ .resume index input effect) →
    assertions.shared (labels ++ [label]) shared
  owner : ∀ {labels pool index input point shared effect},
    assertions.Hold labels pool →
    condition pool (.resume index input effect) →
    procedure.resume input (pool.process index) pool.shared =
      (point, shared, effect) →
    assertions.shared (labels ++ [.resume index input effect]) shared ∧
      assertions.process shared point ∧
      ∀ other, other ≠ index →
        guarantee pool.shared shared (pool.process other) ∧
          assertions.pair shared point (pool.process other)
  outside : ∀ {labels shared next}, assertions.shared labels shared →
    procedure.outside shared next →
    assertions.shared labels next ∧ ∀ point, guarantee shared next point
  refl : ∀ shared point, guarantee shared shared point
  stable : ∀ {shared next point}, guarantee shared next point →
    assertions.process shared point → assertions.process next point
  stablePair : ∀ {shared next left right}, guarantee shared next left →
    guarantee shared next right → assertions.pair shared left right →
    assertions.pair next left right

variable {assertions}
  {condition : Pool Shared Point → PoolLabel Input Effect → Prop}
  {guarantee : Shared → Shared → Point → Prop}
  {labels : List (PoolLabel Input Effect)} {pool next : Pool Shared Point}

/-- Replacing one process keeps the assertions of the others. -/
theorem Hold.replace (sound : assertions.Sound procedure condition guarantee)
    (holds : assertions.Hold labels pool) {index : Nat} {point : Point}
    {shared : Shared} {label : PoolLabel Input Effect}
    (sharedHolds : assertions.shared (labels ++ [label]) shared)
    (pointHolds : assertions.process shared point)
    (others : ∀ other, other ≠ index →
      guarantee pool.shared shared (pool.process other) ∧
        assertions.pair shared point (pool.process other)) :
    assertions.Hold (labels ++ [label])
      ⟨shared, Function.update pool.process index point⟩ := by
  refine ⟨sharedHolds, fun other => ?_, fun left right different => ?_⟩
  · change assertions.process shared
      (Function.update pool.process index point other)
    by_cases isOwner : other = index
    · rw [isOwner, Function.update_self]
      exact pointHolds
    · rw [Function.update_of_ne isOwner]
      exact sound.stable (others other isOwner).1 (holds.process other)
  · change assertions.pair shared
      (Function.update pool.process index point left)
      (Function.update pool.process index point right)
    by_cases leftOwner : left = index
    · have rightOther : right ≠ index := by
        rw [← leftOwner]
        exact Ne.symm different
      rw [leftOwner, Function.update_self, Function.update_of_ne rightOther]
      exact (others right rightOther).2
    · by_cases rightOwner : right = index
      · rw [rightOwner, Function.update_self, Function.update_of_ne leftOwner]
        exact sound.symm (others left leftOwner).2
      · rw [Function.update_of_ne leftOwner, Function.update_of_ne rightOwner]
        exact sound.stablePair (others left leftOwner).1
          (others right rightOwner).1 (holds.pair left right different)

theorem Hold.step (sound : assertions.Sound procedure condition guarantee)
    (holds : assertions.Hold labels pool) {label : PoolLabel Input Effect}
    (permitted : condition pool label)
    (step : procedure.Step pool label next) :
    assertions.Hold (labels ++ [label]) next := by
  cases step with
  | @begin index point free isStart =>
      have unseen : assertions.shared (labels ++ [.begin index]) pool.shared :=
        sound.unseen holds.shared nofun
      have starts := sound.starts pool.shared isStart
      exact holds.replace sound unseen starts.1 fun other _ =>
        ⟨sound.refl _ _, starts.2 _⟩
  | resume moved =>
      obtain ⟨shared, process, others⟩ :=
        sound.owner holds permitted moved
      exact holds.replace sound shared process others
  | drop index =>
      have unseen : assertions.shared (labels ++ [.drop index]) pool.shared :=
        sound.unseen holds.shared nofun
      exact holds.replace sound unseen (sound.idle _) fun other _ =>
        ⟨sound.refl _ _, sound.idlePair _ _⟩
  | outside changed =>
      obtain ⟨shared, guaranteed⟩ := sound.outside holds.shared changed
      refine ⟨sound.unseen shared nofun, fun index => ?_,
        fun left right different => ?_⟩
      · exact sound.stable (guaranteed _) (holds.process index)
      · exact sound.stablePair (guaranteed _) (guaranteed _)
          (holds.pair left right different)

/-- The assertions hold throughout every run whose steps meet the condition. -/
theorem Hold.run (sound : assertions.Sound procedure condition guarantee)
    {initial : Shared → Prop}
    (initially : ∀ shared, initial shared → assertions.shared [] shared)
    {start : Pool Shared Point}
    (isInitial : (procedure.system initial).initial start)
    (run : (procedure.system initial).RunWhere condition start labels pool) :
    assertions.Hold labels pool := by
  obtain ⟨initialShared, allIdle⟩ := isInitial
  have startHolds : assertions.Hold [] start := by
    refine ⟨initially _ initialShared, fun index => ?_, fun left right _ => ?_⟩
    · rw [allIdle]
      exact sound.idle _
    · rw [allIdle]
      exact sound.idlePair _ _
  exact run.historyInvariant startHolds
    fun holds permitted step => holds.step sound permitted step

end Assertions

end Procedure

end ControlForge
