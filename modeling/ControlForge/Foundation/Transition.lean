import Mathlib.Logic.Relation

/-!
# Labelled transition systems and their runs

A run is kept together with the labels of its steps, so that a property may
speak about what happened before a state was reached.  A run may be restricted
to steps that meet a condition; an unrestricted run has the condition `True`.
-/

namespace ControlForge

/-- A system whose steps carry a label: the operation and what it returned. -/
structure TransitionSystem (State Label : Type) where
  initial : State → Prop
  step : State → Label → State → Prop

namespace TransitionSystem

variable {State Label : Type}

/-- A run from `start` whose every step is taken under `condition`. -/
inductive RunWhere (system : TransitionSystem State Label)
    (condition : State → Label → Prop) (start : State) :
    List Label → State → Prop
  | nil : RunWhere system condition start [] start
  | snoc {labels : List Label} {middle finish : State} {label : Label}
      (before : RunWhere system condition start labels middle)
      (holds : condition middle label)
      (step : system.step middle label finish) :
      RunWhere system condition start (labels ++ [label]) finish

/-- A run with no condition on its steps. -/
abbrev Run (system : TransitionSystem State Label) :
    State → List Label → State → Prop :=
  system.RunWhere fun _ _ => True

def Reachable (system : TransitionSystem State Label) (state : State) : Prop :=
  ∃ start labels, system.initial start ∧ system.Run start labels state

variable {system : TransitionSystem State Label}
  {condition : State → Label → Prop}

/-- What every step preserves holds at the end of a run that starts with it. -/
theorem RunWhere.invariant {property : State → Prop}
    (stepPreserves : ∀ {state label next}, property state →
      condition state label → system.step state label next → property next)
    {start finish : State} {labels : List Label}
    (run : system.RunWhere condition start labels finish)
    (startHolds : property start) : property finish := by
  induction run with
  | nil => exact startHolds
  | snoc before holds step induction =>
      exact stepPreserves induction holds step

/-- The same rule for properties of a state and of the labels before it. -/
theorem RunWhere.historyInvariant {property : List Label → State → Prop}
    {start : State} (startHolds : property [] start)
    (stepPreserves : ∀ {labels state label next}, property labels state →
      condition state label → system.step state label next →
      property (labels ++ [label]) next)
    {finish : State} {labels : List Label}
    (run : system.RunWhere condition start labels finish) :
    property labels finish := by
  induction run with
  | nil => exact startHolds
  | snoc before holds step induction =>
      exact stepPreserves induction holds step

/-- A preorder that every step respects relates the two ends of a run.  The
steps may use an invariant of the run. -/
theorem RunWhere.related {property : State → Prop}
    {relation : State → State → Prop}
    (refl : ∀ state, relation state state)
    (trans : ∀ {first second third}, relation first second →
      relation second third → relation first third)
    (stepPreserves : ∀ {state label next}, property state →
      condition state label → system.step state label next → property next)
    (stepRelated : ∀ {state label next}, property state →
      condition state label → system.step state label next →
      relation state next)
    {start finish : State} {labels : List Label}
    (run : system.RunWhere condition start labels finish)
    (startHolds : property start) : relation start finish := by
  induction run with
  | nil => exact refl start
  | snoc before holds step induction =>
      have middleHolds := before.invariant stepPreserves startHolds
      exact trans induction (stepRelated middleHolds holds step)

theorem RunWhere.weaken {weaker : State → Label → Prop}
    (implies : ∀ state label, condition state label → weaker state label)
    {start finish : State} {labels : List Label}
    (run : system.RunWhere condition start labels finish) :
    system.RunWhere weaker start labels finish := by
  induction run with
  | nil => exact .nil
  | snoc before holds step induction =>
      exact .snoc induction (implies _ _ holds) step

theorem RunWhere.append {start middle finish : State}
    {first second : List Label}
    (before : system.RunWhere condition start first middle)
    (after : system.RunWhere condition middle second finish) :
    system.RunWhere condition start (first ++ second) finish := by
  induction after with
  | nil => simpa using before
  | snoc _ holds step induction =>
      rw [← List.append_assoc]
      exact .snoc induction holds step

/-- A run is cut at one of its labels. -/
theorem RunWhere.split {start finish : State} {before after : List Label}
    {label : Label}
    (run : system.RunWhere condition start (before ++ label :: after) finish) :
    ∃ state next, system.RunWhere condition start before state ∧
      condition state label ∧ system.step state label next ∧
      system.RunWhere condition next after finish := by
  generalize cut : before ++ label :: after = labels at run
  induction run generalizing after with
  | nil => simp at cut
  | @snoc earlier middle finish added run holds step induction =>
      rcases List.eq_nil_or_concat after with rfl | ⟨front, last, rfl⟩
      · obtain ⟨rfl, rfl⟩ := List.append_inj' cut rfl
          |>.imp_right List.cons.inj |>.imp_right And.left
        exact ⟨middle, _, run, holds, step, .nil⟩
      · rw [List.concat_eq_append, ← List.cons_append,
          ← List.append_assoc] at cut
        obtain ⟨rfl, same⟩ := List.append_inj' cut rfl
        obtain ⟨state, next, first, condition, taken, rest⟩ := induction rfl
        rw [List.concat_eq_append, same]
        exact ⟨state, next, first, condition, taken, .snoc rest holds step⟩

theorem Reachable.invariant {property : State → Prop}
    (initialHolds : ∀ state, system.initial state → property state)
    (stepPreserves : ∀ {state label next}, property state →
      system.step state label next → property next)
    {state : State} (reachable : system.Reachable state) : property state := by
  obtain ⟨start, labels, isInitial, run⟩ := reachable
  exact run.invariant
    (fun holds _ step => stepPreserves holds step) (initialHolds start isInitial)

end TransitionSystem

end ControlForge
