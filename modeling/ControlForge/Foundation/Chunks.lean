import Mathlib.Data.List.Basic

/-!
# Streams that are processed chunk by chunk

A loop reads at most `size` items at a time and hands them to a stateful
function.  Where the function does not see the bounds of its chunks, the loop
does what one call does.
-/

namespace ControlForge

variable {State Input Output : Type}

/-- What a call makes of its items does not depend on how they are cut. -/
structure Splits (step : State → List Input → State × List Output) : Prop where
  nil : ∀ state, step state [] = (state, [])
  append : ∀ state first second, step state (first ++ second) =
    ((step (step state first).1 second).1,
      (step state first).2 ++ (step (step state first).1 second).2)

/-- Process the items chunk by chunk.  A chunk has at least one item, so the
fuel need not exceed their number. -/
def inChunks (step : State → List Input → State × List Output) (size : Nat) :
    Nat → State → List Input → State × List Output
  | _, state, [] => (state, [])
  | 0, state, _ => (state, [])
  | fuel + 1, state, items =>
      let (next, output) := step state (items.take size)
      let (final, rest) := inChunks step size fuel next (items.drop size)
      (final, output ++ rest)

theorem inChunks_eq {step : State → List Input → State × List Output}
    (splits : Splits step) {size : Nat} (positive : 0 < size) (fuel : Nat)
    (state : State) (items : List Input) (enough : items.length ≤ fuel) :
    inChunks step size fuel state items = step state items := by
  induction fuel generalizing state items with
  | zero =>
      obtain rfl := List.eq_nil_of_length_eq_zero (Nat.le_zero.mp enough)
      exact (splits.nil state).symm
  | succ fuel induction =>
      cases items with
      | nil => exact (splits.nil state).symm
      | cons item items =>
          have fewer : ((item :: items).drop size).length ≤ fuel := by
            rw [List.length_drop]
            simp only [List.length_cons] at enough ⊢
            omega
          dsimp only [inChunks]
          rw [induction _ _ fewer]
          conv_rhs => rw [← List.take_append_drop size (item :: items)]
          exact (splits.append _ _ _).symm

/-! ## Slices -/

section Slices

variable {Item : Type}

/-- The slices of a loop that advances its offset by `size`.  The fuel need not
exceed the number of items. -/
def slicesWithin (size : Nat) : Nat → List Item → List (List Item)
  | _, [] => []
  | 0, _ => []
  | fuel + 1, items => items.take size :: slicesWithin size fuel (items.drop size)

def slices (size : Nat) (items : List Item) : List (List Item) :=
  slicesWithin size items.length items

theorem flatten_slicesWithin {size : Nat} (positive : 0 < size) (fuel : Nat)
    (items : List Item) (enough : items.length ≤ fuel) :
    (slicesWithin size fuel items).flatten = items := by
  induction fuel generalizing items with
  | zero =>
      obtain rfl := List.eq_nil_of_length_eq_zero (Nat.le_zero.mp enough)
      rfl
  | succ fuel induction =>
      cases items with
      | nil => rfl
      | cons item items =>
          have fewer : ((item :: items).drop size).length ≤ fuel := by
            rw [List.length_drop]
            simp only [List.length_cons] at enough ⊢
            omega
          rw [slicesWithin, List.flatten_cons, induction _ fewer,
            List.take_append_drop]
          exact List.cons_ne_nil _ _

theorem flatten_slices {size : Nat} (positive : 0 < size) (items : List Item) :
    (slices size items).flatten = items :=
  flatten_slicesWithin positive items.length items (Nat.le_refl _)

theorem length_le_of_mem_slices {size : Nat} {items slice : List Item}
    (isSlice : slice ∈ slices size items) : slice.length ≤ size := by
  unfold slices at isSlice
  generalize items.length = fuel at isSlice
  induction fuel generalizing items with
  | zero => cases items <;> simp [slicesWithin] at isSlice
  | succ fuel induction =>
      cases items with
      | nil => simp [slicesWithin] at isSlice
      | cons item items =>
          rw [slicesWithin] at isSlice
          · rcases List.mem_cons.mp isSlice with rfl | isLater
            · exact List.length_take_le _ _
            · exact induction isLater
          · exact List.cons_ne_nil _ _

end Slices

end ControlForge
