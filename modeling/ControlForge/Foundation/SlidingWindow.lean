import Mathlib.Algebra.Order.Ring.Int
import ControlForge.Foundation.Streams

/-!
# Sliding windows

A limiter admits an event when fewer than a limit have been admitted since one
window ago.  Whatever it has forgotten beyond that makes no difference: no
interval shorter than the window has more events than the limit.
-/

namespace ControlForge

namespace SlidingWindow

/-- The events of an interval, its ends included. -/
def within (first last : Int) (events : List Int) : Nat :=
  events.countP fun time => first ≤ time ∧ time ≤ last

/-- No interval shorter than the window has more events than the limit. -/
def Limited (limit : Nat) (width : Int) (events : List Int) : Prop :=
  ∀ first last, last - first < width → within first last events ≤ limit

variable {limit : Nat} {width now : Int} {past window : List Int}

theorem Limited.nil : Limited limit width [] := by
  intro first last _
  exact Nat.zero_le _

/-- An event is admitted that fewer than the limit precede in its window. -/
theorem Limited.concat (limited : Limited limit width past)
    (slides : Slides (· ≤ now - width) past window)
    (few : window.length < limit) : Limited limit width (past ++ [now]) := by
  intro first last narrow
  rw [within, List.countP_append, List.countP_singleton]
  by_cases inside : first ≤ now ∧ now ≤ last
  · obtain ⟨dropped, rfl, expired⟩ := slides
    have noneDropped : dropped.countP
        (fun time => first ≤ time ∧ time ≤ last) = 0 := by
      rw [List.countP_eq_zero]
      intro time member
      have old := expired time member
      simp only [decide_eq_true_eq, not_and_or]
      left
      omega
    have fewInside : window.countP (fun time => first ≤ time ∧ time ≤ last) ≤
        window.length :=
      List.countP_le_length
    rw [List.countP_append, noneDropped, if_pos (by simpa using inside)]
    omega
  · rw [if_neg (by simpa using inside)]
    exact limited first last narrow

end SlidingWindow

end ControlForge
