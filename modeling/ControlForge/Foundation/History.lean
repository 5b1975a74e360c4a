import Mathlib.Data.List.Basic

/-!
# What is issued and revoked

A history lists events, oldest first.  An authority is outstanding when it was
issued after each of its revocations.
-/

namespace ControlForge

section History

variable {Event : Type} {issue : Event} {revokes : Event → Prop}
  {events added : List Event}

/-- The issue follows every revocation. -/
def Outstanding (issue : Event) (revokes : Event → Prop)
    (events : List Event) : Prop :=
  ∀ earlier event later, events = earlier ++ event :: later → revokes event →
    issue ∈ later

namespace Outstanding

theorem nil : Outstanding issue revokes [] := by
  intro earlier event later split
  cases earlier <;> cases split

/-- What does not revoke an authority leaves it outstanding. -/
theorem append (outstanding : Outstanding issue revokes events)
    (unrevoked : ∀ event ∈ added, ¬ revokes event) :
    Outstanding issue revokes (events ++ added) := by
  intro earlier event later split isRevoked
  rcases List.append_eq_append_iff.mp split with
    ⟨middle, -, isAdded⟩ | ⟨middle, isEvents, isLater⟩
  · have member : event ∈ added := by
      rw [isAdded]
      exact List.mem_append_right _ List.mem_cons_self
    exact absurd isRevoked (unrevoked event member)
  · cases middle with
    | nil =>
        have member : event ∈ added := by
          rw [List.nil_append] at isLater
          rw [← isLater]
          exact List.mem_cons_self
        exact absurd isRevoked (unrevoked event member)
    | cons first rest =>
        obtain ⟨rfl, rfl⟩ := List.cons.inj isLater
        exact List.mem_append_left _
          (outstanding earlier event rest isEvents isRevoked)

/-- An authority that was just issued is outstanding. -/
theorem issued (notRevoked : ¬ revokes issue) :
    Outstanding issue revokes (events ++ [issue]) := by
  intro earlier event later split isRevoked
  rcases List.eq_nil_or_concat later with rfl | ⟨front, last, rfl⟩
  · obtain ⟨-, same⟩ := List.append_inj' split rfl
    rw [List.singleton_inj.mp same] at notRevoked
    exact absurd isRevoked notRevoked
  · rw [List.concat_eq_append, ← List.cons_append, ← List.append_assoc] at split
    obtain ⟨-, same⟩ := List.append_inj' split rfl
    rw [List.concat_eq_append, List.singleton_inj.mp same]
    exact List.mem_append_right _ List.mem_cons_self

end Outstanding

end History

end ControlForge
