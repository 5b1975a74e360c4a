import Mathlib.Logic.Basic

/-!
# The status graph of a case

The graph is written twice in the source: as the table `_TRANSITIONS` of the
case service and as the condition of the trigger
`cases_status_transition_guard`.
-/

namespace ControlForge

inductive CaseStatus where
  | opened
  | investigating
  | contained
  | closed
deriving DecidableEq, Repr

namespace CaseStatus

/-- The text stored for a status. -/
def text : CaseStatus → String
  | .opened => "open"
  | .investigating => "investigating"
  | .contained => "contained"
  | .closed => "closed"

def ofText (value : String) : Option CaseStatus :=
  if value = "open" then some .opened
  else if value = "investigating" then some .investigating
  else if value = "contained" then some .contained
  else if value = "closed" then some .closed
  else none

theorem ofText_text (status : CaseStatus) : ofText status.text = some status := by
  cases status <;> decide

/-- `_TRANSITIONS`. -/
def transitions : CaseStatus → List CaseStatus
  | .opened => [.investigating, .closed]
  | .investigating => [.contained, .closed]
  | .contained => [.investigating, .closed]
  | .closed => [.opened]

/-- What the trigger `cases_status_transition_guard` lets through. -/
def transitionGuard (old new : CaseStatus) : Bool :=
  (old = .opened && (new = .investigating || new = .closed)) ||
    (old = .investigating && (new = .contained || new = .closed)) ||
    (old = .contained && (new = .investigating || new = .closed)) ||
    (old = .closed && new = .opened)

/-- The service and the trigger have the same graph. -/
theorem transitionGuard_iff (old new : CaseStatus) :
    transitionGuard old new = true ↔ new ∈ old.transitions := by
  cases old <;> cases new <;> decide

end CaseStatus

end ControlForge
