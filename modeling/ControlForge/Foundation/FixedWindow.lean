import Mathlib.Order.Defs.LinearOrder
import Mathlib.Data.List.Basic
import Mathlib.Order.Lattice

/-!
# Fixed-window counters

A counter keeps the window it is counting and what it has admitted in it, and
starts again when another window comes.  It never forgets a window that may
come back as long as the windows arrive in order: then no window admits more
than the limit.
-/

namespace ControlForge

namespace FixedWindow

variable {Window : Type}

structure Counter (Window : Type) where
  window : Window
  count : Nat

section Counting

variable [DecidableEq Window]

/-- The count after an amount in a window. -/
def total (stored : Option (Counter Window)) (window : Window)
    (amount : Nat) : Nat :=
  match stored with
  | some counter =>
      if counter.window = window then counter.count + amount else amount
  | none => amount

/-- The counter after an amount, unless that exceeds the limit. -/
def charge (limit : Nat) (stored : Option (Counter Window)) (window : Window)
    (amount : Nat) : Option (Counter Window) :=
  if total stored window amount ≤ limit then
    some ⟨window, total stored window amount⟩
  else none

/-- What a history of amounts has admitted in a window. -/
def admitted (window : Window) : List (Window × Nat) → Nat
  | [] => 0
  | (other, amount) :: history =>
      (if other = window then amount else 0) + admitted window history

theorem admitted_append (window : Window)
    (first second : List (Window × Nat)) :
    admitted window (first ++ second) =
      admitted window first + admitted window second := by
  induction first with
  | nil => rw [List.nil_append, admitted, Nat.zero_add]
  | cons entry first induction =>
      rw [List.cons_append, admitted, admitted, induction, Nat.add_assoc]

theorem admitted_concat (window : Window) (history : List (Window × Nat))
    (other : Window) (amount : Nat) :
    admitted window (history ++ [(other, amount)]) =
      admitted window history + if other = window then amount else 0 := by
  rw [admitted_append]
  rfl

theorem admitted_eq_zero {window : Window} {history : List (Window × Nat)}
    (others : ∀ entry ∈ history, entry.1 ≠ window) :
    admitted window history = 0 := by
  induction history with
  | nil => rfl
  | cons entry history induction =>
      rw [admitted, if_neg (others entry List.mem_cons_self),
        induction fun entry member =>
          others entry (List.mem_cons_of_mem _ member)]

end Counting

variable [LinearOrder Window]

/-- The counter accounts for the history. -/
structure Accounts (limit : Nat) (stored : Option (Counter Window))
    (history : List (Window × Nat)) : Prop where
  bounded : ∀ window, admitted window history ≤ limit
  unused : stored = none → history = []
  counted : ∀ counter, stored = some counter →
    counter.count = admitted counter.window history ∧
      ∀ entry ∈ history, entry.1 ≤ counter.window

theorem Accounts.initial (limit : Nat) :
    Accounts limit (none : Option (Counter Window)) [] where
  bounded _ := Nat.zero_le _
  unused _ := rfl
  counted _ := nofun

/-- No window of the history comes after the one that is counted. -/
def InOrder (stored : Option (Counter Window)) (window : Window) : Prop :=
  ∀ counter, stored = some counter → counter.window ≤ window

/-- In order, the total is what the window has admitted with the amount. -/
theorem Accounts.total_eq {limit amount : Nat}
    {stored : Option (Counter Window)} {history : List (Window × Nat)}
    {window : Window} (accounts : Accounts limit stored history)
    (inOrder : InOrder stored window) :
    total stored window amount = admitted window history + amount := by
  cases stored with
  | none =>
      rw [accounts.unused rfl, admitted, Nat.zero_add]
      rfl
  | some counter =>
      obtain ⟨counted, earlier⟩ := accounts.counted counter rfl
      by_cases same : counter.window = window
      · rw [total, if_pos same, counted, same]
      · have before : counter.window < window :=
          lt_of_le_of_ne (inOrder counter rfl) same
        have unseen : admitted window history = 0 := by
          apply admitted_eq_zero
          intro entry member isWindow
          have late := earlier entry member
          rw [isWindow] at late
          exact absurd before (not_lt_of_ge late)
        rw [total, if_neg same, unseen, Nat.zero_add]

/-- Admitting in order keeps the account. -/
theorem Accounts.charge {limit amount : Nat}
    {stored : Option (Counter Window)} {history : List (Window × Nat)}
    {window : Window} {next : Counter Window}
    (accounts : Accounts limit stored history)
    (inOrder : InOrder stored window)
    (admits : FixedWindow.charge limit stored window amount = some next) :
    Accounts limit (some next) (history ++ [(window, amount)]) := by
  have isTotal := @Accounts.total_eq _ _ _ amount _ _ _ accounts inOrder
  unfold FixedWindow.charge at admits
  split at admits
  · next fits =>
      cases admits
      rw [isTotal] at fits
      refine ⟨fun other => ?_, nofun, fun counter isNext => ?_⟩
      · rw [admitted_concat]
        split
        · next same =>
            rw [← same]
            exact fits
        · exact accounts.bounded other
      · cases isNext
        refine ⟨?_, fun entry member => ?_⟩
        · change total stored window amount = _
          rw [isTotal, admitted_concat, if_pos rfl]
        · change entry.1 ≤ window
          rw [List.mem_append, List.mem_singleton] at member
          rcases member with earlier | rfl
          · cases stored with
            | none =>
                rw [accounts.unused rfl] at earlier
                cases earlier
            | some counter =>
                exact le_trans ((accounts.counted counter rfl).2 entry earlier)
                  (inOrder counter rfl)
          · exact le_refl _
  · cases admits

end FixedWindow

end ControlForge
