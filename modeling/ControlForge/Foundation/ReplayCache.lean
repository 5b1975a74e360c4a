import ControlForge.Foundation.Transition
import Mathlib.Data.List.Pairwise

/-!
# A cache of consumed keys with a retention time

Every admitted attempt stores its key for `retention` time units.  Entries are
purged at the instant they expire, so a key is admitted again exactly when at
least the retention time has passed.  `admittedOnce_iff` turns this into the
exact condition under which no key is admitted twice.
-/

namespace ControlForge

namespace ReplayCache

variable {Key : Type}

/-- One attempt to consume a key.  An attempt that fails for another reason is
not authentic, and never looks at the cache. -/
structure Attempt (Key : Type) where
  key : Key
  time : Int
  authentic : Bool
  admitted : Bool

structure State (Key : Type) where
  entries : List (Key × Int)
  clock : Int

/-- The key is stored and has not expired. -/
def Present (entries : List (Key × Int)) (key : Key) (time : Int) : Prop :=
  ∃ expiry, (key, expiry) ∈ entries ∧ time < expiry

/-- The entries left after a purge. -/
def purge (time : Int) (entries : List (Key × Int)) : List (Key × Int) :=
  entries.filter fun entry => time < entry.2

theorem mem_purge {time : Int} {entries : List (Key × Int)}
    {entry : Key × Int} :
    entry ∈ purge time entries ↔ entry ∈ entries ∧ time < entry.2 := by
  simp [purge]

inductive Step (retention : Int) :
    State Key → Attempt Key → State Key → Prop
  | refused {state : State Key} {key : Key} {time : Int}
      (later : state.clock ≤ time) :
      Step retention state ⟨key, time, false, false⟩ ⟨state.entries, time⟩
  | replayed {state : State Key} {key : Key} {time : Int}
      (later : state.clock ≤ time)
      (present : Present state.entries key time) :
      Step retention state ⟨key, time, true, false⟩ ⟨state.entries, time⟩
  | admitted {state : State Key} {key : Key} {time : Int}
      (later : state.clock ≤ time)
      (absent : ¬ Present state.entries key time) :
      Step retention state ⟨key, time, true, true⟩
        ⟨purge time state.entries ++ [(key, time + retention)], time⟩

def system (retention : Int) : TransitionSystem (State Key) (Attempt Key) where
  initial state := state.entries = []
  step := Step retention

/-- Two attempts that were both admitted with one key are a retention time
apart. -/
def Spaced (retention : Int) (earlier later : Attempt Key) : Prop :=
  earlier.admitted = true → later.admitted = true → earlier.key = later.key →
    earlier.time + retention ≤ later.time

/-- Two attempts are not both admitted with one key. -/
def AdmittedOnce (earlier later : Attempt Key) : Prop :=
  ¬ (earlier.admitted = true ∧ later.admitted = true ∧
    earlier.key = later.key)

instance : Std.Symm (@AdmittedOnce Key) where
  symm _ _ holds both := holds ⟨both.2.1, both.1, both.2.2.symm⟩

/-- Two authentic attempts with one key are less than the retention time
apart. -/
def Close (retention : Int) (earlier later : Attempt Key) : Prop :=
  earlier.authentic = true → later.authentic = true →
    earlier.key = later.key → later.time < earlier.time + retention

structure Invariant (retention : Int) (trace : List (Attempt Key))
    (state : State Key) : Prop where
  past : ∀ attempt ∈ trace, attempt.time ≤ state.clock
  authentic : ∀ attempt ∈ trace, attempt.admitted = true →
    attempt.authentic = true
  stored : ∀ entry ∈ state.entries, ∃ attempt ∈ trace,
    attempt.admitted = true ∧ attempt.key = entry.1 ∧
      entry.2 = attempt.time + retention
  kept : ∀ attempt ∈ trace, attempt.admitted = true →
    (attempt.key, attempt.time + retention) ∈ state.entries ∨
      attempt.time + retention ≤ state.clock
  spaced : trace.Pairwise (Spaced retention)
  /-- An authentic attempt that was not admitted repeats an admitted one that
  is still stored. -/
  covered : ∀ attempt ∈ trace, attempt.authentic = true →
    ∃ other ∈ trace, other.admitted = true ∧ other.key = attempt.key ∧
      other.time ≤ attempt.time ∧ attempt.time < other.time + retention

theorem invariant_nil (retention : Int) {state : State Key}
    (empty : state.entries = []) : Invariant retention [] state := by
  constructor <;> simp [empty]

private theorem forall_mem_snoc {trace : List (Attempt Key)}
    {attempt : Attempt Key} {property : Attempt Key → Prop}
    (before : ∀ old ∈ trace, property old) (last : property attempt) :
    ∀ old ∈ trace ++ [attempt], property old :=
  List.forall_mem_append.mpr ⟨before, List.forall_mem_singleton.mpr last⟩

/-- An attempt that is not admitted leaves the entries alone, and has only to
be covered itself. -/
private theorem invariant_notAdmitted {retention : Int}
    {trace : List (Attempt Key)} {state : State Key}
    {attempt : Attempt Key} (invariant : Invariant retention trace state)
    (later : state.clock ≤ attempt.time)
    (notAdmitted : attempt.admitted = false)
    (coveredLast : attempt.authentic = true →
      ∃ other ∈ trace, other.admitted = true ∧ other.key = attempt.key ∧
        other.time ≤ attempt.time ∧ attempt.time < other.time + retention) :
    Invariant retention (trace ++ [attempt]) ⟨state.entries, attempt.time⟩ := by
  constructor
  · apply forall_mem_snoc
    · intro old member
      exact Int.le_trans (invariant.past old member) later
    · exact Int.le_refl _
  · apply forall_mem_snoc invariant.authentic
    simp [notAdmitted]
  · intro entry member
    obtain ⟨old, oldMember, rest⟩ := invariant.stored entry member
    exact ⟨old, List.mem_append_left _ oldMember, rest⟩
  · apply forall_mem_snoc
    · intro old member isAdmitted
      exact (invariant.kept old member isAdmitted).imp_right
        fun expired => Int.le_trans expired later
    · simp [notAdmitted]
  · rw [List.pairwise_append]
    refine ⟨invariant.spaced, List.pairwise_singleton _ _, ?_⟩
    intro earlier _ last member _ lastAdmitted
    rw [List.mem_singleton.mp member, notAdmitted] at lastAdmitted
    cases lastAdmitted
  · intro old member isAuthentic
    have found : ∃ other ∈ trace, other.admitted = true ∧
        other.key = old.key ∧ other.time ≤ old.time ∧
        old.time < other.time + retention := by
      rcases List.mem_append.mp member with before | last
      · exact invariant.covered old before isAuthentic
      · rw [List.mem_singleton.mp last] at isAuthentic ⊢
        exact coveredLast isAuthentic
    obtain ⟨other, otherMember, rest⟩ := found
    exact ⟨other, List.mem_append_left _ otherMember, rest⟩

private theorem invariant_admitted {retention : Int}
    (positive : 0 < retention) {trace : List (Attempt Key)}
    {state : State Key} {key : Key} {time : Int}
    (invariant : Invariant retention trace state)
    (later : state.clock ≤ time)
    (absent : ¬ Present state.entries key time) :
    Invariant retention (trace ++ [⟨key, time, true, true⟩])
      ⟨purge time state.entries ++ [(key, time + retention)], time⟩ := by
  constructor
  · apply forall_mem_snoc
    · intro old member
      exact Int.le_trans (invariant.past old member) later
    · exact Int.le_refl _
  · exact forall_mem_snoc invariant.authentic fun _ => rfl
  · intro entry member
    rcases List.mem_append.mp member with before | last
    · obtain ⟨old, oldMember, rest⟩ :=
        invariant.stored entry (mem_purge.mp before).1
      exact ⟨old, List.mem_append_left _ oldMember, rest⟩
    · rw [List.mem_singleton.mp last]
      exact ⟨_, List.mem_append_right _ (List.mem_singleton_self _), rfl,
        rfl, rfl⟩
  · apply forall_mem_snoc
    · intro old member isAdmitted
      by_cases alive : time < old.time + retention
      · rcases invariant.kept old member isAdmitted with entryMember | expired
        · left
          apply List.mem_append_left
          exact mem_purge.mpr ⟨entryMember, alive⟩
        · exact .inr (Int.le_trans expired later)
      · exact .inr (Int.not_lt.mp alive)
    · intro _
      exact .inl (List.mem_append_right _ (List.mem_singleton_self _))
  · rw [List.pairwise_append]
    refine ⟨invariant.spaced, List.pairwise_singleton _ _, ?_⟩
    intro earlier member last lastMember earlierAdmitted _ sameKey
    rw [List.mem_singleton.mp lastMember] at sameKey ⊢
    rcases invariant.kept earlier member earlierAdmitted with
      entryMember | expired
    · -- The entry of the earlier attempt would have made this one a replay.
      by_contra tooEarly
      apply absent
      rw [sameKey] at entryMember
      exact ⟨_, entryMember, Int.not_le.mp tooEarly⟩
    · exact Int.le_trans expired later
  · intro old member isAuthentic
    rcases List.mem_append.mp member with before | last
    · obtain ⟨other, otherMember, rest⟩ :=
        invariant.covered old before isAuthentic
      exact ⟨other, List.mem_append_left _ otherMember, rest⟩
    · rw [List.mem_singleton.mp last]
      refine ⟨_, List.mem_append_right _ (List.mem_singleton_self _), rfl,
        rfl, Int.le_refl _, ?_⟩
      exact Int.lt_add_of_pos_right time positive

theorem invariant_step {retention : Int} (positive : 0 < retention)
    {trace : List (Attempt Key)} {state next : State Key}
    {attempt : Attempt Key} (invariant : Invariant retention trace state)
    (step : Step retention state attempt next) :
    Invariant retention (trace ++ [attempt]) next := by
  cases step with
  | refused later =>
      apply invariant_notAdmitted invariant later rfl
      intro isAuthentic
      cases isAuthentic
  | replayed later present =>
      apply invariant_notAdmitted invariant later rfl
      intro _
      obtain ⟨expiry, entryMember, notExpired⟩ := present
      obtain ⟨other, otherMember, isAdmitted, sameKey, expiryEq⟩ :=
        invariant.stored _ entryMember
      refine ⟨other, otherMember, isAdmitted, sameKey, ?_, ?_⟩
      · exact Int.le_trans (invariant.past other otherMember) later
      · exact expiryEq ▸ notExpired
  | admitted later absent =>
      exact invariant_admitted positive invariant later absent

theorem invariant_run {retention : Int} (positive : 0 < retention)
    {start finish : State Key} {trace : List (Attempt Key)}
    (empty : start.entries = [])
    (run : (system retention).Run start trace finish) :
    Invariant retention trace finish := by
  apply run.historyInvariant (invariant_nil retention empty)
  intro labels state attempt next holds _ step
  exact invariant_step positive holds step

/-- No key is admitted twice exactly when authentic attempts with one key are
never a retention time apart. -/
theorem admittedOnce_iff {retention : Int} (positive : 0 < retention)
    {start finish : State Key} {trace : List (Attempt Key)}
    (empty : start.entries = [])
    (run : (system retention).Run start trace finish) :
    trace.Pairwise AdmittedOnce ↔ trace.Pairwise (Close retention) := by
  have invariant := invariant_run positive empty run
  constructor
  · intro once
    rw [List.pairwise_iff_forall_sublist]
    intro earlier later sublist earlierAuthentic laterAuthentic sameKey
    by_contra apart
    have earlierMember : earlier ∈ trace := sublist.subset (by simp)
    have laterMember : later ∈ trace := sublist.subset (by simp)
    obtain ⟨first, firstMember, firstAdmitted, firstKey, firstBefore, -⟩ :=
      invariant.covered earlier earlierMember earlierAuthentic
    obtain ⟨second, secondMember, secondAdmitted, secondKey, -, secondNear⟩ :=
      invariant.covered later laterMember laterAuthentic
    have different : first ≠ second := by
      rintro rfl
      omega
    have notBoth := once.forall firstMember secondMember different
    apply notBoth
    exact ⟨firstAdmitted, secondAdmitted,
      firstKey.trans (sameKey.trans secondKey.symm)⟩
  · intro close
    rw [List.pairwise_iff_forall_sublist] at close ⊢
    intro earlier later sublist both
    obtain ⟨earlierAdmitted, laterAdmitted, sameKey⟩ := both
    have earlierMember : earlier ∈ trace := sublist.subset (by simp)
    have laterMember : later ∈ trace := sublist.subset (by simp)
    have near := close sublist
      (invariant.authentic earlier earlierMember earlierAdmitted)
      (invariant.authentic later laterMember laterAdmitted) sameKey
    have apart := (List.pairwise_iff_forall_sublist.mp invariant.spaced)
      sublist earlierAdmitted laterAdmitted sameKey
    omega

end ReplayCache

end ControlForge
