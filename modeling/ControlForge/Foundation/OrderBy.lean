import Mathlib.Data.List.Sort

/-!
# Rows ordered by a key

`orderBy` is the stable `ORDER BY` of a query.  Strictly ordered lists of keys
are determined by their elements, which is how two ordered results are
compared.
-/

namespace ControlForge

variable {Row Key : Type} [LinearOrder Key]

/-- One row may stand before another. -/
def KeyLe (key : Row → Key) (left right : Row) : Prop :=
  key left ≤ key right

instance (key : Row → Key) : DecidableRel (KeyLe key) := fun left right =>
  inferInstanceAs (Decidable (key left ≤ key right))

instance (key : Row → Key) : IsTrans Row (KeyLe key) where
  trans _ _ _ first second := le_trans first second

instance (key : Row → Key) : Std.Total (KeyLe key) where
  total left right := le_total (key left) (key right)

def orderBy (key : Row → Key) (rows : List Row) : List Row :=
  rows.insertionSort (KeyLe key)

variable {key : Row → Key} {rows : List Row}

theorem orderBy_perm : (orderBy key rows).Perm rows :=
  List.perm_insertionSort _ _

@[simp] theorem mem_orderBy {row : Row} :
    row ∈ orderBy key rows ↔ row ∈ rows :=
  List.mem_insertionSort _

@[simp] theorem length_orderBy : (orderBy key rows).length = rows.length :=
  List.length_insertionSort _ _

theorem orderBy_sorted : (orderBy key rows).Pairwise (KeyLe key) :=
  List.pairwise_insertionSort _ _

/-- Rows that are in order stay as they are. -/
theorem orderBy_of_sorted (sorted : rows.Pairwise (KeyLe key)) :
    orderBy key rows = rows :=
  sorted.insertionSort_eq

theorem orderBy_keys_sorted :
    ((orderBy key rows).map key).Pairwise (· ≤ ·) :=
  List.pairwise_map.mpr orderBy_sorted

theorem orderBy_nodup (distinct : (rows.map key).Nodup) :
    ((orderBy key rows).map key).Nodup :=
  (orderBy_perm.map key).nodup_iff.mpr distinct

/-- Rows with distinct keys have one order, however they are listed. -/
theorem orderBy_congr {left right : List Row} (same : left.Perm right)
    (distinct : ∀ first ∈ left, ∀ second ∈ left, key first = key second →
      first = second) : orderBy key left = orderBy key right := by
  have ordered : (orderBy key left).Perm (orderBy key right) :=
    orderBy_perm.trans (same.trans orderBy_perm.symm)
  apply List.Perm.eq_of_pairwise ?_ orderBy_sorted orderBy_sorted ordered
  intro first second isFirst isSecond before after
  apply distinct first (mem_orderBy.mp isFirst) second
  · exact same.symm.subset (mem_orderBy.mp isSecond)
  · exact le_antisymm before after

/-- A row with few rows that may stand before it is on the first page. -/
theorem mem_take_orderBy {row : Row} (member : row ∈ rows) {limit : Nat}
    (ranked : rows.countP (fun other => key other ≤ key row) ≤ limit) :
    row ∈ (orderBy key rows).take limit := by
  by_contra missing
  have split := List.take_append_drop limit (orderBy key rows)
  have later : row ∈ (orderBy key rows).drop limit := by
    have found : row ∈ orderBy key rows := mem_orderBy.mpr member
    rw [← split, List.mem_append] at found
    exact found.resolve_left missing
  have sorted := @orderBy_sorted _ _ _ key rows
  rw [← split, List.pairwise_append] at sorted
  have before : ((orderBy key rows).take limit).countP
      (fun other => key other ≤ key row) =
        ((orderBy key rows).take limit).length := by
    apply List.countP_eq_length.mpr
    intro other first
    exact decide_eq_true (sorted.2.2 other first row later)
  have itself : 0 < ((orderBy key rows).drop limit).countP
      (fun other => key other ≤ key row) :=
    List.countP_pos_iff.mpr ⟨row, later, decide_eq_true (le_refl _)⟩
  have full : ((orderBy key rows).take limit).length = limit := by
    apply List.length_take_of_le
    have nonempty := List.length_pos_of_mem later
    rw [List.length_drop] at nonempty
    omega
  have counted := (@orderBy_perm _ _ _ key rows).countP_eq
    (fun other => key other ≤ key row)
  rw [← split, List.countP_append, before, full] at counted
  omega

/-- Ordered lists with the same elements are equal. -/
theorem eq_of_perm_sorted {left right : List Key} (same : left.Perm right)
    (leftSorted : left.Pairwise (· ≤ ·))
    (rightSorted : right.Pairwise (· ≤ ·)) : left = right :=
  same.eq_of_pairwise' leftSorted rightSorted

/-- A list of rows whose keys begin the keys of another list, and whose rows
occur there, begins that list. -/
theorem prefix_of_keys_prefix {Key : Type} {key : Row → Key}
    {first second : List Row}
    (keys : first.map key <+: second.map key)
    (determined : ∀ left ∈ first, ∀ right ∈ second,
      key left = key right → left = right) : first <+: second := by
  induction first generalizing second with
  | nil => exact List.nil_prefix
  | cons row first induction =>
      cases second with
      | nil => simp at keys
      | cons other second =>
          rw [List.map_cons, List.map_cons, List.cons_prefix_cons] at keys
          have sameRow := determined row List.mem_cons_self other
            List.mem_cons_self keys.1
          rw [List.cons_prefix_cons]
          refine ⟨sameRow, induction keys.2 ?_⟩
          intro left leftMember right rightMember
          exact determined left (List.mem_cons_of_mem _ leftMember) right
            (List.mem_cons_of_mem _ rightMember)

/-- Equally many distinct keys of a list are all of its keys. -/
theorem perm_of_subset_of_length {Key : Type} {left right : List Key}
    (distinct : left.Nodup) (subset : left ⊆ right)
    (length : right.length ≤ left.length) : left.Perm right :=
  (List.subperm_of_subset distinct subset).perm_of_length_le length

end ControlForge
