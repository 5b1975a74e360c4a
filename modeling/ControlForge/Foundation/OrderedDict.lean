import Mathlib.Data.List.Nodup
import Mathlib.Data.List.Lookmap

/-!
# Ordered dictionaries

A dictionary whose entries stand in the order in which they were last moved to
its end.  Bounding its size takes entries away at the front: what has been
moved to the end last goes last.
-/

namespace ControlForge

structure OrderedDict (Key Value : Type) where
  entries : List (Key × Value)
  distinct : (entries.map Prod.fst).Nodup

namespace OrderedDict

variable {Key Value : Type}

def empty : OrderedDict Key Value := ⟨[], List.nodup_nil⟩

/-- Take entries away at the front while there are more than `capacity`. -/
def trim (dict : OrderedDict Key Value) (capacity : Nat) :
    OrderedDict Key Value where
  entries := dict.entries.drop (dict.entries.length - capacity)
  distinct := by
    rw [List.map_drop]
    exact dict.distinct.sublist (List.drop_sublist ..)

variable {dict : OrderedDict Key Value} {capacity : Nat}

theorem trim_eq_self
    (short : dict.entries.length ≤ capacity) : dict.trim capacity = dict := by
  simp [trim, Nat.sub_eq_zero_of_le short]

theorem length_trim_le :
    (dict.trim capacity).entries.length ≤ capacity := by
  rw [trim, List.length_drop]
  omega

variable [DecidableEq Key]

def find? (dict : OrderedDict Key Value) (key : Key) : Option Value :=
  dict.entries.lookup key

/-- Take the entry of a key away and put one with a new value at the end. -/
def moveToEnd (dict : OrderedDict Key Value) (key : Key) (value : Value) :
    OrderedDict Key Value where
  entries := dict.entries.filter (·.1 ≠ key) ++ [(key, value)]
  distinct := by
    rw [List.map_append, List.nodup_append]
    refine ⟨dict.distinct.sublist (List.filter_sublist.map _),
      List.nodup_singleton _, ?_⟩
    intro found member other isKey same
    obtain ⟨entry, kept, rfl⟩ := List.mem_map.mp member
    rw [List.map_singleton, List.mem_singleton] at isKey
    simp only [ne_eq, decide_not, List.mem_filter] at kept
    simp [same, isKey] at kept

variable {key other : Key} {value : Value}

@[simp]
theorem find?_empty : (empty : OrderedDict Key Value).find? key = none := rfl

theorem find?_eq_none : dict.find? key = none ↔ key ∉ dict.entries.map Prod.fst := by
  rw [find?, List.lookup_eq_none_iff]
  constructor
  · intro differs member
    obtain ⟨entry, isEntry, rfl⟩ := List.mem_map.mp member
    simpa using differs entry isEntry
  · rintro absent entry isEntry
    have isKey : entry.1 ∈ dict.entries.map Prod.fst :=
      List.mem_map_of_mem isEntry
    rw [bne_iff_ne]
    rintro rfl
    exact absent isKey

theorem lookup_filter_ne {entries : List (Key × Value)} (differs : other ≠ key) :
    (entries.filter (·.1 ≠ key)).lookup other = entries.lookup other := by
  induction entries with
  | nil => rfl
  | cons entry entries induction =>
      obtain ⟨first, content⟩ := entry
      by_cases isKey : first = key
      · subst isKey
        have skipped : (other == first) = false := by
          simpa using differs
        simpa [List.lookup_cons, skipped] using induction
      · simp only [ne_eq, isKey, not_false_eq_true, decide_true,
          List.filter_cons_of_pos, List.lookup_cons]
        rw [← induction]

theorem find?_moveToEnd_self : (dict.moveToEnd key value).find? key = some value := by
  have gone : (dict.entries.filter (·.1 ≠ key)).lookup key = none := by
    rw [List.lookup_eq_none_iff]
    intro entry member
    have kept := (List.mem_filter.mp member).2
    simp only [ne_eq, decide_not, Bool.not_eq_true', decide_eq_false_iff_not]
      at kept
    simpa using Ne.symm kept
  rw [find?, moveToEnd]
  simp only
  rw [List.lookup_append, gone]
  simp

theorem find?_moveToEnd_ne (differs : other ≠ key) :
    (dict.moveToEnd key value).find? other = dict.find? other := by
  have notLast : ([(key, value)] : List (Key × Value)).lookup other = none := by
    simp [List.lookup_eq_none_iff, differs]
  rw [find?, moveToEnd]
  simp only
  rw [List.lookup_append, lookup_filter_ne differs, notLast, Option.or_none]
  rfl

theorem length_moveToEnd_le :
    (dict.moveToEnd key value).entries.length ≤ dict.entries.length + 1 := by
  rw [moveToEnd, List.length_append, List.length_singleton]
  exact Nat.add_le_add_right (List.length_filter_le ..) 1

/-- What has been moved to the end is not first, unless it is alone. -/
theorem head?_moveToEnd (others : 1 < (dict.moveToEnd key value).entries.length)
    (content : Value) :
    (dict.moveToEnd key value).entries.head? ≠ some (key, content) := by
  rw [moveToEnd] at others ⊢
  simp only at others ⊢
  cases kept : dict.entries.filter (·.1 ≠ key) with
  | nil =>
      rw [kept] at others
      simp at others
  | cons first rest =>
      have member : first ∈ dict.entries.filter (·.1 ≠ key) := by
        rw [kept]
        exact List.mem_cons_self
      have differs := (List.mem_filter.mp member).2
      rw [List.cons_append, List.head?_cons]
      rintro ⟨⟩
      simp at differs

/-- Moving an entry that is there adds none. -/
theorem length_moveToEnd_present (present : dict.find? key ≠ none) :
    (dict.moveToEnd key value).entries.length ≤ dict.entries.length := by
  have isKey : key ∈ dict.entries.map Prod.fst := by
    by_contra absent
    exact present (find?_eq_none.mpr absent)
  obtain ⟨entry, member, rfl⟩ := List.mem_map.mp isKey
  have fewer : (dict.entries.filter (·.1 ≠ entry.1)).length <
      dict.entries.length := by
    apply List.length_filter_lt_length_iff_exists.mpr
    exact ⟨entry, member, by simp⟩
  rw [moveToEnd, List.length_append, List.length_singleton]
  omega

theorem moveToEnd_absent (absent : dict.find? key = none) :
    (dict.moveToEnd key value).entries = dict.entries ++ [(key, value)] := by
  rw [moveToEnd]
  simp only
  rw [List.filter_eq_self.mpr]
  intro entry member
  have isKey : entry.1 ∈ dict.entries.map Prod.fst := List.mem_map_of_mem member
  simp only [ne_eq, decide_not, Bool.not_eq_true', decide_eq_false_iff_not]
  rintro rfl
  exact find?_eq_none.mp absent isKey

/-- One entry too many: trimming takes the first one, and no other. -/
theorem find?_trim
    (bound : dict.entries.length ≤ capacity + 1)
    (notFirst : capacity < dict.entries.length →
      ∀ content, dict.entries.head? ≠ some (key, content)) :
    (dict.trim capacity).find? key = dict.find? key := by
  by_cases short : dict.entries.length ≤ capacity
  · rw [trim_eq_self short]
  · have surplus : dict.entries.length - capacity = 1 := by
      omega
    rw [find?, find?, trim]
    simp only [surplus]
    cases isEntries : dict.entries with
    | nil => rfl
    | cons first rest =>
        have differs : key ≠ first.1 := by
          rintro rfl
          apply notFirst (by omega) first.2
          rw [isEntries]
          rfl
        rw [List.drop_one, List.tail_cons, List.lookup_cons]
        have skipped : (key == first.1) = false := by
          simpa using differs
        rw [skipped]

theorem find?_of_head? {content : Value}
    (first : dict.entries.head? = some (key, content)) :
    dict.find? key = some content := by
  obtain ⟨rest, isEntries⟩ := List.head?_eq_some_iff.mp first
  rw [find?, isEntries, List.lookup_cons_self]

theorem find?_trim_first {content : Value}
    (bound : dict.entries.length ≤ capacity + 1)
    (surplus : capacity < dict.entries.length)
    (first : dict.entries.head? = some (key, content)) :
    (dict.trim capacity).find? key = none := by
  obtain ⟨rest, isEntries⟩ := List.head?_eq_some_iff.mp first
  have one : dict.entries.length - capacity = 1 := by
    omega
  have distinct := dict.distinct
  rw [isEntries, List.map_cons, List.nodup_cons] at distinct
  rw [find?_eq_none, trim]
  simp only [one]
  rw [isEntries, List.drop_one, List.tail_cons]
  exact distinct.1

end OrderedDict

end ControlForge
