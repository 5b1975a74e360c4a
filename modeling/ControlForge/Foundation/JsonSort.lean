import ControlForge.Foundation.JsonRoundTrip

/-!
# Sorting the keys of a value

Sorting keeps a value well formed, so a sorted text reads back as the sorted
value, and leaves alone an object whose keys are in order.
-/

namespace ControlForge

namespace Json

theorem wellFormedItems_iff {items : List Json} :
    WellFormedItems items ↔ ∀ item ∈ items, item.WellFormed := by
  induction items with
  | nil => simp [WellFormedItems]
  | cons item items induction => simp [WellFormedItems, induction]

theorem wellFormedMembers_iff {members : List (String × Json)} :
    WellFormedMembers members ↔
      ∀ member ∈ members, member.2.WellFormed := by
  induction members with
  | nil => simp [WellFormedMembers]
  | cons member members induction =>
      obtain ⟨key, value⟩ := member
      simp [WellFormedMembers, induction]

@[simp] theorem wellFormedItems_strings (texts : List String) :
    WellFormedItems (texts.map .str) := by
  rw [wellFormedItems_iff]
  intro item member
  obtain ⟨text, -, rfl⟩ := List.mem_map.mp member
  trivial

@[simp] theorem sortKeysItems_strings (texts : List String) :
    sortKeysItems (texts.map .str) = texts.map .str := by
  induction texts with
  | nil => rfl
  | cons text texts induction => simp [sortKeysItems, sortKeys, induction]

theorem sortKeysMembers_eq_map (members : List (String × Json)) :
    sortKeysMembers members =
      members.map fun member => (member.1, sortKeys member.2) := by
  induction members with
  | nil => rfl
  | cons member members induction =>
      obtain ⟨key, value⟩ := member
      simp [sortKeysMembers, induction]

mutual

theorem wellFormed_sortKeys (value : Json) (wellFormed : value.WellFormed) :
    (sortKeys value).WellFormed := by
  cases value with
  | null | bool | int | float | str => trivial
  | arr items =>
      simp only [sortKeys, WellFormed] at wellFormed ⊢
      exact wellFormedItems_sortKeys items wellFormed
  | obj members =>
      simp only [sortKeys, WellFormed] at wellFormed ⊢
      obtain ⟨distinct, formed⟩ := wellFormed
      have sorted := wellFormedMembers_sortKeys members formed
      have permuted := List.perm_insertionSort keyLe (sortKeysMembers members)
      constructor
      · have keys := permuted.map Prod.fst
        rw [keys.nodup_iff, sortKeysMembers_eq_map, List.map_map]
        exact distinct
      · rw [wellFormedMembers_iff] at sorted ⊢
        intro member inSorted
        exact sorted member (permuted.mem_iff.mp inSorted)

theorem wellFormedItems_sortKeys (items : List Json)
    (wellFormed : WellFormedItems items) :
    WellFormedItems (sortKeysItems items) := by
  cases items with
  | nil => trivial
  | cons item items =>
      simp only [sortKeysItems, WellFormedItems] at wellFormed ⊢
      exact ⟨wellFormed_sortKeys item wellFormed.1,
        wellFormedItems_sortKeys items wellFormed.2⟩

theorem wellFormedMembers_sortKeys (members : List (String × Json))
    (wellFormed : WellFormedMembers members) :
    WellFormedMembers (sortKeysMembers members) := by
  cases members with
  | nil => trivial
  | cons member members =>
      obtain ⟨key, value⟩ := member
      simp only [sortKeysMembers, WellFormedMembers] at wellFormed ⊢
      exact ⟨wellFormed_sortKeys value wellFormed.1,
        wellFormedMembers_sortKeys members wellFormed.2⟩

end

/-- An object whose keys are in order, and whose values are sorted, is
sorted. -/
theorem sortKeys_of_sorted {members : List (String × Json)}
    (ordered : members.Pairwise keyLe)
    (sorted : ∀ member ∈ members, sortKeys member.2 = member.2) :
    sortKeys (.obj members) = .obj members := by
  have same : sortKeysMembers members = members := by
    rw [sortKeysMembers_eq_map]
    conv_rhs => rw [← List.map_id members]
    apply List.map_congr_left
    intro member isMember
    rw [sorted member isMember]
    rfl
  rw [sortKeys, same, ordered.insertionSort_eq]

/-- Objects that are sorted alike have the same keys with values that are
sorted alike. -/
theorem mem_of_sortKeys_eq {left right : List (String × Json)}
    (same : sortKeys (.obj left) = sortKeys (.obj right)) {key : String}
    {value : Json} (member : (key, value) ∈ left) :
    ∃ other, (key, other) ∈ right ∧ sortKeys other = sortKeys value := by
  simp only [sortKeys, Json.obj.injEq] at same
  have permuted : (sortKeysMembers left).Perm (sortKeysMembers right) := by
    have leftPerm := List.perm_insertionSort keyLe (sortKeysMembers left)
    have rightPerm := List.perm_insertionSort keyLe (sortKeysMembers right)
    rw [same] at leftPerm
    exact leftPerm.symm.trans rightPerm
  rw [sortKeysMembers_eq_map, sortKeysMembers_eq_map] at permuted
  have inRight := permuted.mem_iff.mp (List.mem_map_of_mem member)
  obtain ⟨⟨otherKey, other⟩, otherMember, isMember⟩ := List.mem_map.mp inRight
  obtain ⟨rfl, sorted⟩ := Prod.ext_iff.mp isMember
  exact ⟨other, otherMember, sorted⟩

theorem wellFormed_nil : (Json.obj []).WellFormed := by
  simp [WellFormed, WellFormedMembers]

end Json

/-- The members of a dictionary: its keys are distinct, at every depth. -/
structure Dict where
  members : List (String × Json)
  wellFormed : (Json.obj members).WellFormed := by
    first
    | exact Json.wellFormed_nil
    | simp [Json.WellFormed, Json.WellFormedMembers]

def Dict.json (dict : Dict) : Json :=
  .obj dict.members

end ControlForge
