import Mathlib.Data.List.Lex
import ControlForge.Foundation.JsonSort
import ControlForge.Foundation.OrderBy

/-!
# Canonical texts over code units

Where strings are sequences of UTF-16 code units, keys are ordered by them, and
where numbers are read before they are written, they may be written anew.  A
value has the same canonical text with and without either exactly when it is
portable.
-/

namespace ControlForge

namespace Json

/-! ## Code units -/

/-- The code units of a character. -/
def unitsOf (character : Char) : List Nat :=
  if character.toNat < 0x10000 then [character.toNat]
  else
    [0xD800 + (character.toNat - 0x10000) / 0x400,
      0xDC00 + (character.toNat - 0x10000) % 0x400]

def units (text : String) : List Nat :=
  text.toList.flatMap unitsOf

/-- The number of code units. -/
def unitLength (text : String) : Nat :=
  (units text).length

/-- The order of keys by code units. -/
def unitsLe (left right : String × Json) : Prop :=
  units left.1 ≤ units right.1

instance : DecidableRel unitsLe := fun left right =>
  inferInstanceAs (Decidable (units left.1 ≤ units right.1))

instance : IsTrans (String × Json) unitsLe where
  trans _ _ _ first second := @le_trans (List Nat) _ _ _ _ first second

instance : Std.Total unitsLe where
  total left right := le_total (units left.1) (units right.1)

/-- The first units of a text determine its first character. -/
theorem unitsOf_append {first second : Char} {left right : List Nat}
    (same : unitsOf first ++ left = unitsOf second ++ right) :
    first = second ∧ left = right := by
  have firstValid := not_surrogate first
  have secondValid := not_surrogate second
  unfold unitsOf at same
  split at same
  · split at same
    · simp only [List.cons_append, List.nil_append, List.cons.injEq] at same
      exact ⟨Char.toNat_inj.mp same.1, same.2⟩
    · simp only [List.cons_append, List.nil_append, List.cons.injEq] at same
      omega
  · split at same
    · simp only [List.cons_append, List.nil_append, List.cons.injEq] at same
      omega
    · simp only [List.cons_append, List.nil_append, List.cons.injEq] at same
      obtain ⟨high, low, rest⟩ := same
      refine ⟨Char.toNat_inj.mp ?_, rest⟩
      omega

theorem unitsOf_ne_nil (character : Char) : unitsOf character ≠ [] := by
  unfold unitsOf
  split
  · exact List.cons_ne_nil _ _
  · exact List.cons_ne_nil _ _

theorem units_injective : Function.Injective units := by
  intro left right same
  apply String.toList_injective
  unfold units at same
  generalize left.toList = lefts at same
  generalize right.toList = rights at same
  induction lefts generalizing rights with
  | nil =>
      cases rights with
      | nil => rfl
      | cons second rights =>
          simp [unitsOf_ne_nil] at same
  | cons first lefts induction =>
      cases rights with
      | nil => simp [unitsOf_ne_nil] at same
      | cons second rights =>
          rw [List.flatMap_cons, List.flatMap_cons] at same
          obtain ⟨rfl, rest⟩ := unitsOf_append same
          rw [induction rights rest]

/-! ## Values -/

mutual

/-- Every number of the value is finite. -/
def isStandard : Json → Bool
  | .float (.finite _ _) => true
  | .float .infinity | .float .negInfinity | .float .nan => false
  | .arr items => isStandardItems items
  | .obj members => isStandardMembers members
  | .null | .bool _ | .int _ | .str _ => true

def isStandardItems : List Json → Bool
  | [] => true
  | item :: items => isStandard item && isStandardItems items

def isStandardMembers : List (String × Json) → Bool
  | [] => true
  | (_, value) :: members => isStandard value && isStandardMembers members

end

theorem isStandardItems_eq_all (items : List Json) :
    isStandardItems items = items.all isStandard := by
  induction items with
  | nil => rfl
  | cons item items induction => simp [isStandardItems, induction]

theorem isStandardMembers_eq_all (members : List (String × Json)) :
    isStandardMembers members =
      members.all fun member => isStandard member.2 := by
  induction members with
  | nil => rfl
  | cons member members induction =>
      obtain ⟨key, value⟩ := member
      simp [isStandardMembers, induction]

/-- The value is a number. -/
def isNumber : Json → Bool
  | .int _ | .float _ => true
  | .null | .bool _ | .str _ | .arr _ | .obj _ => false

section Values

variable (reprint : Json → Json)

mutual

/-- A value with its numbers written anew. -/
def renumber : Json → Json
  | .int value => reprint (.int value)
  | .float value => reprint (.float value)
  | .arr items => .arr (renumberItems items)
  | .obj members => .obj (renumberMembers members)
  | .null => .null
  | .bool value => .bool value
  | .str value => .str value

def renumberItems : List Json → List Json
  | [] => []
  | item :: items => renumber item :: renumberItems items

def renumberMembers : List (String × Json) → List (String × Json)
  | [] => []
  | (key, value) :: members =>
      (key, renumber value) :: renumberMembers members

end

mutual

/-- The same value with the members of every object in the order of the code
units of their keys. -/
def sortUnits : Json → Json
  | .arr items => .arr (sortUnitsItems items)
  | .obj members => .obj ((sortUnitsMembers members).insertionSort unitsLe)
  | .null => .null
  | .bool value => .bool value
  | .int value => .int value
  | .float value => .float value
  | .str value => .str value

def sortUnitsItems : List Json → List Json
  | [] => []
  | item :: items => sortUnits item :: sortUnitsItems items

def sortUnitsMembers : List (String × Json) → List (String × Json)
  | [] => []
  | (key, value) :: members =>
      (key, sortUnits value) :: sortUnitsMembers members

end

mutual

/-- Every number is written as it is, and the keys of every object, in their
order, are in the order of their code units. -/
def Portable : Json → Prop
  | .int value => reprint (.int value) = .int value
  | .float value => reprint (.float value) = .float value
  | .arr items => PortableItems items
  | .obj members =>
      (((members.map Prod.fst).insertionSort (· ≤ ·)).Pairwise
        fun left right => units left ≤ units right) ∧
      PortableMembers members
  | .null | .bool _ | .str _ => True

def PortableItems : List Json → Prop
  | [] => True
  | item :: items => Portable item ∧ PortableItems items

def PortableMembers : List (String × Json) → Prop
  | [] => True
  | (_, value) :: members => Portable value ∧ PortableMembers members

end

/-! ## Portable values -/

theorem renumberMembers_eq_map (members : List (String × Json)) :
    renumberMembers reprint members =
      members.map fun member => (member.1, renumber reprint member.2) := by
  induction members with
  | nil => rfl
  | cons member members induction =>
      obtain ⟨key, value⟩ := member
      simp [renumberMembers, induction]

theorem sortUnitsMembers_eq_map (members : List (String × Json)) :
    sortUnitsMembers members =
      members.map fun member => (member.1, sortUnits member.2) := by
  induction members with
  | nil => rfl
  | cons member members induction =>
      obtain ⟨key, value⟩ := member
      simp [sortUnitsMembers, induction]

theorem portableMembers_iff {members : List (String × Json)} :
    PortableMembers reprint members ↔
      ∀ member ∈ members, Portable reprint member.2 := by
  induction members with
  | nil => simp [PortableMembers]
  | cons member members induction =>
      obtain ⟨key, value⟩ := member
      simp [PortableMembers, induction]

theorem sortUnits_number {value : Json} (isNumber : value.isNumber = true) :
    sortUnits value = value := by
  cases value with
  | int | float => rfl
  | null | bool | str | arr | obj => cases isNumber

/-- Two sortings of members agree when their values and their orders do. -/
theorem sorted_eq_iff {members : List (String × Json)}
    {leftValue rightValue : Json → Json}
    (distinct : (members.map Prod.fst).Nodup) :
    (members.map fun member => (member.1, leftValue member.2)).insertionSort
        keyLe =
      (members.map fun member => (member.1, rightValue member.2)).insertionSort
        unitsLe ↔
    (((members.map Prod.fst).insertionSort (· ≤ ·)).Pairwise
        fun left right => units left ≤ units right) ∧
      ∀ member ∈ members, leftValue member.2 = rightValue member.2 := by
  have keys : ((members.map fun member =>
      (member.1, leftValue member.2)).insertionSort keyLe).map Prod.fst =
        (members.map Prod.fst).insertionSort (· ≤ ·) := by
    rw [List.map_insertionSort keyLe
      (fun left right : String => left ≤ right) Prod.fst _
        (fun _ _ _ _ => Iff.rfl), List.map_map]
    rfl
  have inMembers : ∀ left ∈ members, ∀ right ∈ members,
      left.1 = right.1 → left = right := fun left isLeft right isRight =>
    List.inj_on_of_nodup_map distinct isLeft isRight
  rw [← keys, List.pairwise_map]
  constructor
  · intro same
    constructor
    · rw [same]
      exact List.pairwise_insertionSort unitsLe _
    · intro member isMember
      have sorted := (List.mem_insertionSort keyLe).mpr
        (List.mem_map_of_mem (f := fun member : String × Json =>
          (member.1, leftValue member.2)) isMember)
      rw [same, List.mem_insertionSort] at sorted
      obtain ⟨other, isOther, sameMember⟩ := List.mem_map.mp sorted
      obtain ⟨sameKey, sameValue⟩ := Prod.ext_iff.mp sameMember
      rw [inMembers other isOther member isMember sameKey] at sameValue
      exact sameValue.symm
  · rintro ⟨ordered, values⟩
    have sameMembers : (members.map fun member =>
        (member.1, rightValue member.2)) =
          members.map fun member => (member.1, leftValue member.2) := by
      apply List.map_congr_left
      intro member isMember
      rw [values member isMember]
    rw [sameMembers]
    apply List.Perm.eq_of_pairwise ?_ ordered
      (List.pairwise_insertionSort unitsLe _)
      ((List.perm_insertionSort keyLe _).trans
        (List.perm_insertionSort unitsLe _).symm)
    intro left right isLeft isRight notAfter notBefore
    rw [List.mem_insertionSort] at isLeft isRight
    obtain ⟨first, isFirst, rfl⟩ := List.mem_map.mp isLeft
    obtain ⟨second, isSecond, rfl⟩ := List.mem_map.mp isRight
    have sameUnits : units first.1 = units second.1 :=
      @le_antisymm (List Nat) _ _ _ notAfter notBefore
    rw [inMembers first isFirst second isSecond (units_injective sameUnits)]

variable {reprint}

/-- Numbers are written as numbers. -/
def Renumbers (reprint : Json → Json) : Prop :=
  ∀ value : Json, value.isNumber = true → (reprint value).isNumber = true

mutual

/-- Sorting the keys of a value as it is, and sorting them by code units once
the numbers are written anew, agree on portable values only. -/
theorem sortKeys_eq_iff (numbers : Renumbers reprint) (value : Json)
    (wellFormed : value.WellFormed) :
    sortKeys value = sortUnits (renumber reprint value) ↔
      Portable reprint value := by
  cases value with
  | null | bool | str => simp [sortKeys, renumber, sortUnits, Portable]
  | int value =>
      simp only [sortKeys, renumber, Portable,
        sortUnits_number (numbers (.int value) rfl)]
      exact eq_comm
  | float value =>
      simp only [sortKeys, renumber, Portable,
        sortUnits_number (numbers (.float value) rfl)]
      exact eq_comm
  | arr items =>
      simp only [sortKeys, renumber, sortUnits, Portable, Json.arr.injEq]
      exact sortKeysItems_eq_iff numbers items wellFormed
  | obj members =>
      simp only [sortKeys, renumber, sortUnits, Portable, Json.obj.injEq]
      rw [sortKeysMembers_eq_map, sortUnitsMembers_eq_map,
        renumberMembers_eq_map, List.map_map]
      have values := @sorted_eq_iff members sortKeys
        (fun value => sortUnits (renumber reprint value)) wellFormed.1
      have each := membersPortable_iff numbers members wellFormed.2
      rw [portableMembers_iff, ← each]
      exact values

theorem sortKeysItems_eq_iff (numbers : Renumbers reprint)
    (items : List Json)
    (wellFormed : WellFormedItems items) :
    sortKeysItems items = sortUnitsItems (renumberItems reprint items) ↔
      PortableItems reprint items := by
  cases items with
  | nil => simp [sortKeysItems, renumberItems, sortUnitsItems, PortableItems]
  | cons item items =>
      simp only [sortKeysItems, renumberItems, sortUnitsItems, PortableItems,
        List.cons.injEq]
      rw [sortKeys_eq_iff numbers item wellFormed.1,
        sortKeysItems_eq_iff numbers items wellFormed.2]

theorem membersPortable_iff (numbers : Renumbers reprint)
    (members : List (String × Json))
    (wellFormed : WellFormedMembers members) :
    (∀ member ∈ members,
      sortKeys member.2 = sortUnits (renumber reprint member.2)) ↔
      ∀ member ∈ members, Portable reprint member.2 := by
  cases members with
  | nil => simp
  | cons member members =>
      obtain ⟨key, value⟩ := member
      rw [List.forall_mem_cons, List.forall_mem_cons]
      exact and_congr (sortKeys_eq_iff numbers value wellFormed.1)
        (membersPortable_iff numbers members wellFormed.2)

end

mutual

/-- A portable value stays as it is. -/
theorem renumber_of_portable (value : Json)
    (portable : Portable reprint value) : renumber reprint value = value := by
  cases value with
  | null | bool | str => rfl
  | int value => exact portable
  | float value => exact portable
  | arr items => rw [renumber, renumberItems_of_portable items portable]
  | obj members =>
      rw [renumber, renumberMembers_of_portable members portable.2]

theorem renumberItems_of_portable (items : List Json)
    (portable : PortableItems reprint items) :
    renumberItems reprint items = items := by
  cases items with
  | nil => rfl
  | cons item items =>
      rw [renumberItems, renumber_of_portable item portable.1,
        renumberItems_of_portable items portable.2]

theorem renumberMembers_of_portable (members : List (String × Json))
    (portable : PortableMembers reprint members) :
    renumberMembers reprint members = members := by
  cases members with
  | nil => rfl
  | cons member members =>
      obtain ⟨key, value⟩ := member
      rw [renumberMembers, renumber_of_portable value portable.1,
        renumberMembers_of_portable members portable.2]

end

/-! ## Standard values -/

mutual

/-- Finite numbers written as finite numbers leave a value standard. -/
theorem isStandard_renumber
    (finite : ∀ value : Json, value.isNumber = true →
      value.isStandard = true → (reprint value).isStandard = true)
    (value : Json) (standard : value.isStandard = true) :
    (renumber reprint value).isStandard = true := by
  cases value with
  | null | bool | str => rfl
  | int value => exact finite (.int value) rfl standard
  | float value => exact finite (.float value) rfl standard
  | arr items => exact isStandardItems_renumber finite items standard
  | obj members => exact isStandardMembers_renumber finite members standard

theorem isStandardItems_renumber
    (finite : ∀ value : Json, value.isNumber = true →
      value.isStandard = true → (reprint value).isStandard = true)
    (items : List Json) (standard : isStandardItems items = true) :
    isStandardItems (renumberItems reprint items) = true := by
  cases items with
  | nil => rfl
  | cons item items =>
      simp only [isStandardItems, Bool.and_eq_true] at standard
      simp only [renumberItems, isStandardItems, Bool.and_eq_true]
      exact ⟨isStandard_renumber finite item standard.1,
        isStandardItems_renumber finite items standard.2⟩

theorem isStandardMembers_renumber
    (finite : ∀ value : Json, value.isNumber = true →
      value.isStandard = true → (reprint value).isStandard = true)
    (members : List (String × Json))
    (standard : isStandardMembers members = true) :
    isStandardMembers (renumberMembers reprint members) = true := by
  cases members with
  | nil => rfl
  | cons member members =>
      obtain ⟨key, value⟩ := member
      simp only [isStandardMembers, Bool.and_eq_true] at standard
      simp only [renumberMembers, isStandardMembers, Bool.and_eq_true]
      exact ⟨isStandard_renumber finite value standard.1,
        isStandardMembers_renumber finite members standard.2⟩

end

/-! ## Well-formed values -/

theorem wellFormed_number {value : Json} (isNumber : value.isNumber = true) :
    value.WellFormed := by
  cases value with
  | int | float => trivial
  | null | bool | str | arr | obj => cases isNumber

mutual

theorem wellFormed_renumber (numbers : Renumbers reprint) (value : Json)
    (wellFormed : value.WellFormed) : (renumber reprint value).WellFormed := by
  cases value with
  | null | bool | str => trivial
  | int value => exact wellFormed_number (numbers (.int value) rfl)
  | float value => exact wellFormed_number (numbers (.float value) rfl)
  | arr items => exact wellFormedItems_renumber numbers items wellFormed
  | obj members =>
      simp only [renumber, WellFormed] at wellFormed ⊢
      refine ⟨?_, wellFormedMembers_renumber numbers members wellFormed.2⟩
      rw [renumberMembers_eq_map, List.map_map]
      exact wellFormed.1

theorem wellFormedItems_renumber (numbers : Renumbers reprint)
    (items : List Json) (wellFormed : WellFormedItems items) :
    WellFormedItems (renumberItems reprint items) := by
  cases items with
  | nil => trivial
  | cons item items =>
      exact ⟨wellFormed_renumber numbers item wellFormed.1,
        wellFormedItems_renumber numbers items wellFormed.2⟩

theorem wellFormedMembers_renumber (numbers : Renumbers reprint)
    (members : List (String × Json)) (wellFormed : WellFormedMembers members) :
    WellFormedMembers (renumberMembers reprint members) := by
  cases members with
  | nil => trivial
  | cons member members =>
      obtain ⟨key, value⟩ := member
      exact ⟨wellFormed_renumber numbers value wellFormed.1,
        wellFormedMembers_renumber numbers members wellFormed.2⟩

end

mutual

theorem wellFormed_sortUnits (value : Json) (wellFormed : value.WellFormed) :
    (sortUnits value).WellFormed := by
  cases value with
  | null | bool | int | float | str => trivial
  | arr items => exact wellFormedItems_sortUnits items wellFormed
  | obj members =>
      simp only [sortUnits, WellFormed] at wellFormed ⊢
      obtain ⟨distinct, formed⟩ := wellFormed
      have permuted := List.perm_insertionSort unitsLe (sortUnitsMembers members)
      constructor
      · rw [(permuted.map Prod.fst).nodup_iff, sortUnitsMembers_eq_map,
          List.map_map]
        exact distinct
      · have sorted := wellFormedMembers_sortUnits members formed
        rw [wellFormedMembers_iff] at sorted ⊢
        intro member inSorted
        exact sorted member (permuted.mem_iff.mp inSorted)

theorem wellFormedItems_sortUnits (items : List Json)
    (wellFormed : WellFormedItems items) :
    WellFormedItems (sortUnitsItems items) := by
  cases items with
  | nil => trivial
  | cons item items =>
      exact ⟨wellFormed_sortUnits item wellFormed.1,
        wellFormedItems_sortUnits items wellFormed.2⟩

theorem wellFormedMembers_sortUnits (members : List (String × Json))
    (wellFormed : WellFormedMembers members) :
    WellFormedMembers (sortUnitsMembers members) := by
  cases members with
  | nil => trivial
  | cons member members =>
      obtain ⟨key, value⟩ := member
      exact ⟨wellFormed_sortUnits value wellFormed.1,
        wellFormedMembers_sortUnits members wellFormed.2⟩

end

/-- The canonical texts of a value agree on portable values only. -/
theorem canonical_eq_iff (numbers : Renumbers reprint) {value : Json}
    (wellFormed : value.WellFormed) :
    dumps false (sortKeys value) =
        dumps false (sortUnits (renumber reprint value)) ↔
      Portable reprint value := by
  rw [← sortKeys_eq_iff numbers value wellFormed]
  constructor
  · exact dumps_injective false (wellFormed_sortKeys value wellFormed)
      (wellFormed_sortUnits _ (wellFormed_renumber numbers value wellFormed))
  · intro same
    rw [same]

end Values

end Json

end ControlForge
