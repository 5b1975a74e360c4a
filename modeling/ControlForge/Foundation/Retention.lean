import ControlForge.Foundation.Table

/-!
# What lasts

What holds of an item may last from one state of a table to the next.  A key is
spent when rows carry it and all of them have ended.  Statements that add rows
with new keys, and change rows without reviving them, keep every spent key spent.
-/

namespace ControlForge

/-! ## Items -/

/-- What holds of an item still holds of it. -/
def Lasts {Rows Item : Type} (holds : Rows → Item → Prop)
    (before after : Rows) : Prop :=
  ∀ item, holds before item → holds after item

@[refl] theorem Lasts.refl {Rows Item : Type} {holds : Rows → Item → Prop}
    (rows : Rows) : Lasts holds rows rows :=
  fun _ held => held

theorem Lasts.trans {Rows Item : Type} {holds : Rows → Item → Prop}
    {first second third : Rows} (left : Lasts holds first second)
    (right : Lasts holds second third) : Lasts holds first third :=
  fun item held => right item (left item held)

/-- A row is stored, as what it has become. -/
def Becomes {Row : Type} (develops : Row → Row → Prop) (rows : List Row)
    (row : Row) : Prop :=
  ∃ later ∈ rows, develops row later

abbrev Developed {Row : Type} (develops : Row → Row → Prop) :
    List Row → List Row → Prop :=
  Lasts (Becomes develops)

namespace Developed

variable {Row : Type} {develops : Row → Row → Prop} {before after : List Row}

/-- What a row has become. -/
theorem row [Std.Refl develops] (developed : Developed develops before after)
    {row : Row} (member : row ∈ before) : ∃ later ∈ after, develops row later :=
  developed row ⟨row, member, Std.Refl.refl row⟩

theorem append (added : List Row) :
    Developed develops before (before ++ added) := by
  rintro row ⟨later, member, isLater⟩
  exact ⟨later, List.mem_append_left _ member, isLater⟩

theorem map [IsTrans Row develops] {change : Row → Row}
    (permitted : ∀ row ∈ before, develops row (change row)) :
    Developed develops before (before.map change) := by
  rintro row ⟨later, member, isLater⟩
  exact ⟨change later, List.mem_map_of_mem member,
    IsTrans.trans _ _ _ isLater (permitted later member)⟩

theorem applyWhere [Std.Refl develops] [IsTrans Row develops]
    {selected : Row → Bool} {change : Row → Row}
    (permitted : ∀ row, selected row = true → develops row (change row)) :
    Developed develops before
      (before.map (Table.applyWhere selected change)) := by
  refine map fun row _ => ?_
  cases isSelected : selected row with
  | false =>
      rw [Table.applyWhere_unselected isSelected]
      exact Std.Refl.refl row
  | true =>
      rw [Table.applyWhere_selected isSelected]
      exact permitted row isSelected

end Developed

/-! ## Keys -/

section Retention

variable {Row Key : Type} {key : Row → Key} {ended : Row → Bool}

/-- There is a row with the key, and every such row has ended. -/
def Spent (key : Row → Key) (ended : Row → Bool) (rows : List Row) (id : Key) :
    Prop :=
  (∃ row ∈ rows, key row = id) ∧ ∀ row ∈ rows, key row = id → ended row = true

/-- Keys stay distinct, and what is spent stays spent. -/
structure Retained (key : Row → Key) (ended : Row → Bool)
    (before after : List Row) : Prop where
  distinct : (before.map key).Nodup → (after.map key).Nodup
  spent : ∀ id, Spent key ended before id → Spent key ended after id

namespace Retained

theorem refl (key : Row → Key) (ended : Row → Bool) (rows : List Row) :
    Retained key ended rows rows :=
  ⟨id, fun _ => id⟩

theorem trans {first second third : List Row}
    (left : Retained key ended first second)
    (right : Retained key ended second third) :
    Retained key ended first third :=
  ⟨right.distinct ∘ left.distinct,
    fun id spent => right.spent id (left.spent id spent)⟩

/-- A row with a new key is added. -/
theorem insert {rows : List Row} {row : Row}
    (isNew : ∀ stored ∈ rows, key stored ≠ key row) :
    Retained key ended rows (rows ++ [row]) := by
  constructor
  · intro distinct
    rw [List.map_append]
    refine List.nodup_append.mpr ⟨distinct, List.nodup_singleton _, ?_⟩
    intro id member other isOther
    obtain ⟨stored, storedMember, rfl⟩ := List.mem_map.mp member
    rw [List.map_singleton, List.mem_singleton] at isOther
    rw [isOther]
    exact isNew stored storedMember
  · rintro id ⟨⟨stored, storedMember, rfl⟩, all⟩
    refine ⟨⟨stored, List.mem_append_left _ storedMember, rfl⟩, ?_⟩
    intro other otherMember sameKey
    rcases List.mem_append.mp otherMember with old | added
    · exact all other old sameKey
    · rw [List.mem_singleton.mp added] at sameKey
      exact absurd sameKey.symm (isNew stored storedMember)

/-- Rows are changed in place, and none that has ended is revived. -/
theorem update {rows : List Row} {change : Row → Row}
    (retains : ∀ row ∈ rows, Retains key ended row (change row)) :
    Retained key ended rows (rows.map change) := by
  have keys : (rows.map change).map key = rows.map key := by
    rw [List.map_map]
    exact List.map_congr_left fun row member => (retains row member).same
  constructor
  · intro distinct
    rw [keys]
    exact distinct
  · rintro id ⟨⟨stored, storedMember, isKey⟩, all⟩
    constructor
    · exact ⟨_, List.mem_map_of_mem storedMember,
        (retains stored storedMember).same.trans isKey⟩
    · intro other otherMember sameKey
      obtain ⟨row, rowMember, rfl⟩ := List.mem_map.mp otherMember
      have rowRetains := retains row rowMember
      exact rowRetains.stays
        (all row rowMember (rowRetains.same.symm.trans sameKey))

theorem applyWhere {rows : List Row} {selected : Row → Bool}
    {change : Row → Row}
    (retains : ∀ row, selected row = true →
      Retains key ended row (change row)) :
    Retained key ended rows (rows.map (Table.applyWhere selected change)) := by
  refine update fun row _ => ?_
  cases isSelected : selected row with
  | false =>
      rw [Table.applyWhere_unselected isSelected]
      exact ⟨rfl, id⟩
  | true =>
      rw [Table.applyWhere_selected isSelected]
      exact retains row isSelected

end Retained

/-- Where keys are distinct, an update that ends a selected row spends its
key. -/
theorem Spent.applyWhere {rows : List Row} {selected : Row → Bool}
    {change : Row → Row} {row : Row} (distinct : (rows.map key).Nodup)
    (member : row ∈ rows) (isSelected : selected row = true)
    (keeps : ∀ other, selected other = true → key (change other) = key other)
    (ends : ended (change row) = true) :
    Spent key ended (rows.map (Table.applyWhere selected change))
      (key row) := by
  constructor
  · refine ⟨_, List.mem_map_of_mem member, ?_⟩
    rw [Table.applyWhere_selected isSelected]
    exact keeps row isSelected
  · intro other otherMember sameKey
    obtain ⟨old, oldMember, rfl⟩ := List.mem_map.mp otherMember
    have keyKept : key (Table.applyWhere selected change old) = key old := by
      cases oldSelected : selected old with
      | false => rw [Table.applyWhere_unselected oldSelected]
      | true =>
          rw [Table.applyWhere_selected oldSelected]
          exact keeps old oldSelected
    have same : old = row :=
      List.inj_on_of_nodup_map distinct oldMember member
        (keyKept.symm.trans sameKey)
    rw [same, Table.applyWhere_selected isSelected]
    exact ends

/-- An update that selects a row which has not ended, and ends it, spends a key
that was not spent. -/
theorem Spent.once {rows : List Row} {selected : Row → Bool}
    {change : Row → Row} {row : Row} {id : Key}
    (distinct : (rows.map key).Nodup) (member : row ∈ rows)
    (isSelected : selected row = true) (isKey : key row = id)
    (notEnded : ended row = false)
    (keeps : ∀ other, selected other = true → key (change other) = key other)
    (ends : ended (change row) = true) :
    ¬ Spent key ended rows id ∧
      Spent key ended (rows.map (Table.applyWhere selected change)) id := by
  rw [← isKey]
  refine ⟨fun spent => ?_, .applyWhere distinct member isSelected keeps ends⟩
  rw [spent.2 row member rfl] at notEnded
  cases notEnded

/-- The keys of a table are distinct where equal keys clash. -/
theorem Table.distinct {clash : Row → Row → Bool} {table : Table Row clash}
    (keyed : ∀ left right, key left = key right → clash left right = true) :
    (table.rows.map key).Nodup := by
  refine List.pairwise_map.mpr (table.unique.imp fun {left right} noClash => ?_)
  intro same
  rw [keyed left right same] at noClash
  cases noClash

/-- The same for an insert into a table that lets no equal keys clash. -/
theorem Retained.tableInsert {clash : Row → Row → Bool}
    {table next : Table Row clash} {row : Row}
    (keyed : ∀ left right, key left = key right → clash left right = true)
    (inserted : table.insert row = some next) :
    Retained key ended table.rows next.rows := by
  obtain ⟨free, rows⟩ := Table.insert_eq_some.mp inserted
  rw [rows]
  refine .insert fun stored member same => ?_
  have noClash := free stored member
  rw [keyed stored row same] at noClash
  cases noClash

end Retention

end ControlForge
