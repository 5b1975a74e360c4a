import Mathlib.Logic.Relation
import Mathlib.Data.List.Nodup

/-!
# Tables with a uniqueness constraint

A table is a list of rows, oldest first, no two of which clash: `clash` says
when two rows violate a primary key or a (partial) unique index.  An update
computes every selected row anew, lets the triggers and checks of the table
look at the old and the new row, and is refused when one of them objects or
when the new rows clash.

`Evolves` forgets the statements and keeps what they can do: append a fresh
row, or change rows one by one.
-/

namespace ControlForge

structure Table (Row : Type) (clash : Row → Row → Bool) where
  rows : List Row
  unique : rows.Pairwise fun earlier later => clash earlier later = false

namespace Table

variable {Row Failure : Type} {clash : Row → Row → Bool}

def empty : Table Row clash := ⟨[], .nil⟩

@[simp] theorem empty_rows : (empty : Table Row clash).rows = [] := rfl

/-! ## Insertion -/

/-- Append a row unless it clashes with a stored one. -/
def insert (table : Table Row clash) (row : Row) : Option (Table Row clash) :=
  if free : table.rows.all (fun stored => !clash stored row) = true then
    some ⟨table.rows ++ [row], by
      rw [List.pairwise_append]
      refine ⟨table.unique, List.pairwise_singleton _ _, ?_⟩
      intro stored member added addedMember
      rw [List.mem_singleton] at addedMember
      subst addedMember
      simpa using List.all_eq_true.mp free stored member⟩
  else none

theorem insert_eq_some {table next : Table Row clash} {row : Row} :
    table.insert row = some next ↔
      (∀ stored ∈ table.rows, clash stored row = false) ∧
        next.rows = table.rows ++ [row] := by
  unfold insert
  split
  · next free =>
      have noClash : ∀ stored ∈ table.rows, clash stored row = false := by
        simpa [List.all_eq_true] using free
      constructor
      · intro same
        cases same
        exact ⟨noClash, rfl⟩
      · rintro ⟨-, rows⟩
        cases next
        cases rows
        rfl
  · next blocked =>
      have clashes : ¬ ∀ stored ∈ table.rows, clash stored row = false := by
        simpa [List.all_eq_true] using blocked
      simp [clashes]

theorem insert_eq_none {table : Table Row clash} {row : Row} :
    table.insert row = none ↔
      ∃ stored ∈ table.rows, clash stored row = true := by
  unfold insert
  split
  · next free =>
      simpa [List.all_eq_true] using free
  · next blocked =>
      simpa [List.all_eq_true] using blocked

/-! ## Updates -/

def applyWhere (selected : Row → Bool) (change : Row → Row) (row : Row) :
    Row :=
  if selected row then change row else row

@[simp] theorem applyWhere_selected {selected : Row → Bool}
    {change : Row → Row} {row : Row} (isSelected : selected row = true) :
    applyWhere selected change row = change row := by
  simp [applyWhere, isSelected]

@[simp] theorem applyWhere_unselected {selected : Row → Bool}
    {change : Row → Row} {row : Row} (notSelected : selected row = false) :
    applyWhere selected change row = row := by
  simp [applyWhere, notSelected]

/-- The first objection of the guard to the change of a selected row. -/
def firstObjection (selected : Row → Bool) (change : Row → Row)
    (guard : Row → Row → Option Failure) (rows : List Row) : Option Failure :=
  rows.findSome? fun row =>
    if selected row then guard row (change row) else none

theorem firstObjection_eq_none {selected : Row → Bool} {change : Row → Row}
    {guard : Row → Row → Option Failure} {rows : List Row} :
    firstObjection selected change guard rows = none ↔
      ∀ row ∈ rows, selected row = true → guard row (change row) = none := by
  unfold firstObjection
  rw [List.findSome?_eq_none_iff]
  refine forall₂_congr fun row _ => ?_
  cases selected row <;> simp

/-- Update the selected rows and return how many there were. -/
def updateWhere (selected : Row → Bool) (change : Row → Row)
    (guard : Row → Row → Option Failure) (notUnique : Failure)
    (table : Table Row clash) : Except Failure (Nat × Table Row clash) :=
  match firstObjection selected change guard table.rows with
  | some failure => .error failure
  | none =>
      if unique : (table.rows.map (applyWhere selected change)).Pairwise
          (fun earlier later => clash earlier later = false) then
        .ok (table.rows.countP selected, ⟨_, unique⟩)
      else .error notUnique

theorem ext_rows {left right : Table Row clash}
    (same : left.rows = right.rows) : left = right := by
  cases left
  cases right
  cases same
  rfl

/-- What a successful update did. -/
theorem updateWhere_eq_ok {selected : Row → Bool} {change : Row → Row}
    {guard : Row → Row → Option Failure} {notUnique : Failure}
    {table next : Table Row clash} {count : Nat} :
    table.updateWhere selected change guard notUnique = .ok (count, next) ↔
      count = table.rows.countP selected ∧
        next.rows = table.rows.map (applyWhere selected change) ∧
        ∀ row ∈ table.rows, selected row = true →
          guard row (change row) = none := by
  rw [← firstObjection_eq_none]
  unfold updateWhere
  constructor
  · intro succeeded
    split at succeeded
    · cases succeeded
    · next passed =>
        split at succeeded
        · cases succeeded
          exact ⟨rfl, rfl, passed⟩
        · cases succeeded
  · rintro ⟨rfl, updated, passed⟩
    have stillUnique := next.unique
    rw [updated] at stillUnique
    simp only [passed, stillUnique, dite_true]
    congr 2
    exact ext_rows updated.symm

/-- An update that counts a row has changed a selected one. -/
theorem updateWhere_changed {selected : Row → Bool} {change : Row → Row}
    {guard : Row → Row → Option Failure} {notUnique : Failure}
    {table next : Table Row clash} {count : Nat}
    (updated : table.updateWhere selected change guard notUnique =
      .ok (count, next)) (positive : 0 < count) :
    ∃ row ∈ table.rows, selected row = true ∧ change row ∈ next.rows := by
  obtain ⟨counted, rows, -⟩ := updateWhere_eq_ok.mp updated
  rw [counted] at positive
  obtain ⟨row, member, isSelected⟩ := List.countP_pos_iff.mp positive
  refine ⟨row, member, isSelected, ?_⟩
  have changed := List.mem_map_of_mem (f := applyWhere selected change) member
  rwa [applyWhere_selected isSelected, ← rows] at changed

/-- An update that keeps the clash-relevant part of every row, and to whose
changes no guard objects, is carried out. -/
theorem updateWhere_succeeds {selected : Row → Bool} {change : Row → Row}
    {guard : Row → Row → Option Failure} {notUnique : Failure}
    {table : Table Row clash}
    (passed : ∀ row ∈ table.rows, selected row = true →
      guard row (change row) = none)
    (stillUnique : (table.rows.map (applyWhere selected change)).Pairwise
      fun earlier later => clash earlier later = false) :
    table.updateWhere selected change guard notUnique =
      .ok (table.rows.countP selected,
        ⟨table.rows.map (applyWhere selected change), stillUnique⟩) := by
  rw [updateWhere_eq_ok]
  exact ⟨rfl, rfl, passed⟩

/-- An update is refused by the guard of a selected row, or because the new
rows would clash. -/
theorem updateWhere_error {selected : Row → Bool} {change : Row → Row}
    {guard : Row → Row → Option Failure} {notUnique failure : Failure}
    {table : Table Row clash}
    (refused : table.updateWhere selected change guard notUnique =
      .error failure) :
    (∃ row ∈ table.rows, selected row = true ∧
      guard row (change row) = some failure) ∨
    (failure = notUnique ∧
      ¬ (table.rows.map (applyWhere selected change)).Pairwise
        fun earlier later => clash earlier later = false) := by
  unfold updateWhere at refused
  split at refused
  · next objection raised =>
      cases refused
      obtain ⟨row, member, isRaised⟩ := List.exists_of_findSome?_eq_some raised
      split at isRaised
      · next isSelected => exact .inl ⟨row, member, isSelected, isRaised⟩
      · cases isRaised
  · split at refused
    · cases refused
    · next clashes =>
        cases refused
        exact .inr ⟨rfl, clashes⟩

/-- A change of rows that their clashes do not see keeps them apart. -/
theorem map_unique {table : Table Row clash} {update : Row → Row}
    (same : ∀ left right, clash (update left) (update right) =
      clash left right) :
    (table.rows.map update).Pairwise
      fun earlier later => clash earlier later = false := by
  rw [List.pairwise_map]
  refine table.unique.imp fun {left right} noClash => ?_
  rw [same]
  exact noClash

theorem updateWhere_none_selected {selected : Row → Bool}
    {change : Row → Row} {guard : Row → Row → Option Failure}
    {notUnique : Failure} {table : Table Row clash}
    (unselected : ∀ row ∈ table.rows, selected row = false) :
    table.updateWhere selected change guard notUnique = .ok (0, table) := by
  have same : table.rows.map (applyWhere selected change) = table.rows := by
    rw [List.map_congr_left (g := id), List.map_id]
    intro row member
    simp [applyWhere, unselected row member]
  rw [updateWhere_eq_ok]
  refine ⟨?_, same.symm, ?_⟩
  · rw [eq_comm, List.countP_eq_zero]
    intro row member
    simp [unselected row member]
  · intro row member isSelected
    simp [unselected row member] at isSelected

/-! ## Deletion -/

def deleteWhere (selected : Row → Bool) (table : Table Row clash) :
    Table Row clash where
  rows := table.rows.filter fun row => !selected row
  unique := table.unique.filter _

@[simp] theorem mem_deleteWhere {selected : Row → Bool}
    {table : Table Row clash} {row : Row} :
    row ∈ (table.deleteWhere selected).rows ↔
      row ∈ table.rows ∧ selected row = false := by
  simp [deleteWhere]

/-- An update that the clashes do not see and no guard looks at. -/
def mapRows (update : Row → Row)
    (same : ∀ left right, clash (update left) (update right) =
      clash left right) (table : Table Row clash) : Table Row clash where
  rows := table.rows.map update
  unique := by
    rw [List.pairwise_map]
    refine table.unique.imp fun {left right} noClash => ?_
    rw [same]
    exact noClash

/-! ## Lookup by a key -/

/-- With a key that makes rows clash, equal keys mean equal rows. -/
theorem eq_of_clash {table : Table Row clash} {left right : Row}
    (leftMember : left ∈ table.rows) (rightMember : right ∈ table.rows)
    (clashes : clash left right = true) (clashesBack : clash right left = true) :
    left = right := by
  by_contra different
  obtain ⟨leftIndex, leftBound, rfl⟩ := List.getElem_of_mem leftMember
  obtain ⟨rightIndex, rightBound, rfl⟩ := List.getElem_of_mem rightMember
  have ordered := List.pairwise_iff_getElem.mp table.unique
  rcases Nat.lt_trichotomy leftIndex rightIndex with less | same | greater
  · simp [ordered leftIndex rightIndex leftBound rightBound less] at clashes
  · subst same
    exact different rfl
  · simp [ordered rightIndex leftIndex rightBound leftBound greater]
      at clashesBack

/-- The row with a key that makes rows clash is the one a lookup finds. -/
theorem find?_eq_some_of_clash {table : Table Row clash} {row : Row}
    {hasKey : Row → Bool} (member : row ∈ table.rows)
    (isKeyed : hasKey row = true)
    (clashes : ∀ other, hasKey other = true →
      clash row other = true ∧ clash other row = true) :
    table.rows.find? hasKey = some row := by
  cases found : table.rows.find? hasKey with
  | none =>
      have notKeyed := List.find?_eq_none.mp found row member
      exact absurd isKeyed notKeyed
  | some other =>
      have otherKeyed := List.find?_some found
      have otherMember := List.mem_of_find?_eq_some found
      obtain ⟨forward, backward⟩ := clashes other otherKeyed
      rw [eq_of_clash member otherMember forward backward]

/-! ## Replacing one row -/

/-- The rows after are the rows before with one of them replaced. -/
structure Replaced (before after : List Row) (old new : Row) : Prop where
  mem : old ∈ before
  iff : ∀ row, row ∈ after ↔ row = new ∨ (row ∈ before ∧ row ≠ old)

section Replaced

variable {before after : List Row} {old new : Row}

theorem Replaced.new_mem (replaced : Replaced before after old new) :
    new ∈ after :=
  (replaced.iff new).mpr (.inl rfl)

theorem Replaced.keeps (replaced : Replaced before after old new) {row : Row}
    (member : row ∈ before) (other : row ≠ old) : row ∈ after :=
  (replaced.iff row).mpr (.inr ⟨member, other⟩)

theorem Replaced.cases (replaced : Replaced before after old new) {row : Row}
    (member : row ∈ after) : row = new ∨ (row ∈ before ∧ row ≠ old) :=
  (replaced.iff row).mp member

theorem Replaced.same (member : old ∈ before) :
    Replaced before before old old := by
  refine ⟨member, fun row => ⟨fun isMember => ?_, ?_⟩⟩
  · by_cases isOld : row = old
    · exact .inl isOld
    · exact .inr ⟨isMember, isOld⟩
  · rintro (rfl | ⟨isMember, -⟩)
    · exact member
    · exact isMember

/-- An update that selects no row but one with a unique key replaces it. -/
theorem Replaced.of_applyWhere {selected : Row → Bool} {change : Row → Row}
    (member : old ∈ before)
    (onlyOld : ∀ row ∈ before, selected row = true → row = old) :
    Replaced before (before.map (applyWhere selected change)) old
      (applyWhere selected change old) := by
  refine ⟨member, fun row => ⟨fun isMember => ?_, ?_⟩⟩
  · obtain ⟨source, sourceMember, rfl⟩ := List.mem_map.mp isMember
    by_cases isOld : source = old
    · exact .inl (by rw [isOld])
    · have unselected : selected source = false := by
        cases isSelected : selected source with
        | true => exact absurd (onlyOld source sourceMember isSelected) isOld
        | false => rfl
      rw [applyWhere_unselected unselected]
      exact .inr ⟨sourceMember, isOld⟩
  · rintro (rfl | ⟨isMember, other⟩)
    · exact List.mem_map_of_mem member
    · refine List.mem_map.mpr ⟨row, isMember, applyWhere_unselected ?_⟩
      cases isSelected : selected row with
      | true => exact absurd (onlyOld row isMember isSelected) other
      | false => rfl

/-- Selecting rows keeps a replacement that the selection does not see. -/
theorem Replaced.filter (replaced : Replaced before after old new)
    {keep : Row → Bool} (keptOld : keep old = true) (keptNew : keep new = true) :
    Replaced (before.filter keep) (after.filter keep) old new := by
  refine ⟨List.mem_filter.mpr ⟨replaced.mem, keptOld⟩, fun row => ?_⟩
  rw [List.mem_filter, List.mem_filter, replaced.iff]
  constructor
  · rintro ⟨isNew | ⟨member, other⟩, kept⟩
    · exact .inl isNew
    · exact .inr ⟨⟨member, kept⟩, other⟩
  · rintro (rfl | ⟨⟨member, kept⟩, other⟩)
    · exact ⟨.inl rfl, keptNew⟩
    · exact ⟨.inr ⟨member, other⟩, kept⟩

end Replaced

/-- How many rows an update selects when only one can be selected. -/
theorem countP_of_only {rows : List Row} {selected : Row → Bool} {old : Row}
    (nodup : rows.Nodup) (member : old ∈ rows)
    (onlyOld : ∀ row ∈ rows, selected row = true → row = old) :
    rows.countP selected = if selected old then 1 else 0 := by
  classical
  split
  · next isSelected =>
      have same : rows.countP selected = rows.count old := by
        apply List.countP_congr
        intro row isMember
        rw [beq_iff_eq]
        exact ⟨onlyOld row isMember, fun isOld => by rw [isOld, isSelected]⟩
      rw [same]
      exact List.count_eq_one_of_mem nodup member
  · next unselected =>
      rw [List.countP_eq_zero]
      intro row isMember isSelected
      rw [onlyOld row isMember isSelected] at isSelected
      exact unselected isSelected

/-- Rows that clash with themselves are stored once. -/
theorem nodup {table : Table Row clash}
    (self : ∀ row, clash row row = true) : table.rows.Nodup := by
  refine table.unique.imp fun {left right} noClash same => ?_
  rw [same, self] at noClash
  cases noClash

/-- The rows with a key that only one row has. -/
theorem filter_eq_singleton {table : Table Row clash}
    (self : ∀ row, clash row row = true) {hasKey : Row → Bool} {row : Row}
    (member : row ∈ table.rows) (isKeyed : hasKey row = true)
    (only : ∀ other ∈ table.rows, hasKey other = true → other = row) :
    table.rows.filter hasKey = [row] := by
  have distinct := (nodup self : table.rows.Nodup).filter hasKey
  have isMember : row ∈ table.rows.filter hasKey :=
    List.mem_filter.mpr ⟨member, isKeyed⟩
  have onlyRow : ∀ other ∈ table.rows.filter hasKey, other = row := by
    intro other isOther
    obtain ⟨otherMember, otherKeyed⟩ := List.mem_filter.mp isOther
    exact only other otherMember otherKeyed
  cases filtered : table.rows.filter hasKey with
  | nil => rw [filtered] at isMember; cases isMember
  | cons first rest =>
      rw [filtered] at distinct onlyRow
      have isFirst := onlyRow first List.mem_cons_self
      cases rest with
      | nil => rw [isFirst]
      | cons second rest =>
          have isSecond := onlyRow second (by simp)
          rw [isFirst, isSecond] at distinct
          simp at distinct

end Table

/-! ## Triggers -/

/-- The message of the first trigger whose condition holds. -/
def firstRaised : List (Bool × String) → Option String
  | [] => none
  | (raised, message) :: triggers =>
      if raised then some message else firstRaised triggers

@[simp] theorem firstRaised_nil : firstRaised [] = none := rfl

@[simp] theorem firstRaised_cons_eq_none {raised : Bool} {message : String}
    {triggers : List (Bool × String)} :
    firstRaised ((raised, message) :: triggers) = none ↔
      raised = false ∧ firstRaised triggers = none := by
  cases raised <;> simp [firstRaised]

/-! ## What statements can do to the rows -/

/-- One statement: append a fresh row, or change some rows in place. -/
inductive Statement {Row : Type} (fresh : Row → Prop)
    (change : Row → Row → Prop) : List Row → List Row → Prop
  | insert {rows : List Row} {row : Row} (isFresh : fresh row) :
      Statement fresh change rows (rows ++ [row])
  | update {rows : List Row} {update : Row → Row}
      (permitted : ∀ row ∈ rows, update row = row ∨ change row (update row)) :
      Statement fresh change rows (rows.map update)

/-- Any number of statements. -/
def Evolves {Row : Type} (fresh : Row → Prop) (change : Row → Row → Prop) :
    List Row → List Row → Prop :=
  Relation.ReflTransGen (Statement fresh change)

namespace Evolves

variable {Row : Type} {fresh : Row → Prop} {change : Row → Row → Prop}
  {before after : List Row}

theorem refl (rows : List Row) : Evolves fresh change rows rows :=
  Relation.ReflTransGen.refl

theorem trans {first second third : List Row}
    (left : Evolves fresh change first second)
    (right : Evolves fresh change second third) :
    Evolves fresh change first third :=
  Relation.ReflTransGen.trans left right

theorem insert {row : Row} (isFresh : fresh row) :
    Evolves fresh change before (before ++ [row]) :=
  .single (.insert isFresh)

theorem append {added : List Row} (allFresh : ∀ row ∈ added, fresh row) :
    Evolves fresh change before (before ++ added) := by
  induction added generalizing before with
  | nil =>
      rw [List.append_nil]
      exact refl before
  | cons row added induction =>
      have first : Evolves fresh change before (before ++ [row]) :=
        insert (allFresh row List.mem_cons_self)
      have rest : Evolves fresh change (before ++ [row])
          (before ++ [row] ++ added) :=
        induction fun other member =>
          allFresh other (List.mem_cons_of_mem _ member)
      rw [List.append_assoc] at rest
      exact trans first rest

theorem update {rowUpdate : Row → Row}
    (permitted : ∀ row ∈ before,
      rowUpdate row = row ∨ change row (rowUpdate row)) :
    Evolves fresh change before (before.map rowUpdate) :=
  .single (.update permitted)

theorem mono {fresh' : Row → Prop} {change' : Row → Row → Prop}
    (freshImplies : ∀ row, fresh row → fresh' row)
    (changeImplies : ∀ old new, change old new → change' old new)
    (evolves : Evolves fresh change before after) :
    Evolves fresh' change' before after := by
  induction evolves with
  | refl => exact refl before
  | tail _ statement induction =>
      refine trans induction ?_
      cases statement with
      | insert isFresh => exact insert (freshImplies _ isFresh)
      | update permitted =>
          refine update fun row member => ?_
          exact (permitted row member).imp_right (changeImplies _ _)

/-- A row property that fresh rows have and changes keep holds of all rows. -/
theorem forall_mem {property : Row → Prop}
    (freshHolds : ∀ row, fresh row → property row)
    (changeKeeps : ∀ old new, property old → change old new → property new)
    (evolves : Evolves fresh change before after)
    (holds : ∀ row ∈ before, property row) :
    ∀ row ∈ after, property row := by
  induction evolves with
  | refl => exact holds
  | tail _ statement induction =>
      cases statement with
      | insert isFresh =>
          intro row member
          rcases List.mem_append.mp member with old | new
          · exact induction row old
          · rw [List.mem_singleton.mp new]
            exact freshHolds _ isFresh
      | update permitted =>
          intro row member
          obtain ⟨old, oldMember, rfl⟩ := List.mem_map.mp member
          rcases permitted old oldMember with same | changed
          · rw [same]
            exact induction old oldMember
          · exact changeKeeps _ _ (induction old oldMember) changed

/-- Every row has a descendant. -/
theorem descendant (evolves : Evolves fresh change before after)
    {row : Row} (member : row ∈ before) :
    ∃ next ∈ after, Relation.ReflTransGen change row next := by
  induction evolves with
  | refl => exact ⟨row, member, .refl⟩
  | tail _ statement induction =>
      obtain ⟨middle, middleMember, reached⟩ := induction
      cases statement with
      | insert isFresh =>
          exact ⟨middle, List.mem_append_left _ middleMember, reached⟩
      | @update rowUpdate permitted =>
          refine ⟨rowUpdate middle, List.mem_map_of_mem middleMember, ?_⟩
          rcases permitted middle middleMember with same | changed
          · rw [same]
            exact reached
          · exact reached.tail changed

/-- Every row descends from a stored one or from a fresh one. -/
theorem ancestor (evolves : Evolves fresh change before after)
    {row : Row} (member : row ∈ after) :
    (∃ old ∈ before, Relation.ReflTransGen change old row) ∨
      ∃ new, fresh new ∧ Relation.ReflTransGen change new row := by
  induction evolves generalizing row with
  | refl => exact .inl ⟨row, member, .refl⟩
  | tail _ statement induction =>
      cases statement with
      | insert isFresh =>
          rcases List.mem_append.mp member with old | new
          · exact induction old
          · rw [List.mem_singleton.mp new]
            exact .inr ⟨_, isFresh, .refl⟩
      | update permitted =>
          obtain ⟨middle, middleMember, rfl⟩ := List.mem_map.mp member
          rcases permitted middle middleMember with same | changed
          · rw [same]
            exact induction middleMember
          · rcases induction middleMember with
              ⟨old, oldMember, reached⟩ | ⟨new, isFresh, reached⟩
            · exact .inl ⟨old, oldMember, reached.tail changed⟩
            · exact .inr ⟨new, isFresh, reached.tail changed⟩

end Evolves

/-! ## What has ended stays ended -/

section Retention

variable {Row Key : Type} {key : Row → Key} {ended : Row → Bool}

/-- A change of a row that keeps its key and does not revive it. -/
structure Retains (key : Row → Key) (ended : Row → Bool) (old new : Row) :
    Prop where
  same : key new = key old
  stays : ended old = true → ended new = true

/-- Rows are added and changed, and none that has ended is revived. -/
abbrev Kept (key : Row → Key) (ended : Row → Bool) :
    List Row → List Row → Prop :=
  Evolves (fun _ => True) (Retains key ended)

/-- A row with the key has ended. -/
def HasEnded (key : Row → Key) (ended : Row → Bool) (rows : List Row)
    (id : Key) : Prop :=
  ∃ row ∈ rows, key row = id ∧ ended row = true

theorem Retains.reached {old new : Row}
    (reached : Relation.ReflTransGen (Retains key ended) old new) :
    Retains key ended old new := by
  induction reached with
  | refl => exact ⟨rfl, id⟩
  | tail _ step induction =>
      exact ⟨step.same.trans induction.same, step.stays ∘ induction.stays⟩

theorem Kept.hasEnded {before after : List Row} {id : Key}
    (kept : Kept key ended before after)
    (hasEnded : HasEnded key ended before id) :
    HasEnded key ended after id := by
  obtain ⟨row, member, isKey, isEnded⟩ := hasEnded
  obtain ⟨next, nextMember, reached⟩ := kept.descendant member
  have retains := Retains.reached reached
  exact ⟨next, nextMember, retains.same.trans isKey, retains.stays isEnded⟩

/-- Where equal keys clash, every row with the key of an ended row has
ended. -/
theorem HasEnded.all {clash : Row → Row → Bool} {table : Table Row clash}
    (keyed : ∀ left right, key left = key right → clash left right = true)
    {id : Key} (hasEnded : HasEnded key ended table.rows id) :
    ∀ row ∈ table.rows, key row = id → ended row = true := by
  intro row member isKey
  obtain ⟨stored, storedMember, storedKey, isEnded⟩ := hasEnded
  have sameKey : key row = key stored := isKey.trans storedKey.symm
  have same : row = stored :=
    Table.eq_of_clash member storedMember (keyed _ _ sameKey)
      (keyed _ _ sameKey.symm)
  rw [same]
  exact isEnded

/-- An update in place whose changes retain the selected rows. -/
theorem Kept.applyWhere {rows : List Row} {selected : Row → Bool}
    {change : Row → Row}
    (retains : ∀ row ∈ rows, selected row = true →
      Retains key ended row (change row)) :
    Kept key ended rows (rows.map (Table.applyWhere selected change)) := by
  refine Evolves.update fun row member => ?_
  cases isSelected : selected row with
  | false => exact .inl (Table.applyWhere_unselected isSelected)
  | true =>
      rw [Table.applyWhere_selected isSelected]
      exact .inr (retains row member isSelected)

/-- An update that ends what it selects ends every selected row. -/
theorem HasEnded.applyWhere {rows : List Row} {selected : Row → Bool}
    {change : Row → Row} {row : Row} (member : row ∈ rows)
    (sameKey : key (change row) = key row)
    (ends : selected row = true → ended (change row) = true)
    (otherwise : selected row = false → ended row = true) :
    HasEnded key ended (rows.map (Table.applyWhere selected change))
      (key row) := by
  refine ⟨_, List.mem_map_of_mem member, ?_⟩
  cases isSelected : selected row with
  | false =>
      rw [Table.applyWhere_unselected isSelected]
      exact ⟨rfl, otherwise isSelected⟩
  | true =>
      rw [Table.applyWhere_selected isSelected]
      exact ⟨sameKey, ends isSelected⟩

end Retention

end ControlForge
