import Mathlib.Data.List.Induction
import Mathlib.Data.List.Sort
import Mathlib.Data.List.TakeWhile
import Mathlib.Data.Prod.Lex
import ControlForge.Foundation.OrderBy

/-!
# Streams, windows and greatest elements

A stream that is read element by element keeps a window of its recent elements
or the last element of a kind; a query over the whole past filters it or takes
its greatest element.  On a stream that is in order both find the same.
-/

namespace ControlForge

variable {Item Key : Type}

/-! ## Greatest elements -/

/-- The first element whose key no other key exceeds. -/
def greatest [LinearOrder Key] (key : Item → Key) : List Item → Option Item
  | [] => none
  | item :: items =>
      some (items.foldl
        (fun best other => if key best < key other then other else best) item)

section Greatest

variable [LinearOrder Key] {key : Item → Key} {items : List Item}

theorem greatest_concat (items : List Item) (last : Item) :
    greatest key (items ++ [last]) =
      match greatest key items with
      | none => some last
      | some best => some (if key best < key last then last else best) := by
  cases items with
  | nil => rfl
  | cons item items => simp [greatest]

theorem greatest_eq_none : greatest key items = none ↔ items = [] := by
  cases items with
  | nil => simp [greatest]
  | cons item items => simp [greatest]

/-- What is found is an element, and no key is above its key. -/
theorem greatest_spec {best : Item} (found : greatest key items = some best) :
    best ∈ items ∧ ∀ item ∈ items, key item ≤ key best := by
  induction items using List.reverseRecOn generalizing best with
  | nil => cases found
  | append_singleton items last induction =>
      rw [greatest_concat] at found
      cases before : greatest key items with
      | none =>
          rw [before] at found
          cases found
          rw [greatest_eq_none.mp before]
          refine ⟨List.mem_singleton_self _, fun item member => ?_⟩
          rw [List.mem_singleton.mp member]
      | some other =>
          rw [before] at found
          cases found
          obtain ⟨member, above⟩ := induction before
          by_cases later : key other < key last
          · rw [if_pos later]
            refine ⟨List.mem_append_right _ (List.mem_singleton_self _),
              fun item isItem => ?_⟩
            rcases List.mem_append.mp isItem with old | new
            · exact le_trans (above item old) later.le
            · rw [List.mem_singleton.mp new]
          · rw [if_neg later]
            refine ⟨List.mem_append_left _ member, fun item isItem => ?_⟩
            rcases List.mem_append.mp isItem with old | new
            · exact above item old
            · rw [List.mem_singleton.mp new]
              exact not_lt.mp later

/-- Where keys are distinct, the greatest element is the one above all. -/
theorem greatest_eq_some_iff {best : Item}
    (distinct : ∀ left ∈ items, ∀ right ∈ items, key left = key right →
      left = right) :
    greatest key items = some best ↔
      best ∈ items ∧ ∀ item ∈ items, key item ≤ key best := by
  constructor
  · exact greatest_spec
  · rintro ⟨member, above⟩
    cases found : greatest key items with
    | none =>
        rw [greatest_eq_none.mp found] at member
        exact absurd member List.not_mem_nil
    | some other =>
        obtain ⟨otherMember, otherAbove⟩ := greatest_spec found
        have same : key other = key best :=
          le_antisymm (above other otherMember) (otherAbove best member)
        rw [distinct other otherMember best member same]

/-- The greatest element of a list in strict order is its last one. -/
theorem greatest_of_sorted
    (sorted : items.Pairwise fun earlier later => key earlier < key later) :
    greatest key items = items.getLast? := by
  induction items using List.reverseRecOn with
  | nil => rfl
  | append_singleton items last induction =>
      rw [List.pairwise_append] at sorted
      obtain ⟨front, -, below⟩ := sorted
      rw [greatest_concat, induction front, List.getLast?_concat]
      cases found : items.getLast? with
      | none => rfl
      | some best =>
          have member := List.mem_of_getLast? found
          simp [below best member last (List.mem_singleton_self _)]

/-- The greatest element does not depend on the order of the elements. -/
theorem greatest_perm {left right : List Item} (same : left.Perm right)
    (distinct : ∀ first ∈ left, ∀ second ∈ left, key first = key second →
      first = second) : greatest key left = greatest key right := by
  have rightDistinct : ∀ first ∈ right, ∀ second ∈ right,
      key first = key second → first = second :=
    fun first firstMember second secondMember => distinct first
      (same.mem_iff.mpr firstMember) second (same.mem_iff.mpr secondMember)
  ext best
  rw [greatest_eq_some_iff distinct, greatest_eq_some_iff rightDistinct]
  simp only [same.mem_iff]

/-- Keys with the same order have the same greatest element. -/
theorem greatest_congr {Other : Type} [LinearOrder Other] {order : Item → Other}
    (agree : ∀ left ∈ items, ∀ right ∈ items,
      key left ≤ key right ↔ order left ≤ order right)
    (distinct : ∀ left ∈ items, ∀ right ∈ items, key left = key right →
      left = right) : greatest key items = greatest order items := by
  have orderDistinct : ∀ left ∈ items, ∀ right ∈ items,
      order left = order right → left = right := by
    intro left leftMember right rightMember same
    apply distinct left leftMember right rightMember
    apply le_antisymm
    · exact (agree left leftMember right rightMember).mpr same.le
    · exact (agree right rightMember left leftMember).mpr same.ge
  ext best
  rw [greatest_eq_some_iff distinct, greatest_eq_some_iff orderDistinct]
  constructor
  · rintro ⟨member, above⟩
    exact ⟨member, fun item isItem =>
      (agree item isItem best member).mp (above item isItem)⟩
  · rintro ⟨member, above⟩
    exact ⟨member, fun item isItem =>
      (agree item isItem best member).mpr (above item isItem)⟩

theorem greatest_map {Source : Type} {content : Source → Item}
    {sources : List Source} :
    greatest key (sources.map content) =
      (greatest (key ∘ content) sources).map content := by
  induction sources using List.reverseRecOn with
  | nil => rfl
  | append_singleton sources last induction =>
      rw [List.map_append, List.map_singleton, greatest_concat,
        greatest_concat, induction]
      cases greatest (key ∘ content) sources with
      | none => rfl
      | some best =>
          by_cases later : key (content best) < key (content last)
          · simp [later]
          · simp [later]

/-- A key whose order is reversed. -/
def reversed (key : Item → Key) (item : Item) : OrderDual Key :=
  OrderDual.toDual (key item)

/-- `ORDER BY` a key, the greatest first, and `LIMIT 1`. -/
def newest (key : Item → Key) (items : List Item) : List Item :=
  (orderBy (reversed key) items).take 1

/-- The newest of rows with distinct keys does not depend on how they are
listed. -/
theorem newest_congr {left right : List Item} (same : left.Perm right)
    (distinct : ∀ first ∈ left, ∀ second ∈ left, key first = key second →
      first = second) : newest key left = newest key right := by
  have ordered : orderBy (reversed key) left = orderBy (reversed key) right := by
    apply orderBy_congr same
    intro first isFirst second isSecond sameKey
    exact distinct first isFirst second isSecond
      (OrderDual.toDual.injective sameKey)
  unfold newest
  rw [ordered]

theorem newest_eq_greatest
    (distinct : ∀ left ∈ items, ∀ right ∈ items, key left = key right →
      left = right) : newest key items = (greatest key items).toList := by
  have sorted : (orderBy (reversed key) items).Pairwise
      (KeyLe (reversed key)) := orderBy_sorted
  unfold newest
  cases ordered : orderBy (reversed key) items with
  | nil =>
      have empty : items = [] := by
        have length := @length_orderBy _ _ _ (reversed key) items
        rw [ordered] at length
        exact List.length_eq_zero_iff.mp length.symm
      rw [empty]
      rfl
  | cons first rest =>
      rw [ordered, List.pairwise_cons] at sorted
      have isGreatest : greatest key items = some first := by
        apply (greatest_eq_some_iff distinct).mpr
        constructor
        · apply (@mem_orderBy _ _ _ (reversed key) _ _).mp
          rw [ordered]
          exact List.mem_cons_self
        · intro item isItem
          have member := (@mem_orderBy _ _ _ (reversed key) _ _).mpr isItem
          rw [ordered] at member
          rcases List.mem_cons.mp member with rfl | later
          · exact le_refl _
          · exact sorted.1 item later
      rw [isGreatest]
      rfl

/-- Keeping only the newest candidate finds the greatest element of a kind
exactly when that element is a candidate, and the newest one. -/
theorem greatest_newest_iff {Other : Type} [LinearOrder Other]
    {order : Item → Other} {isKind isCandidate : Item → Bool}
    (distinct : ∀ left ∈ items, ∀ right ∈ items, key left = key right →
      left = right)
    (orderDistinct : ∀ left ∈ items, ∀ right ∈ items,
      order left = order right → left = right) :
    greatest key
        ((newest order (items.filter isCandidate)).filter isKind) =
      greatest key (items.filter isKind) ↔
    ∀ best ∈ items, isKind best = true →
      (∀ item ∈ items, isKind item = true → key item ≤ key best) →
        isCandidate best = true ∧
          ∀ item ∈ items, isCandidate item = true →
            order item ≤ order best := by
  have kindDistinct : ∀ left ∈ items.filter isKind,
      ∀ right ∈ items.filter isKind, key left = key right → left = right :=
    fun left leftMember right rightMember => distinct left
      (List.mem_of_mem_filter leftMember) right
      (List.mem_of_mem_filter rightMember)
  have candidateDistinct : ∀ left ∈ items.filter isCandidate,
      ∀ right ∈ items.filter isCandidate, order left = order right →
        left = right :=
    fun left leftMember right rightMember => orderDistinct left
      (List.mem_of_mem_filter leftMember) right
      (List.mem_of_mem_filter rightMember)
  rw [newest_eq_greatest candidateDistinct]
  constructor
  · intro same best member isBest above
    have found : greatest key (items.filter isKind) = some best := by
      apply (greatest_eq_some_iff kindDistinct).mpr
      refine ⟨List.mem_filter.mpr ⟨member, isBest⟩, fun item isItem => ?_⟩
      obtain ⟨itemMember, itemKind⟩ := List.mem_filter.mp isItem
      exact above item itemMember itemKind
    rw [found] at same
    have kept := (greatest_spec same).1
    rw [List.mem_filter, Option.mem_toList] at kept
    obtain ⟨isCandidateBest, newestAbove⟩ := greatest_spec kept.1
    refine ⟨(List.mem_filter.mp isCandidateBest).2,
      fun item itemMember itemCandidate => ?_⟩
    exact newestAbove item (List.mem_filter.mpr ⟨itemMember, itemCandidate⟩)
  · intro resolved
    cases found : greatest key (items.filter isKind) with
    | none =>
        apply greatest_eq_none.mpr
        apply List.filter_eq_nil_iff.mpr
        intro item member isItem
        rw [Option.mem_toList] at member
        have stored := List.mem_of_mem_filter (greatest_spec member).1
        have isMember := List.mem_filter.mpr ⟨stored, isItem⟩
        rw [greatest_eq_none.mp found] at isMember
        exact List.not_mem_nil isMember
    | some best =>
        obtain ⟨isMember, above⟩ := greatest_spec found
        obtain ⟨member, isBest⟩ := List.mem_filter.mp isMember
        obtain ⟨isCandidateBest, newestAbove⟩ := resolved best member isBest
          fun item itemMember itemKind =>
            above item (List.mem_filter.mpr ⟨itemMember, itemKind⟩)
        have newestBest : greatest order (items.filter isCandidate) =
            some best := by
          apply (greatest_eq_some_iff candidateDistinct).mpr
          refine ⟨List.mem_filter.mpr ⟨member, isCandidateBest⟩,
            fun item isItem => ?_⟩
          obtain ⟨itemMember, itemCandidate⟩ := List.mem_filter.mp isItem
          exact newestAbove item itemMember itemCandidate
        rw [newestBest]
        simp [isBest, greatest]

end Greatest

/-! ## Windows -/

/-- Drop the elements at the front that are before a time. -/
def slide [LinearOrder Key] (time : Item → Key) (cutoff : Key)
    (window : List Item) : List Item :=
  window.dropWhile fun item => time item < cutoff

/-- The window is what is left of the past after elements at its front have
expired. -/
def Slides (expired : Item → Prop) (past window : List Item) : Prop :=
  ∃ dropped, past = dropped ++ window ∧ ∀ item ∈ dropped, expired item

section Windows

variable [LinearOrder Key] {time : Item → Key} {cutoff : Key}
  {past window : List Item} {expired : Item → Prop}

theorem Slides.nil : Slides expired [] [] :=
  ⟨[], rfl, fun _ member => absurd member List.not_mem_nil⟩

theorem Slides.concat (slides : Slides expired past window) (item : Item) :
    Slides expired (past ++ [item]) (window ++ [item]) := by
  obtain ⟨dropped, rfl, allExpired⟩ := slides
  exact ⟨dropped, List.append_assoc _ _ _, allExpired⟩

theorem Slides.mono {weaker : Item → Prop}
    (implies : ∀ item, expired item → weaker item)
    (slides : Slides expired past window) : Slides weaker past window := by
  obtain ⟨dropped, split, allExpired⟩ := slides
  exact ⟨dropped, split, fun item member => implies item (allExpired item member)⟩

theorem Slides.slide (slides : Slides expired past window)
    (implied : ∀ item, time item < cutoff → expired item) :
    Slides expired past (slide time cutoff window) := by
  obtain ⟨dropped, rfl, allExpired⟩ := slides
  refine ⟨dropped ++ window.takeWhile fun item => time item < cutoff, ?_, ?_⟩
  · rw [ControlForge.slide, List.append_assoc, List.takeWhile_append_dropWhile]
  · intro item member
    rcases List.mem_append.mp member with old | new
    · exact allExpired item old
    · exact implied item (by simpa using List.mem_takeWhile_imp new)

/-- In an ordered list, what is not before a time is a suffix. -/
theorem slide_of_sorted
    (sorted : window.Pairwise fun earlier later => time earlier ≤ time later) :
    slide time cutoff window =
      window.filter fun item => cutoff ≤ time item := by
  induction window with
  | nil => rfl
  | cons item window induction =>
      rw [List.pairwise_cons] at sorted
      obtain ⟨first, rest⟩ := sorted
      by_cases before : time item < cutoff
      · have notIn : ¬cutoff ≤ time item := not_le.mpr before
        rw [slide, List.dropWhile_cons_of_pos (by simpa using before),
          List.filter_cons_of_neg (by simpa using notIn)]
        exact induction rest
      · have inside : cutoff ≤ time item := not_lt.mp before
        rw [slide, List.dropWhile_cons_of_neg (by simpa using inside)]
        symm
        apply List.filter_eq_self.mpr
        intro other member
        rcases List.mem_cons.mp member with rfl | later
        · simpa using inside
        · simpa using le_trans inside (first other later)

/-- A window of an ordered past, brought to a time, holds what the whole past
has from that time on. -/
theorem Slides.slide_eq_filter (slides : Slides expired past window)
    (sorted : past.Pairwise fun earlier later => time earlier ≤ time later)
    (before : ∀ item, expired item → time item < cutoff) :
    ControlForge.slide time cutoff window =
      past.filter fun item => cutoff ≤ time item := by
  obtain ⟨dropped, rfl, allExpired⟩ := slides
  rw [List.pairwise_append] at sorted
  have noneLeft : (dropped.filter fun item => cutoff ≤ time item) = [] := by
    apply List.filter_eq_nil_iff.mpr
    intro item member
    simpa using before item (allExpired item member)
  rw [slide_of_sorted sorted.2.1, List.filter_append, noneLeft,
    List.nil_append]

/-- The last element of an ordered list is in a window when any element is. -/
theorem getLast?_filter_of_sorted {items : List Item}
    (sorted : items.Pairwise fun earlier later => time earlier ≤ time later) :
    (items.filter fun item => cutoff ≤ time item).getLast? =
      items.getLast?.filter fun item => cutoff ≤ time item := by
  induction items using List.reverseRecOn with
  | nil => rfl
  | append_singleton items last _ =>
      rw [List.pairwise_append] at sorted
      rw [List.filter_append, List.getLast?_concat]
      by_cases inside : cutoff ≤ time last
      · simp [Option.filter, inside]
      · have noneInside : (items.filter fun item => cutoff ≤ time item) = [] := by
          apply List.filter_eq_nil_iff.mpr
          intro item member
          have notAfter := sorted.2.2 item member last
            (List.mem_singleton_self _)
          simpa using lt_of_le_of_lt notAfter (not_le.mp inside)
        simp [noneInside, Option.filter, inside]

end Windows

/-! ## One element for each identity -/

/-- Put an element in the place of the one with its key, or at the end. -/
def upsert [DecidableEq Key] (key : Item → Key) (item : Item) :
    List Item → List Item
  | [] => [item]
  | other :: items =>
      if key other = key item then item :: items
      else other :: upsert key item items

/-- The values of a dictionary that is filled in order. -/
def collapse [DecidableEq Key] (key : Item → Key) (items : List Item) :
    List Item :=
  items.foldl (fun kept item => upsert key item kept) []

section Collapse

variable [DecidableEq Key] {key : Item → Key} {items : List Item}

theorem upsert_of_new {item : Item}
    (isNew : ∀ other ∈ items, key other ≠ key item) :
    upsert key item items = items ++ [item] := by
  induction items with
  | nil => rfl
  | cons other items induction =>
      have different := isNew other List.mem_cons_self
      have rest : ∀ other ∈ items, key other ≠ key item :=
        fun other member => isNew other (List.mem_cons_of_mem _ member)
      rw [upsert, if_neg different, induction rest, List.cons_append]

/-- Elements with distinct keys are all kept. -/
theorem collapse_of_distinct (distinct : (items.map key).Nodup) :
    collapse key items = items := by
  induction items using List.reverseRecOn with
  | nil => rfl
  | append_singleton items last induction =>
      rw [List.map_append, List.nodup_append] at distinct
      obtain ⟨front, -, apart⟩ := distinct
      rw [collapse, List.foldl_append]
      change upsert key last (collapse key items) = _
      rw [induction front]
      apply upsert_of_new
      intro other member
      apply apart (key other) (List.mem_map_of_mem member)
      simp

theorem mem_keys_upsert {item : Item} {other : Key} :
    other ∈ (upsert key item items).map key ↔
      other = key item ∨ other ∈ items.map key := by
  induction items with
  | nil => simp [upsert]
  | cons first items induction =>
      by_cases same : key first = key item
      · rw [upsert, if_pos same]
        simp [same]
      · rw [upsert, if_neg same, List.map_cons, List.mem_cons, induction,
          List.map_cons, List.mem_cons]
        exact or_left_comm

theorem upsert_distinct {item : Item} (distinct : (items.map key).Nodup) :
    ((upsert key item items).map key).Nodup := by
  induction items with
  | nil => simp [upsert]
  | cons first items induction =>
      rw [List.map_cons, List.nodup_cons] at distinct
      obtain ⟨isNew, rest⟩ := distinct
      by_cases same : key first = key item
      · rw [upsert, if_pos same, List.map_cons, List.nodup_cons, ← same]
        exact ⟨isNew, rest⟩
      · rw [upsert, if_neg same, List.map_cons, List.nodup_cons]
        refine ⟨fun member => ?_, induction rest⟩
        rcases mem_keys_upsert.mp member with isItem | old
        · exact same isItem
        · exact isNew old

/-- An element is replaced by the new one with its key. -/
theorem mem_upsert {item other : Item} (distinct : (items.map key).Nodup) :
    other ∈ upsert key item items ↔
      other = item ∨ other ∈ items ∧ key other ≠ key item := by
  induction items with
  | nil => simp [upsert]
  | cons first items induction =>
      rw [List.map_cons, List.nodup_cons] at distinct
      obtain ⟨isNew, rest⟩ := distinct
      have apart : ∀ other ∈ items, key other ≠ key first :=
        fun other member same =>
          isNew (same ▸ List.mem_map_of_mem member)
      by_cases same : key first = key item
      · rw [upsert, if_pos same, List.mem_cons, List.mem_cons]
        constructor
        · rintro (isItem | member)
          · exact .inl isItem
          · exact .inr ⟨.inr member, same ▸ apart other member⟩
        · rintro (isItem | ⟨rfl | member, different⟩)
          · exact .inl isItem
          · exact absurd same different
          · exact .inr member
      · rw [upsert, if_neg same, List.mem_cons, induction rest, List.mem_cons]
        constructor
        · rintro (rfl | isItem | ⟨member, different⟩)
          · exact .inr ⟨.inl rfl, same⟩
          · exact .inl isItem
          · exact .inr ⟨.inr member, different⟩
        · rintro (isItem | ⟨rfl | member, different⟩)
          · exact .inr (.inl isItem)
          · exact .inl rfl
          · exact .inr (.inr ⟨member, different⟩)

theorem collapse_concat (items : List Item) (last : Item) :
    collapse key (items ++ [last]) = upsert key last (collapse key items) := by
  unfold collapse
  rw [List.foldl_append]
  rfl

theorem collapse_distinct (items : List Item) :
    ((collapse key items).map key).Nodup := by
  induction items using List.reverseRecOn with
  | nil => exact List.nodup_nil
  | append_singleton items last induction =>
      rw [collapse_concat]
      exact upsert_distinct induction

/-- Where equal keys mean equal elements, none is lost and none is made up. -/
theorem mem_collapse {other : Item}
    (consistent : ∀ left ∈ items, ∀ right ∈ items, key left = key right →
      left = right) : other ∈ collapse key items ↔ other ∈ items := by
  induction items using List.reverseRecOn with
  | nil => rfl
  | append_singleton items last induction =>
      have front := induction fun left leftMember right rightMember =>
        consistent left (List.mem_append_left _ leftMember) right
          (List.mem_append_left _ rightMember)
      have lastMember : last ∈ items ++ [last] :=
        List.mem_append_right _ (List.mem_singleton_self _)
      rw [collapse_concat, mem_upsert (collapse_distinct items), front,
        List.mem_append, List.mem_singleton]
      constructor
      · rintro (isLast | ⟨member, -⟩)
        · exact .inr isLast
        · exact .inl member
      · rintro (member | isLast)
        · by_cases same : key other = key last
          · exact .inl (consistent other (List.mem_append_left _ member) last
              lastMember same)
          · exact .inr ⟨member, same⟩
        · exact .inl isLast

end Collapse

end ControlForge
