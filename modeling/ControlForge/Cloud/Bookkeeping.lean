import ControlForge.Cloud.EventBatches

/-!
# What a call makes of its input

No event is lost between the input, the candidates, the accepted events and the
duplicates: the identifiers, each as often as it occurs, stay the same.
-/

namespace ControlForge

namespace Cloud

namespace Ingestion

def identifiers (entries : List NormalizedEvent) : List String :=
  entries.map (·.event.eventId)

/-- The identifiers, each as often as it occurs. -/
def spread (entries : List NormalizedEvent) : List String :=
  entries.flatMap (·.repeated)

@[simp] theorem identifiers_nil : identifiers [] = [] := rfl

@[simp] theorem identifiers_cons (entry : NormalizedEvent)
    (entries : List NormalizedEvent) :
    identifiers (entry :: entries) =
      entry.event.eventId :: identifiers entries :=
  rfl

@[simp] theorem identifiers_append (first second : List NormalizedEvent) :
    identifiers (first ++ second) = identifiers first ++ identifiers second :=
  List.map_append

@[simp] theorem spread_nil : spread [] = [] := rfl

@[simp] theorem spread_cons (entry : NormalizedEvent)
    (entries : List NormalizedEvent) :
    spread (entry :: entries) = entry.repeated ++ spread entries :=
  List.flatMap_cons

@[simp] theorem spread_append (first second : List NormalizedEvent) :
    spread (first ++ second) = spread first ++ spread second :=
  List.flatMap_append

theorem mem_identifiers {entry : NormalizedEvent} {entries : List NormalizedEvent}
    (member : entry ∈ entries) : entry.event.eventId ∈ identifiers entries :=
  List.mem_map_of_mem member

theorem mem_identifiers_of_spread {entries : List NormalizedEvent}
    {eventId : String} (member : eventId ∈ spread entries) :
    ∃ entry ∈ entries, entry.event.eventId = eventId := by
  obtain ⟨entry, isEntry, repeated⟩ := List.mem_flatMap.mp member
  exact ⟨entry, isEntry, (List.eq_of_mem_replicate repeated).symm⟩

/-- A set has no repeats. -/
theorem nodup_eraseDups (texts : List String) : texts.eraseDups.Nodup := by
  generalize isLength : texts.length = length
  induction length using Nat.strong_induction_on generalizing texts with
  | h length induction =>
      cases texts with
      | nil => exact List.nodup_nil
      | cons text texts =>
          have shorter : (texts.filter fun other => !other == text).length <
              length := by
            rw [← isLength, List.length_cons]
            exact Nat.lt_succ_of_le (List.length_filter_le _ _)
          rw [List.eraseDups_cons]
          refine List.nodup_cons.mpr ⟨?_, induction _ shorter _ rfl⟩
          simp [List.mem_eraseDups]

/-! ## Normalized events -/

section Input

variable {runtime : Runtime} {events : List SecurityEvent}
  {input unique result : List NormalizedEvent} {seen : List String}

theorem normalize_ok {event : SecurityEvent} {normalized : NormalizedEvent}
    (isNormalized : normalize runtime event = .ok normalized) :
    normalized.event = event ∧ normalized.occurrences = 1 := by
  unfold normalize at isNormalized
  dsimp only at isNormalized
  split_ifs at isNormalized
  cases isNormalized
  exact ⟨rfl, rfl⟩

theorem mapM_normalize_ok (isInput : events.mapM (normalize runtime) = .ok input) :
    identifiers input = events.map (·.eventId) ∧
      ∀ entry ∈ input, entry.occurrences = 1 := by
  induction events generalizing input with
  | nil =>
      cases isInput
      exact ⟨rfl, nofun⟩
  | cons event events induction =>
      rw [List.mapM_cons] at isInput
      obtain ⟨normalized, isFirst, isInput⟩ := bind_eq_ok.mp isInput
      obtain ⟨others, isRest, same⟩ := bind_eq_ok.mp isInput
      cases same
      obtain ⟨sameEvent, once⟩ := normalize_ok isFirst
      obtain ⟨sameIds, allOnce⟩ := induction isRest
      refine ⟨?_, ?_⟩
      · rw [identifiers_cons, sameIds, sameEvent, List.map_cons]
      · intro entry member
        rcases List.mem_cons.mp member with rfl | isOther
        · exact once
        · exact allOnce entry isOther

/-- The values of `uniqueById` after some events. -/
structure Collected (unique : List NormalizedEvent) (seen : List String) :
    Prop where
  distinct : (identifiers unique).Nodup
  positive : ∀ entry ∈ unique, 0 < entry.occurrences
  counted : (spread unique).Perm seen

theorem Collected.insert (collected : Collected unique seen)
    {normalized : NormalizedEvent} (once : normalized.occurrences = 1)
    (isNew : unique.find? (·.event.eventId = normalized.event.eventId) = none) :
    Collected (unique ++ [normalized]) (seen ++ [normalized.event.eventId]) where
  distinct := by
    rw [identifiers_append]
    refine List.Nodup.append collected.distinct (List.nodup_singleton _) ?_
    intro eventId isOld isAdded
    obtain ⟨entry, member, rfl⟩ := List.mem_map.mp isOld
    have other := List.find?_eq_none.mp isNew entry member
    rw [identifiers_cons, identifiers_nil, List.mem_singleton] at isAdded
    simp [isAdded] at other
  positive := by
    intro entry member
    rcases List.mem_append.mp member with isOld | isAdded
    · exact collected.positive entry isOld
    · rw [List.mem_singleton.mp isAdded, once]
      exact Nat.one_pos
  counted := by
    have single : normalized.repeated = [normalized.event.eventId] := by
      rw [NormalizedEvent.repeated, once, List.replicate_one]
    simpa [single] using collected.counted.append_right _

/-- One more occurrence of the events with an identifier. -/
def recur (eventId : String) (entry : NormalizedEvent) : NormalizedEvent :=
  if entry.event.eventId = eventId then
    { entry with occurrences := entry.occurrences + 1 }
  else entry

theorem recur_eventId (eventId : String) (entry : NormalizedEvent) :
    (recur eventId entry).event.eventId = entry.event.eventId := by
  unfold recur
  split <;> rfl

theorem map_recur_eq_self {eventId : String} {entries : List NormalizedEvent}
    (absent : eventId ∉ identifiers entries) :
    entries.map (recur eventId) = entries := by
  have same : ∀ entry ∈ entries, recur eventId entry = id entry := by
    intro entry member
    apply if_neg
    rintro rfl
    exact absent (mem_identifiers member)
  rw [List.map_congr_left same, List.map_id]

theorem Collected.again (collected : Collected unique seen)
    {eventId : String} {prior : NormalizedEvent}
    (found : unique.find? (·.event.eventId = eventId) = some prior) :
    Collected (unique.map (recur eventId)) (seen ++ [eventId]) where
  distinct := by
    have same : identifiers (unique.map (recur eventId)) = identifiers unique := by
      rw [identifiers, List.map_map]
      exact List.map_congr_left fun entry _ => recur_eventId eventId entry
    rw [same]
    exact collected.distinct
  positive := by
    intro entry member
    obtain ⟨old, isOld, rfl⟩ := List.mem_map.mp member
    have positive := collected.positive old isOld
    unfold recur
    split
    · exact Nat.succ_pos _
    · exact positive
  counted := by
    obtain ⟨isPrior, before, after, rfl, _⟩ :=
      List.find?_eq_some_iff_append.mp found
    obtain rfl : prior.event.eventId = eventId := by
      simpa using isPrior
    have distinct := collected.distinct
    rw [identifiers_append, identifiers_cons, List.nodup_append] at distinct
    obtain ⟨_, afterDistinct, apart⟩ := distinct
    have notBefore : prior.event.eventId ∉ identifiers before :=
      fun member => apart _ member _ List.mem_cons_self rfl
    have recurred : (recur prior.event.eventId prior).repeated =
        prior.repeated ++ [prior.event.eventId] := by
      rw [recur, if_pos rfl]
      exact List.replicate_succ'
    rw [List.map_append, List.map_cons, map_recur_eq_self notBefore,
      map_recur_eq_self (List.nodup_cons.mp afterDistinct).1, spread_append,
      spread_cons, recurred]
    have counted := collected.counted
    rw [spread_append, spread_cons] at counted
    refine List.Perm.trans ?_ (counted.append_right _)
    simp only [List.append_assoc]
    exact ((List.perm_append_comm).append_left _).append_left _

theorem collect_ok (collected : Collected unique seen)
    (once : ∀ entry ∈ input, entry.occurrences = 1)
    (isResult : collect unique input = .ok result) :
    Collected result (seen ++ identifiers input) := by
  induction input generalizing unique seen with
  | nil =>
      cases isResult
      rw [identifiers_nil, List.append_nil]
      exact collected
  | cons normalized input induction =>
      have onceFirst := once normalized List.mem_cons_self
      have onceRest : ∀ entry ∈ input, entry.occurrences = 1 :=
        fun entry member => once entry (List.mem_cons_of_mem _ member)
      rw [identifiers_cons, ← List.singleton_append, ← List.append_assoc]
      rw [collect] at isResult
      cases found : unique.find?
          (·.event.eventId = normalized.event.eventId) with
      | none =>
          rw [found] at isResult
          exact induction (collected.insert onceFirst found) onceRest isResult
      | some prior =>
          rw [found] at isResult
          dsimp only at isResult
          split_ifs at isResult
          exact induction (collected.again found) onceRest isResult

end Input

/-! ## Candidates, accepted events and duplicates -/

section Outcomes

variable {entries chunk : List NormalizedEvent} {hashes : String → Option String}

theorem separate_ok {candidates : List NormalizedEvent} {duplicates : List String}
    (isSeparated : separate hashes entries = .ok (candidates, duplicates)) :
    candidates.Sublist entries ∧
      (spread candidates ++ duplicates).Perm (spread entries) ∧
      ∀ eventId ∈ duplicates, eventId ∈ identifiers entries ∧
        (hashes eventId).isSome = true := by
  induction entries generalizing candidates duplicates with
  | nil =>
      cases isSeparated
      exact ⟨List.Sublist.refl _, List.Perm.refl _, nofun⟩
  | cons entry entries induction =>
      rw [separate] at isSeparated
      cases isStored : hashes entry.event.eventId with
      | none =>
          rw [isStored] at isSeparated
          obtain ⟨⟨others, rest⟩, isRest, same⟩ := bind_eq_ok.mp isSeparated
          cases same
          obtain ⟨sublist, perm, known⟩ := induction isRest
          refine ⟨sublist.cons_cons entry, ?_, ?_⟩
          · rw [spread_cons, spread_cons, List.append_assoc]
            exact perm.append_left _
          · intro eventId member
            exact ⟨List.mem_cons_of_mem _ (known eventId member).1,
              (known eventId member).2⟩
      | some hash =>
          rw [isStored] at isSeparated
          dsimp only at isSeparated
          split_ifs at isSeparated
          obtain ⟨⟨others, rest⟩, isRest, same⟩ := bind_eq_ok.mp isSeparated
          cases same
          obtain ⟨sublist, perm, known⟩ := induction isRest
          refine ⟨sublist.cons entry, ?_, ?_⟩
          · rw [spread_cons]
            refine List.Perm.trans ?_ (perm.append_left _)
            rw [← List.append_assoc, ← List.append_assoc]
            exact List.perm_append_comm.append_right _
          · intro eventId member
            rcases List.mem_append.mp member with isFirst | isLater
            · rw [List.eq_of_mem_replicate isFirst, isStored]
              exact ⟨List.mem_cons_self, rfl⟩
            · exact ⟨List.mem_cons_of_mem _ (known eventId isLater).1,
                (known eventId isLater).2⟩

/-- The occurrences after the first one. -/
def NormalizedEvent.rest (entry : NormalizedEvent) : List String :=
  List.replicate (entry.occurrences - 1) entry.event.eventId

theorem record_eq (progress : Progress) (isKnown : NormalizedEvent → Bool) :
    progress.record (chunk.map fun entry => if isKnown entry then 0 else 1) chunk =
      .ok ⟨progress.accepted ++ identifiers (chunk.filter (!isKnown ·)),
        progress.duplicates ++ (chunk.filter (!isKnown ·)).flatMap (·.rest),
        progress.raced ++ chunk.filter isKnown⟩ := by
  induction chunk generalizing progress with
  | nil => simp [Progress.record]
  | cons entry chunk induction =>
      rw [List.map_cons]
      cases known : isKnown entry with
      | true =>
          rw [Progress.record, if_neg (by simp), induction]
          simp [known]
      | false =>
          rw [Progress.record, if_pos (by simp), induction]
          simp [known, NormalizedEvent.rest]

/-- An accepted event stands once among the accepted ones. -/
theorem spread_eq_rest (positive : ∀ entry ∈ entries, 0 < entry.occurrences) :
    (identifiers entries ++ entries.flatMap (·.rest)).Perm (spread entries) := by
  induction entries with
  | nil => exact List.Perm.refl _
  | cons entry entries induction =>
      have isPositive := positive entry List.mem_cons_self
      have others := induction fun other member =>
        positive other (List.mem_cons_of_mem _ member)
      have split : entry.repeated = entry.event.eventId :: entry.rest := by
        rw [NormalizedEvent.rest, ← List.replicate_succ,
          Nat.sub_add_cancel isPositive]
        rfl
      rw [identifiers_cons, spread_cons, split, List.flatMap_cons, List.cons_append,
        List.cons_append]
      refine List.Perm.cons _ (List.Perm.trans ?_ (others.append_left _))
      rw [← List.append_assoc, ← List.append_assoc]
      exact List.perm_append_comm.append_right _

theorem confirm_ok (confirmed : ∀ entry ∈ entries,
      hashes entry.event.eventId = some entry.payloadSha256) :
    confirm hashes entries = .ok (spread entries) := by
  induction entries with
  | nil => rfl
  | cons entry entries induction =>
      have isFirst := confirmed entry List.mem_cons_self
      have others := induction fun other member =>
        confirmed other (List.mem_cons_of_mem _ member)
      rw [confirm, if_neg (by simp [isFirst]), others]
      rfl

/-- Chosen and other entries together are all of them. -/
theorem spread_filter (entries : List NormalizedEvent)
    (isKnown : NormalizedEvent → Bool) :
    (spread (entries.filter (!isKnown ·)) ++ spread (entries.filter isKnown)).Perm
      (spread entries) := by
  have all := List.filter_append_perm isKnown entries
  rw [← spread_append]
  exact List.Perm.flatMap_right _ (List.perm_append_comm.trans all)

end Outcomes

end Ingestion

end Cloud

end ControlForge
