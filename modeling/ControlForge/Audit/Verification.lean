import ControlForge.Audit.Log

/-!
# What a valid report of `verify` says

The two loops are replaced by predicates on the ordered rows: every entry
continues the chain, and every checkpoint is one of an entry.
-/

namespace ControlForge

namespace Audit

/-- The payload is a JSON object. -/
def PayloadIsObject (row : EntryRow) : Prop :=
  ∃ members, Json.loads row.payloadJson = some (.obj members)

/-- The rows continue the chain from a tag. -/
def ChainValid (key : AuditKey) : Option String → List EntryRow → Prop
  | _, [] => True
  | previous, row :: rows =>
      (PayloadIsObject row ∧ row.previousHmac = previous ∧
        row.integrityHmac =
          key.hmac (entryMaterial previous row.content)) ∧
      ChainValid key (some row.integrityHmac) rows

/-- The tag after the last row. -/
def terminalHmac : Option String → List EntryRow → Option String
  | previous, [] => previous
  | _, row :: rows => terminalHmac (some row.integrityHmac) rows

/-- The tags by sequence that the loop over the entries collects. -/
def collected (rows : List EntryRow) (bySequence : List (Int × String)) :
    List (Int × String) :=
  (rows.map fun row => (row.sequence, row.integrityHmac)).reverse ++
    bySequence

theorem lookup_eq_some_of_nodup {pairs : List (Int × String)}
    (distinct : (pairs.map Prod.fst).Nodup) {number : Int} {text : String} :
    pairs.lookup number = some text ↔ (number, text) ∈ pairs := by
  induction pairs with
  | nil => simp
  | cons pair pairs induction =>
      obtain ⟨first, value⟩ := pair
      rw [List.map_cons, List.nodup_cons] at distinct
      by_cases same : number = first
      · subst same
        have absent : (number, text) ∉ pairs := fun member =>
          distinct.1 (List.mem_map.mpr ⟨_, member, rfl⟩)
        simp [absent, eq_comm]
      · have differs : (number == first) = false := by simp [same]
        simp [List.lookup_cons, differs, induction distinct.2, same]

/-- What the dictionary of tags holds. -/
theorem lookup_collected {rows : List EntryRow}
    (distinct : (rows.map EntryRow.sequence).Nodup) {sequence : Int}
    {tag : String} :
    (collected rows []).lookup sequence = some tag ↔
      ∃ row ∈ rows, row.sequence = sequence ∧ row.integrityHmac = tag := by
  have keys : ((collected rows []).map Prod.fst).Nodup := by
    simpa [collected, Function.comp_def] using distinct
  rw [lookup_eq_some_of_nodup keys]
  simp [collected]

def CheckpointValid (key : AuditKey) (bySequence : List (Int × String))
    (row : CheckpointRow) : Prop :=
  bySequence.lookup row.throughSequence = some row.terminalHmac ∧
    row.signature = key.hmac row.material

section Loops

variable {key : AuditKey}

theorem compareDigest_eq_true {stored material : String} :
    compareDigest stored (key.hmac material) = .ok true ↔
      stored = key.hmac material := by
  unfold compareDigest
  rw [key.ascii]
  by_cases same : stored = key.hmac material
  · simp [same, key.ascii]
  · cases isAscii stored <;> simp [same]

theorem compareDigest_self (material : String) :
    compareDigest (key.hmac material) (key.hmac material) = .ok true :=
  compareDigest_eq_true.mpr rfl

theorem entryFault_eq_none {previous : Option String} {row : EntryRow} :
    entryFault key previous row = .ok none ↔
      PayloadIsObject row ∧ row.previousHmac = previous ∧
        row.integrityHmac =
          key.hmac (entryMaterial previous row.content) := by
  unfold entryFault PayloadIsObject
  cases payload : Json.loads row.payloadJson with
  | none => simp
  | some value =>
      cases value with
      | obj members =>
          by_cases linked : row.previousHmac = previous
          · simp only [linked, ne_eq, not_true_eq_false, if_false]
            rw [← compareDigest_eq_true]
            cases compareDigest row.integrityHmac
                (key.hmac (entryMaterial previous row.content)) with
            | error failure => simp [bind, Except.bind]
            | ok same =>
                cases same <;> simp [bind, Except.bind, pure, Except.pure]
          · simp [linked]
      | null | bool | int | float | str | arr => simp

theorem checkpointFault_eq_none {bySequence : List (Int × String)}
    {row : CheckpointRow} :
    checkpointFault key bySequence row = .ok none ↔
      CheckpointValid key bySequence row := by
  unfold checkpointFault CheckpointValid
  by_cases referenced :
      bySequence.lookup row.throughSequence = some row.terminalHmac
  · simp only [referenced, ne_eq, not_true_eq_false, if_false, true_and]
    rw [← compareDigest_eq_true]
    cases compareDigest row.signature (key.hmac row.material) with
    | error failure => simp [bind, Except.bind]
    | ok same => cases same <;> simp [bind, Except.bind, pure, Except.pure]
  · simp [referenced]

theorem verifyEntries_eq_inr {index : Nat} {previous : Option String}
    {bySequence : List (Int × String)} {rows : List EntryRow}
    {result : List (Int × String) × Option String} :
    verifyEntries key index previous bySequence rows = .ok (.inr result) ↔
      ChainValid key previous rows ∧
        result = (collected rows bySequence, terminalHmac previous rows) := by
  induction rows generalizing index previous bySequence with
  | nil => simp [verifyEntries, ChainValid, collected, terminalHmac, eq_comm]
  | cons row rows induction =>
      unfold verifyEntries ChainValid
      rw [bind_eq_ok, ← entryFault_eq_none]
      constructor
      · rintro ⟨fault, found, continued⟩
        cases fault with
        | some reason => cases continued
        | none =>
            have rest := induction.mp continued
            refine ⟨⟨found, rest.1⟩, rest.2.trans ?_⟩
            simp [collected, terminalHmac]
      · rintro ⟨⟨found, valid⟩, same⟩
        refine ⟨none, found, induction.mpr ⟨valid, same.trans ?_⟩⟩
        simp [collected, terminalHmac]

theorem verifyCheckpoints_eq_none {entryCount index : Nat}
    {terminal : Option String} {bySequence : List (Int × String)}
    {rows : List CheckpointRow} :
    verifyCheckpoints key entryCount terminal bySequence index rows =
        .ok none ↔
      ∀ row ∈ rows, CheckpointValid key bySequence row := by
  induction rows generalizing index with
  | nil => simp [verifyCheckpoints]
  | cons row rows induction =>
      unfold verifyCheckpoints
      rw [bind_eq_ok, List.forall_mem_cons, ← checkpointFault_eq_none]
      constructor
      · rintro ⟨fault, found, continued⟩
        cases fault with
        | some reason => cases continued
        | none => exact ⟨found, induction.mp continued⟩
      · rintro ⟨found, valid⟩
        exact ⟨none, found, induction.mpr valid⟩

/-- A report the loops stop with is not valid. -/
theorem verifyEntries_inl {index : Nat} {previous : Option String}
    {bySequence : List (Int × String)} {rows : List EntryRow}
    {report : AuditVerification}
    (stopped : verifyEntries key index previous bySequence rows =
      .ok (.inl report)) : report.valid = false := by
  induction rows generalizing index previous bySequence with
  | nil => cases stopped
  | cons row rows induction =>
      unfold verifyEntries at stopped
      obtain ⟨fault, -, continued⟩ := bind_eq_ok.mp stopped
      cases fault with
      | some reason =>
          cases continued
          rfl
      | none => exact induction continued

theorem verifyCheckpoints_some {entryCount index : Nat}
    {terminal : Option String} {bySequence : List (Int × String)}
    {rows : List CheckpointRow} {report : AuditVerification}
    (stopped : verifyCheckpoints key entryCount terminal bySequence index
      rows = .ok (some report)) : report.valid = false := by
  induction rows generalizing index with
  | nil => cases stopped
  | cons row rows induction =>
      unfold verifyCheckpoints at stopped
      obtain ⟨fault, -, continued⟩ := bind_eq_ok.mp stopped
      cases fault with
      | some reason =>
          cases continued
          rfl
      | none => exact induction continued

end Loops

/-- The content `verify` accepts for a tenant. -/
structure Verified (key : AuditKey) (tables : Tables) (tenantId : String) :
    Prop where
  chain : ChainValid key none (tenantEntries tables tenantId)
  count : (tenantCheckpoints tables tenantId).length =
    (tenantEntries tables tenantId).length
  checkpoints : ∀ row ∈ tenantCheckpoints tables tenantId,
    CheckpointValid key (collected (tenantEntries tables tenantId) []) row

/-- The report of a verified tenant. -/
def validReport (tables : Tables) (tenantId : String) : AuditVerification where
  valid := true
  entriesChecked := (tenantEntries tables tenantId).length
  checkpointsChecked := (tenantCheckpoints tables tenantId).length
  terminalHmac := terminalHmac none (tenantEntries tables tenantId)
  failureSequence := none
  reason := none

theorem verify_of_verified {key : AuditKey} {tables : Tables}
    {tenantId : String} (verified : Verified key tables tenantId) :
    verify key tables tenantId = .ok (validReport tables tenantId) := by
  have entries : verifyEntries key 0 none [] (tenantEntries tables tenantId) =
      .ok (.inr (collected (tenantEntries tables tenantId) [],
        terminalHmac none (tenantEntries tables tenantId))) :=
    verifyEntries_eq_inr.mpr ⟨verified.chain, rfl⟩
  have checkpoints : verifyCheckpoints key
      (tenantEntries tables tenantId).length
      (terminalHmac none (tenantEntries tables tenantId))
      (collected (tenantEntries tables tenantId) []) 0
      (tenantCheckpoints tables tenantId) = .ok none :=
    verifyCheckpoints_eq_none.mpr verified.checkpoints
  simp [verify, entries, checkpoints, verified.count, validReport, bind,
    Except.bind, pure, Except.pure]

theorem verified_of_verify {key : AuditKey} {tables : Tables}
    {tenantId : String} {report : AuditVerification}
    (returns : verify key tables tenantId = .ok report)
    (valid : report.valid = true) : Verified key tables tenantId := by
  unfold verify at returns
  obtain ⟨outcome, entries, returns⟩ := bind_eq_ok.mp returns
  cases outcome with
  | inl stopped =>
      cases returns
      rw [verifyEntries_inl entries] at valid
      cases valid
  | inr result =>
      obtain ⟨chain, rfl⟩ := verifyEntries_eq_inr.mp entries
      dsimp only at returns
      split at returns
      · cases returns
        cases valid
      · next sameCount =>
          obtain ⟨outcome, checkpoints, returns⟩ := bind_eq_ok.mp returns
          cases outcome with
          | some stopped =>
              cases returns
              rw [verifyCheckpoints_some checkpoints] at valid
              cases valid
          | none =>
              exact ⟨chain, not_not.mp sameCount,
                verifyCheckpoints_eq_none.mp checkpoints⟩

end Audit

end ControlForge
