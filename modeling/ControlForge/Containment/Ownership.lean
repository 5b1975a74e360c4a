import ControlForge.Containment.Outcomes

/-!
# What is held is recorded

After every attempt the state file names each reference that PF still counts
and the token under which the anchor was loaded, unless the attempt that
obtained it could neither roll back nor record it.  Two kinds of failed calls
break this: one that the store does not handle while nothing is recorded, and
one that keeps a record that is to be discarded.
-/

namespace ControlForge

namespace Containment

/-- The state file names the token. -/
def Host.Records (host : Host) (token : PfToken) : Prop :=
  ∃ state, host.stateFile = some state ∧ state.pfToken = token

/-- The attempt obtained the token, and both its rollback and a call of the
state store failed. -/
def Abandons (progress : Progress) (token : PfToken) : Prop :=
  progress.obtained = some token ∧ progress.rolledBack = some false ∧
    StoreFailed progress

def Abandoned (trials : List Trial) (token : PfToken) : Prop :=
  ∃ trial ∈ trials, Abandons trial.progress token

/-- No failed call defeats the handlers of an isolate. -/
def Handled (trial : Trial) : Prop :=
  ∀ entry ∈ trial.progress.journal, entry.escapes = false

/-- The attempt is the isolate that the state was recorded by, and the deadline
keeps to its bounds. -/
structure RecordedBy (trial : Trial) (state : MacOSPfState)
    (action : MacOSResponseAction) (now : Timestamp) : Prop where
  request : trial.attempt.request = .execute action
  isIsolate : action.actionType = .isolateEndpoint
  clock : trial.attempt.surroundings.clock = some now
  obtained : trial.progress.obtained = some state.pfToken
  containment : state.expiresAt ≤ now + maxContainment
  action : state.expiresAt ≤ action.expiresAt

/-- What is held or loaded is recorded, the deadline of the record is bounded,
and an isolate that has been rolled back leaves nothing. -/
structure Owned (trials : List Trial) (host : Host) : Prop where
  held : ∀ token ∈ host.held, host.Records token ∨ Abandoned trials token
  anchor : ∀ anchor, host.anchor = some anchor →
    host.Records anchor.owner ∨ Abandoned trials anchor.owner
  deadline : ∀ state, host.stateFile = some state →
    ∃ trial ∈ trials, ∃ action now, RecordedBy trial state action now
  rolledBack : ∀ earlier last, trials = earlier ++ [last] →
    last.progress.rolledBack = some true →
    host.anchor = none ∧ host.stateFile = none ∧
      ∀ token ∈ host.held, Abandoned earlier token

/-! ## One attempt -/

/-- What is held or loaded is recorded or exempt. -/
structure Accounted (exempt : PfToken → Prop) (host : Host) : Prop where
  held : ∀ token ∈ host.held, host.Records token ∨ exempt token
  anchor : ∀ anchor, host.anchor = some anchor →
    host.Records anchor.owner ∨ exempt anchor.owner

section Attempts

variable {exempt : PfToken → Prop} {host left : Host} {after : Progress}
  {attempt : Attempt}

theorem Accounted.mono {more : PfToken → Prop}
    (accounted : Accounted exempt host)
    (implies : ∀ token, exempt token → more token) : Accounted more host where
  held token member := (accounted.held token member).imp_right (implies token)
  anchor anchor isLoaded :=
    (accounted.anchor anchor isLoaded).imp_right (implies anchor.owner)

/-- Without a state file everything is exempt. -/
theorem Accounted.unrecorded (accounted : Accounted exempt host)
    (noFile : host.stateFile = none) :
    (∀ token ∈ host.held, exempt token) ∧
      ∀ anchor, host.anchor = some anchor → exempt anchor.owner := by
  have noRecord (token : PfToken) : ¬ host.Records token := by
    rintro ⟨state, isFile, _⟩
    cases noFile.symm.trans isFile
  constructor
  · intro token member
    exact (accounted.held token member).resolve_left (noRecord token)
  · intro anchor isLoaded
    exact (accounted.anchor anchor isLoaded).resolve_left
      (noRecord anchor.owner)

theorem Loosened.accounted (loosened : Loosened host left)
    (accounted : Accounted exempt host) : Accounted exempt left := by
  have records (token : PfToken) (isRecorded : host.Records token) :
      left.Records token := by
    obtain ⟨state, isFile, isToken⟩ := isRecorded
    exact ⟨state, loosened.stateFile.trans isFile, isToken⟩
  constructor
  · intro token member
    exact (accounted.held token (loosened.held member)).imp_left
      (records token)
  · intro anchor isLoaded
    rcases loosened.anchor with same | isNone
    · exact (accounted.anchor anchor (same.symm.trans isLoaded)).imp_left
        (records anchor.owner)
    · cases isNone.symm.trans isLoaded

/-- The recorded token is given back; the others were not recorded. -/
theorem freed_accounted {state : MacOSPfState}
    (isFile : host.stateFile = some state)
    (accounted : Accounted exempt host) {file : Option MacOSPfState} :
    Accounted exempt ((host.freed state.pfToken).withFile file) := by
  constructor
  · intro token member
    obtain ⟨wasHeld, different⟩ := List.mem_filter.mp member
    right
    apply (accounted.held token wasHeld).resolve_left
    rintro ⟨recorded, isRecorded, rfl⟩
    cases isFile.symm.trans isRecorded
    simp at different
  · exact nofun

theorem Released.accounted {state : MacOSPfState}
    (released : Released state host left)
    (isFile : host.stateFile = some state)
    (accounted : Accounted exempt host) : Accounted exempt left := by
  cases released with
  | loosened partly => exact partly.accounted accounted
  | freed file _ same =>
      rw [same]
      exact freed_accounted isFile accounted

theorem Contained.accounted {expiry : Timestamp}
    (contained : Contained expiry host after) (noFile : host.stateFile = none)
    (handled : ¬ Escaped after) (accounted : Accounted exempt host) :
    Accounted (fun token => exempt token ∨ Abandons after token)
      after.host := by
  obtain ⟨heldExempt, anchorExempt⟩ := accounted.unrecorded noFile
  cases contained with
  | notObtained same _ _ =>
      rw [same]
      exact accounted.mono fun _ => .inl
  | kept state _ _ _ loaded recorded =>
      have isFile := recorded.resolve_right handled
      constructor
      · intro token member
        rw [loaded.held] at member
        rcases List.mem_cons.mp member with rfl | wasHeld
        · exact .inl ⟨state, isFile, rfl⟩
        · exact .inr (.inl (heldExempt token wasHeld))
      · intro anchor isLoaded
        rcases loaded.anchor with same | ⟨rules, isRules⟩
        · exact .inr (.inl (anchorExempt anchor (same.symm.trans isLoaded)))
        · cases isRules.symm.trans isLoaded
          exact .inl ⟨state, isFile, rfl⟩
  | undone state _ obtained loaded isLoaded undone =>
      cases isRolledBack : after.rolledBack with
      | none => exact absurd isRolledBack undone.ran
      | some succeeded =>
          cases succeeded with
          | true =>
              obtain ⟨isHeld, isEmpty, _⟩ := undone.succeeded isRolledBack
              constructor
              · intro token member
                rw [isHeld, isLoaded.held] at member
                obtain ⟨wasHeld, different⟩ := List.mem_filter.mp member
                rcases List.mem_cons.mp wasHeld with rfl | wasHeld
                · simp at different
                · exact .inr (.inl (heldExempt token wasHeld))
              · intro anchor isAnchor
                cases isEmpty.symm.trans isAnchor
          | false =>
              obtain ⟨isHeld, isAnchor, isFile⟩ := undone.failed isRolledBack
              -- The token of the attempt is recorded or abandoned.
              have own : after.host.Records state.pfToken ∨
                  exempt state.pfToken ∨ Abandons after state.pfToken := by
                rcases isFile with isFile | storeFailed
                · exact .inl ⟨state, isFile, rfl⟩
                · exact .inr (.inr ⟨obtained, isRolledBack, storeFailed⟩)
              constructor
              · intro token member
                have wasHeld := isHeld member
                rw [isLoaded.held] at wasHeld
                rcases List.mem_cons.mp wasHeld with rfl | wasHeld
                · exact own
                · exact .inr (.inl (heldExempt token wasHeld))
              · intro anchor isLoadedNow
                rcases isAnchor with same | isNone
                · rcases isLoaded.anchor with first | ⟨rules, isRules⟩
                  · exact .inr (.inl (anchorExempt anchor
                      ((same.trans first).symm.trans isLoadedNow)))
                  · cases (same.trans isRules).symm.trans isLoadedNow
                    exact own
                · cases isNone.symm.trans isLoadedNow

theorem first_accounted {first : Host} (accounted : Accounted exempt host)
    (isFirst : first = host ∨ ∃ state, host.stateFile = some state ∧
      first = (host.freed state.pfToken).withFile none) :
    Accounted exempt first := by
  rcases isFirst with rfl | ⟨state, isFile, rfl⟩
  · exact accounted
  · exact freed_accounted isFile accounted

theorem Attempted.accounted (attempted : Attempted attempt host after)
    (handled : ¬ Escaped after) (accounted : Accounted exempt host) :
    Accounted (fun token => exempt token ∨ Abandons after token)
      after.host := by
  cases attempted with
  | kept same _ _ =>
      rw [same]
      exact accounted.mono fun _ => .inl
  | released state isFile released _ _ =>
      exact (released.accounted isFile accounted).mono fun _ => .inl
  | contained action now _ _ _ first isFirst noFile contained =>
      exact contained.accounted noFile handled
        (first_accounted accounted isFirst)

/-- A record is the one before the attempt or its own. -/
theorem Attempted.recorded (attempted : Attempted attempt host after)
    {state : MacOSPfState} (isFile : after.host.stateFile = some state) :
    host.stateFile = some state ∨
      ∃ action now, attempt.request = .execute action ∧
        action.actionType = .isolateEndpoint ∧
        attempt.surroundings.clock = some now ∧
        after.obtained = some state.pfToken ∧
        state.expiresAt = min action.expiresAt (now + maxContainment) := by
  cases attempted with
  | kept same _ _ =>
      rw [same] at isFile
      exact .inl isFile
  | released _ _ released _ _ =>
      left
      cases released with
      | loosened partly => exact partly.stateFile.symm.trans isFile
      | freed file isOld same =>
          rw [same] at isFile
          rcases isOld with rfl | rfl
          · exact isFile
          · cases isFile
  | contained action now request isIsolate clock first isFirst noFile
      contained =>
      right
      refine ⟨action, now, request, isIsolate, clock, ?_⟩
      cases contained with
      | notObtained same _ _ =>
          rw [same] at isFile
          cases noFile.symm.trans isFile
      | kept own deadline obtained _ loaded _ =>
          rcases loaded.stateFile with isNone | isOwn
          · cases isNone.symm.trans isFile
          · cases isOwn.symm.trans isFile
            exact ⟨obtained, deadline⟩
      | undone own deadline obtained _ _ undone =>
          rcases undone.stateFile with isNone | isOwn
          · cases isNone.symm.trans isFile
          · cases isOwn.symm.trans isFile
            exact ⟨obtained, deadline⟩

/-- A rollback that succeeded leaves nothing of the attempt. -/
theorem Attempted.cleaned (attempted : Attempted attempt host after)
    (handled : ¬ Escaped after) (accounted : Accounted exempt host)
    (isRolledBack : after.rolledBack = some true) :
    after.host.anchor = none ∧ after.host.stateFile = none ∧
      ∀ token ∈ after.host.held, exempt token := by
  cases attempted with
  | kept _ _ rolledBack => cases rolledBack.symm.trans isRolledBack
  | released _ _ _ _ rolledBack => cases rolledBack.symm.trans isRolledBack
  | contained action now _ _ _ first isFirst noFile contained =>
      cases contained with
      | notObtained _ _ rolledBack =>
          cases rolledBack.symm.trans isRolledBack
      | kept _ _ _ rolledBack _ _ => cases rolledBack.symm.trans isRolledBack
      | undone state _ _ loaded isLoaded undone =>
          obtain ⟨isHeld, isEmpty, isFile⟩ := undone.succeeded isRolledBack
          refine ⟨isEmpty, isFile.resolve_right handled, ?_⟩
          intro token member
          rw [isHeld, isLoaded.held] at member
          obtain ⟨wasHeld, different⟩ := List.mem_filter.mp member
          rcases List.mem_cons.mp wasHeld with rfl | wasHeld
          · simp at different
          · exact ((first_accounted accounted isFirst).unrecorded noFile).1
              token wasHeld

end Attempts

/-! ## Runs -/

theorem Handled.not_escaped {trial : Trial} (handled : Handled trial) :
    ¬ Escaped trial.progress := by
  rintro ⟨entry, member, escapes⟩
  cases (handled entry member).symm.trans escapes

theorem abandoned_concat {trials : List Trial} {trial : Trial}
    {token : PfToken} :
    Abandoned (trials ++ [trial]) token ↔
      Abandoned trials token ∨ Abandons trial.progress token := by
  simp [Abandoned, or_and_right, exists_or]

theorem owned_step {library : AddressLibrary} {trials : List Trial}
    {host next : Host} {trial : Trial} (owned : Owned trials host)
    (handled : Handled trial)
    (step : (system library).step host trial next) :
    Owned (trials ++ [trial]) next := by
  obtain ⟨ran, rfl⟩ := step
  have attempted := run_attempted library trial.attempt host
  rw [ran] at attempted
  have accounted : Accounted (Abandoned trials) host :=
    ⟨owned.held, owned.anchor⟩
  have stays : Accounted (Abandoned (trials ++ [trial]))
      trial.progress.host :=
    (attempted.accounted handled.not_escaped accounted).mono
      fun _ => abandoned_concat.mpr
  refine ⟨stays.held, stays.anchor, ?_, ?_⟩
  · intro state isFile
    rcases attempted.recorded isFile with wasFile |
      ⟨action, now, request, isIsolate, clock, obtained, deadline⟩
    · obtain ⟨earlier, member, recorded⟩ := owned.deadline state wasFile
      exact ⟨earlier, List.mem_append_left _ member, recorded⟩
    · refine ⟨trial, List.mem_append_right _ (List.mem_singleton.mpr rfl),
        action, now, request, isIsolate, clock, obtained, ?_, ?_⟩
      · rw [deadline]
        exact min_le_right _ _
      · rw [deadline]
        exact min_le_left _ _
  · intro earlier last isLast isRolledBack
    obtain ⟨rfl, sameLast⟩ := List.append_inj' isLast rfl
    cases sameLast
    exact attempted.cleaned handled.not_escaped accounted isRolledBack

theorem containment_owned {library : AddressLibrary} {trials : List Trial}
    {host : Host}
    (run : (system library).RunWhere (fun _ trial => Handled trial) .clean
      trials host) : Owned trials host := by
  have initially : Owned [] .clean := by
    refine ⟨nofun, nofun, nofun, fun earlier last isLast => ?_⟩
    cases earlier <;> cases isLast
  exact run.historyInvariant initially owned_step

/-- An isolate that nothing disturbs. -/
def undisturbed : Trial :=
  (sampleAttempt .isolateEndpoint fun _ _ => false).trial sampleLibrary .clean

theorem containment_owned_undisturbed :
    Owned [undisturbed] undisturbed.progress.host ∧
      undisturbed.progress.host.held.map (·.text) = ["42"] := by
  have handled : Handled undisturbed := by
    unfold Handled
    decide +kernel
  exact ⟨containment_owned (run_concat .nil _ handled), by decide +kernel⟩

/-- The temporary file cannot be created. -/
def untemporary : Trial :=
  (sampleAttempt .isolateEndpoint fun _ call => call = .makeTemporary).trial
    sampleLibrary .clean

/-- The rules stay loaded and the reference held, and nothing is recorded or
rolled back. -/
theorem unrecorded_isolate :
    ∃ trials host, (system sampleLibrary).Run .clean trials host ∧
      ¬ Owned trials host := by
  refine ⟨[untemporary], untemporary.progress.host,
    run_concat .nil _ trivial, fun owned => ?_⟩
  have noFile : untemporary.progress.host.stateFile = none := by
    decide +kernel
  have noRollback : untemporary.progress.rolledBack = none := by
    decide +kernel
  have isLoaded : untemporary.progress.host.anchor.isSome = true := by
    decide +kernel
  obtain ⟨anchor, isAnchor⟩ := Option.isSome_iff_exists.mp isLoaded
  rcases owned.anchor anchor isAnchor with ⟨state, isFile, _⟩ |
    ⟨trial, member, _, isRolledBack, _⟩
  · cases noFile.symm.trans isFile
  · rw [List.mem_singleton.mp member] at isRolledBack
    cases noRollback.symm.trans isRolledBack

end Containment

end ControlForge
