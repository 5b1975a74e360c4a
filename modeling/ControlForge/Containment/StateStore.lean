import ControlForge.Containment.Pf

/-!
# The state store

The state file is written through a temporary file that replaces it.  What a
call of the file system raises becomes a `MacOSResponseError`, except for a few
calls outside of the handlers.
-/

namespace ControlForge

namespace Containment

section Store

variable (surroundings : Surroundings) (phase : Phase)

/-- A call of the store, with what it raises and its effect. -/
def storeCall (operation : StoreOperation) (call : StoreCall)
    (failure : Failure) (effect : Host → Host) : Program Unit :=
  fun progress =>
    let answer := surroundings.store phase operation call
    let host :=
      if answer.applied then effect progress.host else progress.host
    let after := { progress with
      host
      journal := progress.journal ++
        [⟨.store phase operation call, answer, host.stateFile.isSome⟩] }
    match answer with
    | .done => (.ok (), after)
    | .failed _ => (.error failure, after)

/-- A call without an effect on the state file. -/
def storeCheck (operation : StoreOperation) (call : StoreCall)
    (failure : Failure) : Program Unit :=
  storeCall surroundings phase operation call failure id

def Host.place (state : MacOSPfState) (host : Host) : Host :=
  { host with stateFile := some state }

def Host.unlink (host : Host) : Host :=
  { host with stateFile := none }

/-- `_prepare_parent`. -/
def prepareParent : Program Unit := do
  storeCheck surroundings phase .write .makeParent
    (.response "state_storage_unavailable")
  storeCheck surroundings phase .write .parentIsDirectory
    (.response "state_storage_unsafe")
  storeCheck surroundings phase .write .parentIsSymlink .os
  storeCheck surroundings phase .write .parentIsOwned
    (.response "state_storage_unsafe")

/-- `_metadata`: the file, if there is one. -/
def metadata (operation : StoreOperation) : Program (Option MacOSPfState) := do
  storeCheck surroundings phase operation .metadata
    (.response "state_unavailable")
  Effect.gets (·.host.stateFile)

/-- `_trusted_file`. -/
def trustedFile (operation : StoreOperation) : Program Unit := do
  storeCheck surroundings phase operation .isRegular (.response "state_unsafe")
  storeCheck surroundings phase operation .isSymlink .os
  storeCheck surroundings phase operation .isOwned (.response "state_unsafe")

/-- `RootOwnedPfStateStore.read`. -/
def read : Program (Option MacOSPfState) := do
  match ← metadata surroundings phase .read with
  | none => return none
  | some state =>
      trustedFile surroundings phase .read
      storeCheck surroundings phase .read .readBytes
        (.response "state_malformed")
      return some state

/-- A file that is in place already, but could not be synced, is removed. -/
def removeReplaced : Program Unit :=
  tryCatch (do
      storeCall surroundings phase .write .unlinkReplaced .os Host.unlink
      storeCheck surroundings phase .write .syncUnlinked .os)
    fun failure =>
      match failure with
      | .os => return ()
      | other => throw other

/-- The body of the `try` in `write`; `replaced` is set between its parts. -/
def replaceFile (state : MacOSPfState) : Program Unit := do
  tryCatch (do
      storeCheck surroundings phase .write .fillTemporary .os
      storeCall surroundings phase .write .replace .os (Host.place state))
    fun failure =>
      match failure with
      | .os => throw (.response "state_persistence_failed")
      | other => throw other
  tryCatch (storeCheck surroundings phase .write .syncReplaced .os)
    fun failure =>
      match failure with
      | .os => do
          removeReplaced surroundings phase
          throw (.response "state_persistence_failed")
      | other => throw other

/-- `RootOwnedPfStateStore.write`. -/
def write (state : MacOSPfState) : Program Unit := do
  prepareParent surroundings phase
  match ← metadata surroundings phase .write with
  | none => pure ()
  | some _ => trustedFile surroundings phase .write
  storeCheck surroundings phase .write .makeTemporary .os
  (replaceFile surroundings phase state).thenAlways
    (storeCheck surroundings phase .write .removeTemporary .os)

/-- `RootOwnedPfStateStore.delete`. -/
def delete : Program Unit := do
  match ← metadata surroundings phase .delete with
  | none => return ()
  | some _ =>
      trustedFile surroundings phase .delete
      storeCall surroundings phase .delete .unlink
        (.response "state_release_failed") Host.unlink
      tryCatch (storeCheck surroundings phase .delete .syncParent .os)
        fun failure =>
          match failure with
          | .os => return ()
          | other => throw other

end Store

/-! ## What the store may leave -/

/-- The calls that are made outside of the handlers of the store. -/
def StoreCall.outsideHandlers : StoreCall → Bool
  | .parentIsSymlink | .isSymlink | .makeTemporary | .removeTemporary => true
  | _ => false

/-- Only the state file and the journal may have changed. -/
structure StoreOnly (before after : Progress) : Prop where
  held : after.host.held = before.host.held
  anchor : after.host.anchor = before.host.anchor
  obtained : after.obtained = before.obtained
  rolledBack : after.rolledBack = before.rolledBack
  journal : before.journal ⊆ after.journal

theorem StoreOnly.refl (progress : Progress) : StoreOnly progress progress :=
  ⟨rfl, rfl, rfl, rfl, fun _ member => member⟩

theorem StoreOnly.trans {first second third : Progress}
    (left : StoreOnly first second) (right : StoreOnly second third) :
    StoreOnly first third where
  held := right.held.trans left.held
  anchor := right.anchor.trans left.anchor
  obtained := right.obtained.trans left.obtained
  rolledBack := right.rolledBack.trans left.rolledBack
  journal := fun _ member => right.journal (left.journal member)

/-- As before, with this state file. -/
def AtFile (before : Progress) (file : Option MacOSPfState)
    (after : Progress) : Prop :=
  StoreOnly before after ∧ after.host.stateFile = file

/-- A call of the operation failed and left this state file. -/
def Failing (phase : Phase) (operation : StoreOperation) (call : StoreCall)
    (file : Option MacOSPfState) (after : Progress) : Prop :=
  ∃ answer, answer ≠ .done ∧
    ⟨.store phase operation call, answer, file.isSome⟩ ∈ after.journal

/-- An `OSError` comes from a call outside of the handlers. -/
def Raises (call : StoreCall) (failure : Failure) : Prop :=
  (failure = .os ∧ call.outsideHandlers = true) ∨
    ∃ code, failure = .response code

/-- The operation raised at a call that left this state file. -/
def Blames (phase : Phase) (operation : StoreOperation)
    (file : Option MacOSPfState) (failure : Failure) (after : Progress) :
    Prop :=
  ∃ call, Raises call failure ∧ Failing phase operation call file after

/-- The postcondition of a program that leaves the state file alone. -/
def Checks {Value : Type} (phase : Phase) (operation : StoreOperation)
    (before : Progress) (file : Option MacOSPfState)
    (outcome : Except Failure Value) (after : Progress) : Prop :=
  AtFile before file after ∧ ∀ failure, outcome = .error failure →
    Blames phase operation file failure after

section Specifications

variable {surroundings : Surroundings} {phase : Phase}
  {operation : StoreOperation} {before : Progress}
  {file : Option MacOSPfState}

open Effect

/-- A call that fails has had its effect or not, and is in the journal. -/
theorem storeCall_ensures (effect : Host → Host)
    (aside : ∀ host, (effect host).held = host.held ∧
      (effect host).anchor = host.anchor)
    (reached : Option MacOSPfState)
    (reaches : ∀ host, host.stateFile = file →
      (effect host).stateFile = reached)
    (call : StoreCall) (failure : Failure) :
    Ensures (AtFile before file)
      (storeCall surroundings phase operation call failure effect)
      fun outcome after =>
        match outcome with
        | .ok _ => AtFile before reached after
        | .error raised => raised = failure ∧
            ∃ left, (left = file ∨ left = reached) ∧
              AtFile before left after ∧
              Failing phase operation call left after := by
  refine ⟨?_⟩
  rintro world ⟨unchanged, isFile⟩
  have grown (entry : Entry) : before.journal ⊆ world.journal ++ [entry] :=
    fun _ member => List.mem_append_left _ (unchanged.journal member)
  unfold storeCall
  cases isAnswer : surroundings.store phase operation call with
  | done =>
      refine ⟨⟨?_, ?_, unchanged.obtained, unchanged.rolledBack, grown _⟩,
        reaches _ isFile⟩
      · exact (aside _).1.trans unchanged.held
      · exact (aside _).2.trans unchanged.anchor
  | failed applied =>
      refine ⟨rfl, ?_⟩
      cases applied with
      | false =>
          refine ⟨file, .inl rfl, ⟨⟨unchanged.held, unchanged.anchor,
            unchanged.obtained, unchanged.rolledBack, grown _⟩, isFile⟩,
            .failed false, nofun, ?_⟩
          rw [← isFile]
          exact List.mem_append_right _ (List.mem_singleton.mpr rfl)
      | true =>
          refine ⟨reached, .inr rfl, ⟨⟨?_, ?_, unchanged.obtained,
            unchanged.rolledBack, grown _⟩, reaches _ isFile⟩,
            .failed true, nofun, ?_⟩
          · exact (aside _).1.trans unchanged.held
          · exact (aside _).2.trans unchanged.anchor
          · rw [← reaches _ isFile]
            exact List.mem_append_right _ (List.mem_singleton.mpr rfl)

theorem storeCheck_ensures (call : StoreCall) (failure : Failure) :
    Ensures (AtFile before file)
      (storeCheck surroundings phase operation call failure)
      fun outcome after =>
        match outcome with
        | .ok _ => AtFile before file after
        | .error raised => raised = failure ∧ AtFile before file after ∧
            Failing phase operation call file after := by
  apply (storeCall_ensures id (fun _ => ⟨rfl, rfl⟩) file
    (fun _ isFile => isFile) call failure).implies
  intro outcome after holds
  cases outcome with
  | ok _ => exact holds
  | error raised =>
      obtain ⟨isFailure, left, rfl | rfl, reached, failing⟩ := holds
      · exact ⟨isFailure, reached, failing⟩
      · exact ⟨isFailure, reached, failing⟩

theorem storeCheck_checks {call : StoreCall} {failure : Failure}
    (raises : Raises call failure) :
    Ensures (AtFile before file)
      (storeCheck surroundings phase operation call failure)
      (Checks phase operation before file) := by
  apply (storeCheck_ensures call failure).implies
  intro outcome after holds
  cases outcome with
  | ok _ => exact ⟨holds, nofun⟩
  | error raised =>
      obtain ⟨rfl, reached, failing⟩ := holds
      refine ⟨reached, fun other isError => ?_⟩
      cases isError
      exact ⟨call, raises, failing⟩

/-- Checks one after the other. -/
theorem checks_bind {Value Result : Type} {first : Program Value}
    {next : Value → Program Result}
    (firstChecks : Ensures (AtFile before file) first
      (Checks phase operation before file))
    (nextChecks : ∀ value, Ensures (AtFile before file) (next value)
      (Checks phase operation before file)) :
    Ensures (AtFile before file) (first >>= next)
      (Checks phase operation before file) := by
  apply Ensures.bind firstChecks
  · intro value
    exact (nextChecks value).weaken (fun _ holds => holds.1)
      fun _ _ holds => holds
  · intro failure world holds
    refine ⟨holds.1, fun raised isError => ?_⟩
    cases isError
    exact holds.2 failure rfl

theorem trustedFile_checks :
    Ensures (AtFile before file) (trustedFile surroundings phase operation)
      (Checks phase operation before file) := by
  apply checks_bind (storeCheck_checks (.inr ⟨_, rfl⟩))
  intro _
  apply checks_bind (storeCheck_checks (.inl ⟨rfl, rfl⟩))
  intro _
  exact storeCheck_checks (.inr ⟨_, rfl⟩)

theorem prepareParent_checks :
    Ensures (AtFile before file) (prepareParent surroundings phase)
      (Checks phase .write before file) := by
  apply checks_bind (storeCheck_checks (.inr ⟨_, rfl⟩))
  intro _
  apply checks_bind (storeCheck_checks (.inr ⟨_, rfl⟩))
  intro _
  apply checks_bind (storeCheck_checks (.inl ⟨rfl, rfl⟩))
  intro _
  exact storeCheck_checks (.inr ⟨_, rfl⟩)

/-- A check before a part with another postcondition. -/
theorem checked_bind {Value Result : Type} {first : Program Value}
    {next : Value → Program Result}
    {after : Except Failure Result → Progress → Prop}
    (firstChecks : Ensures (AtFile before file) first
      (Checks phase operation before file))
    (nextEnsures : ∀ value, Ensures (AtFile before file) (next value) after)
    (raised : ∀ failure world, AtFile before file world →
      Blames phase operation file failure world →
      after (.error failure) world) :
    Ensures (AtFile before file) (first >>= next) after := by
  apply Ensures.bind firstChecks
  · intro value
    exact (nextEnsures value).weaken (fun _ holds => holds.1)
      fun _ _ holds => holds
  · intro failure world holds
    exact raised failure world holds.1 (holds.2 failure rfl)

/-- What follows `_metadata` is given the state file. -/
theorem metadata_bind {Result : Type}
    {next : Option MacOSPfState → Program Result}
    {after : Except Failure Result → Progress → Prop}
    (nextEnsures : Ensures (AtFile before file) (next file) after)
    (raised : ∀ failure world, AtFile before file world →
      Blames phase operation file failure world →
      after (.error failure) world) :
    Ensures (AtFile before file)
      (metadata surroundings phase operation >>= next) after := by
  have found : Ensures (AtFile before file)
      (metadata surroundings phase operation) fun outcome after =>
        match outcome with
        | .ok found => found = file ∧ AtFile before file after
        | .error failure => AtFile before file after ∧
            Blames phase operation file failure after := by
    apply checked_bind (storeCheck_checks (.inr ⟨_, rfl⟩))
    · intro _
      exact Ensures.reads fun world reached => ⟨reached.2, reached⟩
    · exact fun _ _ reached blames => ⟨reached, blames⟩
  apply Ensures.bind found
  · intro value
    apply Ensures.given
    rintro rfl
    exact nextEnsures
  · exact fun failure world ⟨reached, blames⟩ =>
      raised failure world reached blames

/-- Reading returns the file, or raises at one of its calls. -/
theorem read_ensures :
    Ensures (AtFile before file) (read surroundings phase)
      fun outcome after => AtFile before file after ∧
        match outcome with
        | .ok found => found = file
        | .error failure => Blames phase .read file failure after := by
  have blamed (failure : Failure) (world : Progress)
      (reached : AtFile before file world)
      (blames : Blames phase .read file failure world) :
      AtFile before file world ∧ Blames phase .read file failure world :=
    ⟨reached, blames⟩
  apply metadata_bind
  · cases file with
    | none => exact Ensures.returns fun world reached => ⟨reached, rfl⟩
    | some state =>
        apply checked_bind trustedFile_checks
        · intro _
          apply checked_bind (storeCheck_checks (.inr ⟨_, rfl⟩))
          · intro _
            exact Ensures.returns fun world reached => ⟨reached, rfl⟩
          · exact blamed
        · exact blamed
  · exact blamed

/-- After a deletion the file is gone, unless one of its calls failed. -/
theorem delete_ensures :
    Ensures (AtFile before file) (delete surroundings phase)
      fun outcome after =>
        match outcome with
        | .ok _ => AtFile before none after
        | .error failure => ∃ left, (left = file ∨ left = none) ∧
            AtFile before left after ∧
            Blames phase .delete left failure after := by
  have blamed (failure : Failure) (world : Progress)
      (reached : AtFile before file world)
      (blames : Blames phase .delete file failure world) :
      ∃ left, (left = file ∨ left = none) ∧ AtFile before left world ∧
        Blames phase .delete left failure world :=
    ⟨file, .inl rfl, reached, blames⟩
  apply metadata_bind
  · cases file with
    | none => exact Ensures.returns fun _ reached => reached
    | some state =>
        apply checked_bind trustedFile_checks
        · intro _
          apply Ensures.bind (storeCall_ensures Host.unlink
            (fun _ => ⟨rfl, rfl⟩) none (fun _ _ => rfl) _ _)
          · intro _
            apply Ensures.catches (storeCheck_ensures _ _)
            · exact fun _ _ reached => reached
            · intro failure
              apply Ensures.given
              rintro rfl
              exact Ensures.returns fun _ holds => holds.1
          · rintro failure world ⟨rfl, left, isLeft, reached, failing⟩
            exact ⟨left, isLeft, reached, _, .inr ⟨_, rfl⟩, failing⟩
        · exact blamed
  · exact blamed

/-- Something failed in the operation. -/
def HasFailed (phase : Phase) (operation : StoreOperation)
    (after : Progress) : Prop :=
  ∃ call file, Failing phase operation call file after

theorem HasFailed.mono {earlier later : Progress}
    (failed : HasFailed phase operation earlier)
    (grown : earlier.journal ⊆ later.journal) :
    HasFailed phase operation later := by
  obtain ⟨call, file, answer, notDone, member⟩ := failed
  exact ⟨call, file, answer, notDone, grown member⟩

theorem Blames.hasFailed {failure : Failure} {after : Progress}
    (blames : Blames phase operation file failure after) :
    HasFailed phase operation after := by
  obtain ⟨call, _, failing⟩ := blames
  exact ⟨call, file, failing⟩

/-- The removal of the replaced file raises nothing. -/
theorem removeReplaced_ensures :
    Ensures (AtFile before file) (removeReplaced surroundings phase)
      fun outcome after => outcome = .ok () ∧
        ∃ left, (left = file ∨ left = none) ∧ AtFile before left after := by
  have removed : Ensures (AtFile before file) (do
      storeCall surroundings phase .write .unlinkReplaced .os Host.unlink
      storeCheck surroundings phase .write .syncUnlinked .os)
      fun outcome after =>
        (∀ failure, outcome = .error failure → failure = .os) ∧
          ∃ left, (left = file ∨ left = none) ∧ AtFile before left after := by
    apply Ensures.bind (storeCall_ensures Host.unlink (fun _ => ⟨rfl, rfl⟩)
      none (fun _ _ => rfl) _ _)
    · intro _
      apply (storeCheck_ensures _ _).implies
      intro outcome after holds
      cases outcome with
      | ok _ => exact ⟨nofun, none, .inr rfl, holds⟩
      | error raised =>
          obtain ⟨rfl, reached, _⟩ := holds
          exact ⟨fun _ isError => by cases isError; rfl, none, .inr rfl,
            reached⟩
    · rintro failure world ⟨rfl, left, isLeft, reached, _⟩
      exact ⟨fun _ isError => by cases isError; rfl, left, isLeft, reached⟩
  apply Ensures.catches removed
  · exact fun _ _ holds => ⟨rfl, holds.2⟩
  · intro failure
    cases failure with
    | os => exact Ensures.returns fun _ holds => ⟨rfl, holds.2⟩
    | response _ | command | value =>
        exact Ensures.throws fun _ holds => nomatch holds.1 _ rfl

/-- The file is replaced, or the failure is one of the store's own. -/
def Replaces (phase : Phase) (before : Progress) (state : MacOSPfState)
    (outcome : Except Failure Unit) (after : Progress) : Prop :=
  match outcome with
  | .ok _ => AtFile before (some state) after
  | .error failure => (∃ code, failure = .response code) ∧
      HasFailed phase .write after ∧
      ∃ left, (left = none ∨ left = some state) ∧ AtFile before left after

theorem replaceFile_ensures (state : MacOSPfState) :
    Ensures (AtFile before none) (replaceFile surroundings phase state)
      (Replaces phase before state) := by
  have replaced : Ensures (AtFile before none) (do
      storeCheck surroundings phase .write .fillTemporary .os
      storeCall surroundings phase .write .replace .os (Host.place state))
      fun outcome after =>
        match outcome with
        | .ok _ => AtFile before (some state) after
        | .error failure => failure = .os ∧ HasFailed phase .write after ∧
            ∃ left, (left = none ∨ left = some state) ∧
              AtFile before left after := by
    apply Ensures.bind (storeCheck_ensures _ _)
    · intro _
      apply (storeCall_ensures (Host.place state) (fun _ => ⟨rfl, rfl⟩)
        (some state) (fun _ _ => rfl) _ _).implies
      intro outcome after holds
      cases outcome with
      | ok _ => exact holds
      | error failure =>
          obtain ⟨isOs, left, isLeft, reached, failing⟩ := holds
          exact ⟨isOs, ⟨_, left, failing⟩, left, isLeft, reached⟩
    · rintro failure world ⟨rfl, reached, failing⟩
      exact ⟨rfl, ⟨_, none, failing⟩, none, .inl rfl, reached⟩
  -- A failed removal leaves the file, and the failure is the same.
  have synced : Ensures (AtFile before (some state))
      (tryCatch (storeCheck surroundings phase .write .syncReplaced .os)
        fun failure =>
          match failure with
          | .os => do
              removeReplaced surroundings phase
              throw (.response "state_persistence_failed")
          | other => throw other)
      (Replaces phase before state) := by
    apply Ensures.catches (storeCheck_ensures _ _)
    · exact fun _ _ reached => reached
    · intro failure
      apply Ensures.given
      rintro rfl
      refine ⟨fun world ⟨reached, failing⟩ => ?_⟩
      have removal : Ensures (AtFile world (some state)) (do
          removeReplaced surroundings phase
          throw (.response "state_persistence_failed"))
          (Replaces phase before state) := by
        apply Ensures.bind removeReplaced_ensures
        · intro _
          apply Ensures.throws
          rintro after ⟨_, left, isLeft, unchanged, isFile⟩
          have failed : HasFailed phase .write world := ⟨_, _, failing⟩
          exact ⟨⟨_, rfl⟩, failed.mono unchanged.journal, left, isLeft.symm,
            reached.1.trans unchanged, isFile⟩
        · exact fun _ _ holds => nomatch holds.1
      exact removal.ends world ⟨.refl world, reached.2⟩
  have handled : Ensures (AtFile before none)
      (tryCatch (do
          storeCheck surroundings phase .write .fillTemporary .os
          storeCall surroundings phase .write .replace .os (Host.place state))
        fun failure =>
          match failure with
          | .os => throw (.response "state_persistence_failed")
          | other => throw other)
      (Replaces phase before state) := by
    apply Ensures.catches replaced
    · exact fun _ _ reached => reached
    · intro failure
      apply Ensures.given
      rintro rfl
      exact Ensures.throws fun _ holds => ⟨⟨_, rfl⟩, holds⟩
  apply Ensures.bind handled
  · exact fun _ => synced
  · exact fun _ _ holds => holds

/-- What a write raises: an error of the store, or an `OSError` of a call
outside of the handlers. -/
structure WriteRaises (phase : Phase) (left : Option MacOSPfState)
    (failure : Failure) (after : Progress) : Prop where
  kind : failure = .os ∨ ∃ code, failure = .response code
  failed : HasFailed phase .write after
  unhandled : failure = .os → ∃ call, call.outsideHandlers = true ∧
    Failing phase .write call left after

theorem Blames.writeRaises {failure : Failure} {after : Progress}
    (blames : Blames phase .write file failure after) :
    WriteRaises phase file failure after := by
  refine ⟨?_, blames.hasFailed, fun isOs => ?_⟩
  · obtain ⟨_, ⟨isOs, _⟩ | isResponse, _⟩ := blames
    · exact .inl isOs
    · exact .inr isResponse
  · obtain ⟨call, ⟨_, outside⟩ | ⟨code, isResponse⟩, failing⟩ := blames
    · exact ⟨call, outside, failing⟩
    · cases isOs.symm.trans isResponse

/-- A write where no state file is. -/
theorem write_ensures (state : MacOSPfState) :
    Ensures (AtFile before none) (write surroundings phase state)
      fun outcome after =>
        match outcome with
        | .ok _ => AtFile before (some state) after
        | .error failure => ∃ left, (left = none ∨ left = some state) ∧
            AtFile before left after ∧
            WriteRaises phase left failure after := by
  have blamed (failure : Failure) (world : Progress)
      (reached : AtFile before none world)
      (blames : Blames phase .write none failure world) :
      ∃ left, (left = none ∨ left = some state) ∧ AtFile before left world ∧
        WriteRaises phase left failure world :=
    ⟨none, .inl rfl, reached, blames.writeRaises⟩
  apply checked_bind prepareParent_checks
  · intro _
    apply metadata_bind
    · dsimp only
      apply checked_bind (storeCheck_checks (.inl ⟨rfl, rfl⟩))
      · intro _
        apply Ensures.always (replaceFile_ensures state)
        intro outcome
        refine ⟨fun world holds => ?_⟩
        have removing (left : Option MacOSPfState)
            (reached : AtFile before left world) :=
          (@storeCheck_ensures surroundings phase .write world left
            .removeTemporary .os).ends world ⟨.refl world, reached.2⟩
        cases outcome with
        | ok _ =>
            have removed := removing _ holds
            generalize storeCheck surroundings phase .write .removeTemporary
              .os world = ended at removed
            obtain ⟨lastly, after⟩ := ended
            cases lastly with
            | ok _ => exact ⟨holds.1.trans removed.1, removed.2⟩
            | error failure =>
                obtain ⟨rfl, ⟨unchanged, isFile⟩, failing⟩ := removed
                exact ⟨some state, .inr rfl,
                  ⟨holds.1.trans unchanged, isFile⟩, .inl rfl,
                  ⟨_, _, failing⟩, fun _ => ⟨_, rfl, failing⟩⟩
        | error failure =>
            obtain ⟨isResponse, failed, left, isLeft, reached⟩ := holds
            have removed := removing left reached
            generalize storeCheck surroundings phase .write .removeTemporary
              .os world = ended at removed
            obtain ⟨lastly, after⟩ := ended
            cases lastly with
            | ok _ =>
                refine ⟨left, isLeft, ⟨reached.1.trans removed.1, removed.2⟩,
                  .inr isResponse, failed.mono removed.1.journal,
                  fun isOs => ?_⟩
                obtain ⟨code, isCode⟩ := isResponse
                cases isOs.symm.trans isCode
            | error other =>
                obtain ⟨rfl, ⟨unchanged, isFile⟩, failing⟩ := removed
                exact ⟨left, isLeft, ⟨reached.1.trans unchanged, isFile⟩,
                  .inl rfl, ⟨_, _, failing⟩, fun _ => ⟨_, rfl, failing⟩⟩
      · exact blamed
    · exact blamed
  · exact blamed

end Specifications

end Containment

end ControlForge
