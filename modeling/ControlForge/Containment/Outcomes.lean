import ControlForge.Containment.Adapter

/-!
# What an attempt leaves

Each part of an attempt has a specification from a known host, whatever fails
in it.  Together they say in which ways an attempt can end.
-/

namespace ControlForge

namespace Containment

open Effect

/-! ## Steps from a known host -/

/-- The host is this one; the journal only grew. -/
structure At (before : Progress) (host : Host) (after : Progress) : Prop where
  host : after.host = host
  obtained : after.obtained = before.obtained
  rolledBack : after.rolledBack = before.rolledBack
  journal : before.journal ⊆ after.journal

def Host.withFile (host : Host) (file : Option MacOSPfState) : Host :=
  { host with stateFile := file }

theorem AtFile.at {before world after : Progress} {host : Host}
    {file : Option MacOSPfState} (reached : At before host world)
    (atFile : AtFile world file after) :
    At before (host.withFile file) after := by
  obtain ⟨unchanged, isFile⟩ := atFile
  refine ⟨?_, unchanged.obtained.trans reached.obtained,
    unchanged.rolledBack.trans reached.rolledBack,
    fun _ member => unchanged.journal (reached.journal member)⟩
  obtain ⟨⟨held, anchor, stateFile⟩, _, _, _⟩ := after
  have sameHeld : held = host.held := by
    rw [← reached.host]
    exact unchanged.held
  have sameAnchor : anchor = host.anchor := by
    rw [← reached.host]
    exact unchanged.anchor
  dsimp only at isFile
  rw [sameHeld, sameAnchor, isFile]
  rfl

theorem At.atFile {before world : Progress} {host : Host}
    (reached : At before host world) :
    AtFile world host.stateFile world :=
  ⟨.refl world, by rw [reached.host]⟩

/-- Every command that is run is on the list. -/
theorem allowlisted_arguments {command : PfctlCommand}
    (notEmpty : command.rules ≠ some "") :
    allowlisted command.arguments command.rules = true := by
  cases command with
  | enable => rfl
  | flush => rfl
  | load owner rules =>
      have someRules : rules ≠ "" := fun empty => notEmpty (by rw [← empty]; rfl)
      simp [allowlisted, PfctlCommand.arguments, PfctlCommand.rules, someRules]
  | release token =>
      simp [allowlisted, PfctlCommand.arguments, PfctlCommand.rules,
        token.matched]

section Steps

variable {surroundings : Surroundings} {phase : Phase} {before : Progress}
  {host : Host}

/-- A command that fails has had its effect or not, and is in the journal. -/
theorem run_ensures {command : PfctlCommand}
    (notEmpty : command.rules ≠ some "") :
    Ensures (At before host) (run surroundings phase command)
      fun outcome after =>
        match outcome with
        | .ok output => At before (host.perform (some output) command) after ∧
            surroundings.answers phase command host = .done
        | .error failure => failure = .command ∧
            ∃ left, (left = host ∨ left = host.perform none command) ∧
              At before left after ∧
              surroundings.answers phase command host ≠ .done := by
  refine ⟨fun world reached => ?_⟩
  obtain ⟨isHost, obtained, rolledBack, journal⟩ := reached
  subst isHost
  have grown (entry : Entry) : before.journal ⊆ world.journal ++ [entry] :=
    fun _ member => List.mem_append_left _ (journal member)
  have permitted : run surroundings phase command =
      issue surroundings phase command :=
    if_pos (allowlisted_arguments notEmpty)
  rw [permitted]
  unfold issue
  cases isAnswer : surroundings.answers phase command world.host with
  | done => exact ⟨⟨rfl, obtained, rolledBack, grown _⟩, rfl⟩
  | failed applied =>
      refine ⟨rfl, _, ?_, ⟨rfl, obtained, rolledBack, grown _⟩, nofun⟩
      cases applied with
      | false => exact .inl rfl
      | true => exact .inr rfl

/-- `except MacOSResponseError` around a program. -/
theorem caught_ensures {Value : Type} {program : Program Value}
    {start : Progress → Prop} {middle : Except Failure Value → Progress → Prop}
    (body : Ensures start program middle) :
    Ensures start (caught program) fun outcome after =>
      match outcome with
      | .ok (.ok value) => middle (.ok value) after
      | .ok (.error code) => middle (.error (.response code)) after
      | .error failure => middle (.error failure) after := by
  have returned : Ensures start (do return Except.ok (← program))
      fun (outcome : Except Failure (Except String Value)) after =>
        match outcome with
        | .ok (.ok value) => middle (.ok value) after
        | .ok (.error _) => False
        | .error failure => middle (.error failure) after := by
    apply Ensures.bind body
    · exact fun value => Ensures.returns fun _ holds => holds
    · exact fun failure world holds => holds
  apply Ensures.catches returned
  · intro value world holds
    cases value with
    | ok value => exact holds
    | error code => exact holds.elim
  · intro failure
    cases failure with
    | response code => exact Ensures.returns fun _ holds => holds
    | command | os | value => exact Ensures.throws fun _ holds => holds

/-! ## The state store on a known host -/

theorem read_at :
    Ensures (At before host) (read surroundings phase)
      fun outcome after => At before host after ∧
        match outcome with
        | .ok found => found = host.stateFile
        | .error failure =>
            Blames phase .read host.stateFile failure after := by
  refine ⟨fun world reached => ?_⟩
  have holds := (@read_ensures surroundings phase world
    host.stateFile).ends world reached.atFile
  exact ⟨AtFile.at reached holds.1, holds.2⟩

/-- What follows a read is given the state file. -/
theorem read_bind {Result : Type}
    {next : Option MacOSPfState → Program Result}
    {after : Except Failure Result → Progress → Prop}
    (nextEnsures : Ensures (At before host) (next host.stateFile) after)
    (raised : ∀ failure world, At before host world →
      Blames phase .read host.stateFile failure world →
      after (.error failure) world) :
    Ensures (At before host) (read surroundings phase >>= next) after := by
  apply Ensures.bind read_at
  · intro found
    refine ⟨fun world ⟨reached, isFound⟩ => ?_⟩
    dsimp only at isFound
    subst isFound
    exact nextEnsures.ends world reached
  · exact fun failure world ⟨reached, blames⟩ =>
      raised failure world reached blames

theorem delete_at :
    Ensures (At before host) (delete surroundings phase)
      fun outcome after =>
        match outcome with
        | .ok _ => At before (host.withFile none) after
        | .error failure => ∃ left,
            (left = host.stateFile ∨ left = none) ∧
            At before (host.withFile left) after ∧
            Blames phase .delete left failure after := by
  refine ⟨fun world reached => ?_⟩
  have holds := (@delete_ensures surroundings phase world
    host.stateFile).ends world reached.atFile
  generalize delete surroundings phase world = ended at holds
  obtain ⟨outcome, after⟩ := ended
  cases outcome with
  | ok _ => exact AtFile.at reached holds
  | error failure =>
      obtain ⟨left, isLeft, atFile, blames⟩ := holds
      exact ⟨left, isLeft, atFile.at reached, blames⟩

theorem write_at {state : MacOSPfState} (noFile : host.stateFile = none) :
    Ensures (At before host) (write surroundings phase state)
      fun outcome after =>
        match outcome with
        | .ok _ => At before (host.withFile (some state)) after
        | .error failure => ∃ left, (left = none ∨ left = some state) ∧
            At before (host.withFile left) after ∧
            WriteRaises phase left failure after := by
  refine ⟨fun world reached => ?_⟩
  have atFile := reached.atFile
  rw [noFile] at atFile
  have holds := (@write_ensures surroundings phase world state).ends world
    atFile
  generalize write surroundings phase state world = ended at holds
  obtain ⟨outcome, after⟩ := ended
  cases outcome with
  | ok _ => exact AtFile.at reached holds
  | error failure =>
      obtain ⟨left, isLeft, atFile, raises⟩ := holds
      exact ⟨left, isLeft, atFile.at reached, raises⟩

/-! ## The parts of an isolate -/

def Progress.obtains (before : Progress) (token : PfToken) : Progress :=
  { before with obtained := some token }

theorem enable_ensures :
    Ensures (At before host)
      (tryCatch (run surroundings .applying .enable) fun failure =>
        match failure with
        | .command => throw (.response "pf_enable_failed")
        | other => throw other)
      fun outcome after =>
        match outcome with
        | .ok output => At before (host.perform (some output) .enable) after
        | .error _ => At before host after := by
  apply Ensures.catches (run_ensures (by decide))
  · exact fun _ _ holds => holds.1
  · intro failure
    apply Ensures.given
    rintro rfl
    apply Ensures.throws
    rintro world ⟨left, rfl | rfl, reached, _⟩
    · exact reached
    · exact reached

theorem enablePf_ensures :
    Ensures (At before host) (enablePf surroundings)
      fun outcome after =>
        match outcome with
        | .ok token => At (before.obtains token)
            { host with held := token :: host.held } after
        | .error _ => At before host after := by
  apply Ensures.bind enable_ensures
  · intro output
    cases isToken : tokenOutput output with
    | none =>
        have same : host.perform (some output) .enable = host := by
          simp [Host.perform, isToken]
        simp only [same]
        exact Ensures.throws fun _ reached => reached
    | some token =>
        have performed : host.perform (some output) .enable =
            { host with held := token :: host.held } := by
          simp [Host.perform, isToken]
        simp only [performed]
        have obtained : Ensures
            (At before { host with held := token :: host.held })
            (modify fun progress =>
              { progress with obtained := some token } : Program Unit)
            fun outcome after => outcome = .ok () ∧
              At (before.obtains token)
                { host with held := token :: host.held } after :=
          Ensures.changes fun _ reached => ⟨rfl,
            reached.host, rfl, reached.rolledBack, reached.journal⟩
        apply Ensures.bind obtained
        · exact fun _ => Ensures.returns fun _ holds => holds.2
        · intro _ _ holds
          cases holds.1
  · exact fun _ _ reached => reached

theorem succeeds_ensures {command : PfctlCommand} {reached : Host}
    (notEmpty : command.rules ≠ some "")
    (performs : ∀ output, host.perform output command = reached) :
    Ensures (At before host) (succeeds surroundings command)
      fun outcome after => ∃ succeeded, outcome = .ok succeeded ∧
        ∃ left, ((left = host ∨ left = reached) ∧
          (succeeded = true → left = reached)) ∧ At before left after := by
  have body : Ensures (At before host) (do
      let _ ← run surroundings .undoing command
      return true)
      fun outcome after =>
        match outcome with
        | .ok value => value = true ∧ At before reached after
        | .error failure => failure = .command ∧
            ∃ left, (left = host ∨ left = reached) ∧
              At before left after := by
    apply Ensures.bind (run_ensures notEmpty)
    · intro output
      apply Ensures.returns
      intro world holds
      have performed := holds.1
      rw [performs] at performed
      exact ⟨rfl, performed⟩
    · rintro failure world ⟨isCommand, left, isLeft, reached, _⟩
      rw [performs] at isLeft
      exact ⟨isCommand, left, isLeft, reached⟩
  apply Ensures.catches body
  · rintro value world ⟨rfl, holds⟩
    exact ⟨true, rfl, reached, ⟨.inr rfl, fun _ => rfl⟩, holds⟩
  · intro failure
    apply Ensures.given
    rintro rfl
    apply Ensures.returns
    rintro world ⟨left, isLeft, holds⟩
    exact ⟨false, rfl, left, ⟨isLeft, nofun⟩, holds⟩

/-- The host without the reference and with an empty anchor. -/
def Host.freed (host : Host) (token : PfToken) : Host :=
  { host with held := host.held.filter (· ≠ token), anchor := none }

/-- Some of what is held or loaded is gone. -/
structure Loosened (host left : Host) : Prop where
  held : left.held ⊆ host.held
  anchor : left.anchor = host.anchor ∨ left.anchor = none
  stateFile : left.stateFile = host.stateFile

theorem loosened_performed {flushed left : Host} {token : PfToken}
    (isFlushed : flushed = host ∨ flushed = { host with anchor := none })
    (isLeft : left = flushed ∨
      left = { flushed with held := flushed.held.filter (· ≠ token) }) :
    Loosened host left := by
  rcases isFlushed with rfl | rfl <;> rcases isLeft with rfl | rfl
  · exact ⟨fun _ member => member, .inl rfl, rfl⟩
  · exact ⟨List.filter_sublist.subset, .inl rfl, rfl⟩
  · exact ⟨fun _ member => member, .inr rfl, rfl⟩
  · exact ⟨List.filter_sublist.subset, .inr rfl, rfl⟩

def Progress.rollsBack (before : Progress) (succeeded : Bool) : Progress :=
  { before with rolledBack := some succeeded }

/-- Both commands are run, also after a failure of the first. -/
theorem rollback_ensures {token : PfToken} :
    Ensures (At before host) (rollback surroundings token)
      fun outcome after => ∃ succeeded, outcome = .ok succeeded ∧
        ∃ left, (Loosened host left ∧
          (succeeded = true → left = host.freed token)) ∧
          At (before.rollsBack succeeded) left after := by
  apply Ensures.bind (succeeds_ensures (by decide) fun _ => rfl)
  · intro flushed
    apply Ensures.chosen
    intro value
    apply Ensures.given
    rintro ⟨rfl⟩
    apply Ensures.chosen
    intro middle
    apply Ensures.given
    rintro ⟨isMiddle, whenFlushed⟩
    apply Ensures.bind (succeeds_ensures (by simp [PfctlCommand.rules])
      fun _ => rfl)
    · intro released
      apply Ensures.chosen
      intro value
      apply Ensures.given
      rintro ⟨rfl⟩
      apply Ensures.chosen
      intro left
      apply Ensures.given
      rintro ⟨isLeft, whenReleased⟩
      have recorded : Ensures (At before left)
          (Effect.modify fun progress => { progress with
            rolledBack := some (flushed && released) } : Program Unit)
          fun outcome after => outcome = .ok () ∧
            At (before.rollsBack (flushed && released)) left after :=
        Ensures.changes fun _ reached => ⟨rfl,
          reached.host, reached.obtained, rfl, reached.journal⟩
      apply Ensures.bind recorded
      · intro _
        apply Ensures.returns
        intro world holds
        refine ⟨_, rfl, left, ⟨loosened_performed isMiddle isLeft,
          fun both => ?_⟩, holds.2⟩
        obtain ⟨isFlushed, isReleased⟩ := Bool.and_eq_true_iff.mp both
        rw [whenReleased isReleased, whenFlushed isFlushed]
        rfl
      · intro _ _ holds
        cases holds.1
    · exact fun _ _ holds => nomatch holds
  · exact fun _ _ holds => nomatch holds

/-- A failed call of the isolate that defeats its handlers: it raises past
them while no state file is in place, or keeps a state file in place that is
to be discarded. -/
def Entry.escapes (entry : Entry) : Bool :=
  entry.answer ≠ .done &&
    match entry.call with
    | .store .applying .write call => call.outsideHandlers && !entry.inPlace
    | .store .discarding _ _ => entry.inPlace
    | _ => false

def Escaped (progress : Progress) : Prop :=
  ∃ entry ∈ progress.journal, entry.escapes = true

/-- A call of the state store failed. -/
def Entry.storeFailed (entry : Entry) : Bool :=
  entry.answer ≠ .done &&
    match entry.call with
    | .store _ _ _ => true
    | .pfctl _ _ => false

def StoreFailed (progress : Progress) : Prop :=
  ∃ entry ∈ progress.journal, entry.storeFailed = true

theorem Failing.escaped {operation : StoreOperation} {call : StoreCall}
    {state : MacOSPfState} {after : Progress}
    (failing : Failing .discarding operation call (some state) after) :
    Escaped after := by
  obtain ⟨answer, notDone, member⟩ := failing
  refine ⟨_, member, ?_⟩
  simpa [Entry.escapes] using notDone

theorem HasFailed.storeFailed {operation : StoreOperation}
    {after : Progress} (failed : HasFailed phase operation after) :
    StoreFailed after := by
  obtain ⟨call, file, answer, notDone, member⟩ := failed
  refine ⟨_, member, ?_⟩
  simpa [Entry.storeFailed] using notDone

/-- No state file, or that of this attempt. -/
def NoneOr (state : MacOSPfState) (file : Option MacOSPfState) : Prop :=
  file = none ∨ file = some state

theorem discard_ensures {state : MacOSPfState}
    (isFile : NoneOr state host.stateFile) :
    Ensures (At before host) (do
      match ← read surroundings .discarding with
      | none => return ()
      | some found =>
          if found.pfToken = state.pfToken then
            delete surroundings .discarding
          else return ())
      fun _ after => ∃ left, At before (host.withFile left) after ∧
        (left = none ∨ left = some state ∧ Escaped after) := by
  apply read_bind
  · rcases isFile with isNone | isSome
    · rw [isNone]
      exact Ensures.returns fun _ reached =>
        ⟨host.stateFile, reached, .inl isNone⟩
    · rw [isSome]
      dsimp only
      rw [if_pos rfl]
      apply delete_at.implies
      intro outcome after holds
      cases outcome with
      | ok _ => exact ⟨none, holds, .inl rfl⟩
      | error failure =>
          obtain ⟨left, isLeft, reached, _, _, failing⟩ := holds
          rw [isSome] at isLeft
          rcases isLeft with rfl | rfl
          · exact ⟨some state, reached, .inr ⟨rfl, failing.escaped⟩⟩
          · exact ⟨none, reached, .inl rfl⟩
  · intro failure world reached blamed
    obtain ⟨_, _, failing⟩ := blamed
    refine ⟨host.stateFile, reached, ?_⟩
    rcases isFile with isNone | isSome
    · exact .inl isNone
    · rw [isSome] at failing
      exact .inr ⟨isSome, failing.escaped⟩

theorem discardFailedState_ensures {state : MacOSPfState}
    (isFile : NoneOr state host.stateFile) :
    Ensures (At before host)
      (discardFailedState surroundings state.pfToken)
      fun _ after => ∃ left, At before (host.withFile left) after ∧
        (left = none ∨ left = some state ∧ Escaped after) := by
  apply Ensures.bind (caught_ensures (discard_ensures isFile))
  · intro value
    cases value with
    | ok _ => exact Ensures.returns fun _ holds => holds
    | error _ => exact Ensures.returns fun _ holds => holds
  · exact fun _ _ holds => holds

theorem preserve_ensures {state : MacOSPfState}
    (isFile : NoneOr state host.stateFile) :
    Ensures (At before host) (do
      match ← read surroundings .preserving with
      | none => write surroundings .preserving state
      | some _ => return ())
      fun _ after => ∃ left, At before (host.withFile left) after ∧
        (left = some state ∨ left = none ∧ StoreFailed after) := by
  apply read_bind
  · rcases isFile with isNone | isSome
    · rw [isNone]
      apply (write_at isNone).implies
      intro outcome after holds
      cases outcome with
      | ok _ => exact ⟨some state, holds, .inl rfl⟩
      | error failure =>
          obtain ⟨left, rfl | rfl, reached, raises⟩ := holds
          · exact ⟨none, reached, .inr ⟨rfl, raises.failed.storeFailed⟩⟩
          · exact ⟨some state, reached, .inl rfl⟩
    · rw [isSome]
      exact Ensures.returns fun _ reached =>
        ⟨host.stateFile, reached, .inl isSome⟩
  · intro failure world reached blames
    refine ⟨host.stateFile, reached, ?_⟩
    rcases isFile with isNone | isSome
    · exact .inr ⟨isNone, blames.hasFailed.storeFailed⟩
    · exact .inl isSome

theorem preserveFailedRollback_ensures {state : MacOSPfState}
    (isFile : NoneOr state host.stateFile) :
    Ensures (At before host) (preserveFailedRollback surroundings state)
      fun _ after => ∃ left, At before (host.withFile left) after ∧
        (left = some state ∨ left = none ∧ StoreFailed after) := by
  apply Ensures.bind (caught_ensures (preserve_ensures isFile))
  · intro value
    cases value with
    | ok _ => exact Ensures.returns fun _ holds => holds
    | error _ => exact Ensures.returns fun _ holds => holds
  · exact fun _ _ holds => holds

/-- What a failed isolate leaves when its handler has run. -/
structure Undone (state : MacOSPfState) (host : Host) (after : Progress) :
    Prop where
  succeeded : after.rolledBack = some true →
    after.host.held = host.held.filter (· ≠ state.pfToken) ∧
    after.host.anchor = none ∧
    (after.host.stateFile = none ∨ Escaped after)
  failed : after.rolledBack = some false →
    after.host.held ⊆ host.held ∧
    (after.host.anchor = host.anchor ∨ after.host.anchor = none) ∧
    (after.host.stateFile = some state ∨ StoreFailed after)
  ran : after.rolledBack ≠ none
  stateFile : NoneOr state after.host.stateFile

theorem undo_ensures {state : MacOSPfState}
    (isFile : NoneOr state host.stateFile) :
    Ensures (At before host) (undo surroundings state)
      fun _ after => Undone state host after ∧
        after.obtained = before.obtained ∧
        before.journal ⊆ after.journal := by
  apply Ensures.bind rollback_ensures
  · intro succeeded
    apply Ensures.chosen
    intro value
    apply Ensures.given
    rintro ⟨rfl⟩
    apply Ensures.chosen
    intro left
    apply Ensures.given
    rintro ⟨loosened, whenSucceeded⟩
    have leftFile : NoneOr state left.stateFile := by
      rw [loosened.stateFile]
      exact isFile
    cases succeeded with
    | true =>
        have isLeft := whenSucceeded rfl
        apply (discardFailedState_ensures leftFile).implies
        rintro outcome after ⟨file, reached, isNone⟩
        refine ⟨⟨fun _ => ⟨?_, ?_, ?_⟩, ?_, ?_, ?_⟩, reached.obtained,
          reached.journal⟩
        · rw [reached.host, isLeft]
          rfl
        · rw [reached.host, isLeft]
          rfl
        · rw [reached.host]
          exact isNone.imp_right fun holds => holds.2
        · intro isFalse
          cases reached.rolledBack.symm.trans isFalse
        · rw [reached.rolledBack]
          exact nofun
        · rw [reached.host]
          exact isNone.imp_right fun holds => holds.1
    | false =>
        apply (preserveFailedRollback_ensures leftFile).implies
        rintro outcome after ⟨file, reached, isSome⟩
        refine ⟨⟨?_, fun _ => ⟨?_, ?_, ?_⟩, ?_, ?_⟩, reached.obtained,
          reached.journal⟩
        · intro isTrue
          cases reached.rolledBack.symm.trans isTrue
        · rw [reached.host]
          exact loosened.held
        · rw [reached.host]
          exact loosened.anchor
        · rw [reached.host]
          exact isSome.imp_right fun holds => holds.2
        · rw [reached.rolledBack]
          exact nofun
        · rw [reached.host]
          exact (isSome.imp_right fun holds => holds.1).symm
  · exact fun _ _ holds => nomatch holds

/-- The rules may have been loaded, and the state file written. -/
structure Loaded (state : MacOSPfState) (host left : Host) : Prop where
  held : left.held = host.held
  anchor : left.anchor = host.anchor ∨
    ∃ rules, left.anchor = some ⟨rules, state.pfToken⟩
  stateFile : NoneOr state left.stateFile

theorem rulesText_not_empty (library : AddressLibrary) (adapter : Adapter)
    (ips : ManagementIps) : rulesText library adapter ips ≠ "" := by
  intro empty
  have noText := congrArg String.toList empty
  rw [rulesText, String.toList_append] at noText
  exact List.cons_ne_nil _ _ (List.append_eq_nil_iff.mp noText).2

theorem loadAndRecord_ensures {library : AddressLibrary} {adapter : Adapter}
    {state : MacOSPfState} (noFile : host.stateFile = none) :
    Ensures (At before host)
      (loadAndRecord library adapter surroundings state)
      fun outcome after => ∃ left, At before left after ∧
        Loaded state host left ∧
        match outcome with
        | .ok _ => left.stateFile = some state
        | .error failure => failure ≠ .value ∧
            (failure = .os → left.stateFile = some state ∨ Escaped after) := by
  have notEmpty : (PfctlCommand.load state.pfToken
      (rulesText library adapter state.managementIps)).rules ≠ some "" :=
    fun empty => rulesText_not_empty _ _ _ (Option.some.inj empty)
  apply Ensures.bind (run_ensures notEmpty)
  · intro output
    have written := @write_at surroundings .applying before
      (host.perform (some output) (.load state.pfToken
        (rulesText library adapter state.managementIps))) state noFile
    apply written.weaken
    · exact fun _ holds => holds.1
    · intro outcome after holds
      cases outcome with
      | ok _ =>
          exact ⟨_, holds, ⟨rfl, .inr ⟨_, rfl⟩, .inr rfl⟩, rfl⟩
      | error failure =>
          obtain ⟨left, isLeft, reached, raises⟩ := holds
          refine ⟨_, reached, ⟨rfl, .inr ⟨_, rfl⟩, isLeft⟩, ?_, fun isOs => ?_⟩
          · rintro rfl
            rcases raises.kind with isOs | ⟨code, isResponse⟩
            · cases isOs
            · cases isResponse
          · rcases isLeft with rfl | rfl
            · obtain ⟨call, outside, answer, notDone, member⟩ :=
                raises.unhandled isOs
              refine .inr ⟨_, member, ?_⟩
              simpa [Entry.escapes, outside] using notDone
            · exact .inl rfl
  · rintro failure world ⟨rfl, left, isLeft, reached, _⟩
    refine ⟨left, reached, ?_, nofun, nofun⟩
    rcases isLeft with rfl | rfl
    · exact ⟨rfl, .inl rfl, .inl noFile⟩
    · exact ⟨rfl, .inr ⟨_, rfl⟩, .inl noFile⟩

def Host.holding (host : Host) (token : PfToken) : Host :=
  { host with held := token :: host.held }

/-- What an isolate leaves on a host without a state file. -/
inductive Contained (expiry : Timestamp) (host : Host) (after : Progress) :
    Prop
  | notObtained (same : after.host = host) (obtained : after.obtained = none)
      (rolledBack : after.rolledBack = none)
  | kept (state : MacOSPfState) (deadline : state.expiresAt = expiry)
      (obtained : after.obtained = some state.pfToken)
      (rolledBack : after.rolledBack = none)
      (loaded : Loaded state (host.holding state.pfToken) after.host)
      (recorded : after.host.stateFile = some state ∨ Escaped after)
  | undone (state : MacOSPfState) (deadline : state.expiresAt = expiry)
      (obtained : after.obtained = some state.pfToken) (loaded : Host)
      (isLoaded : Loaded state (host.holding state.pfToken) loaded)
      (undone : Undone state loaded after)

theorem managementIps_ensures {library : AddressLibrary} {adapter : Adapter} :
    Ensures (At before host) (managementIps library adapter surroundings)
      fun _ after => At before host after := by
  unfold managementIps
  split
  · exact Ensures.throws fun _ reached => reached
  · split
    · exact Ensures.throws fun _ reached => reached
    · exact Ensures.returns fun _ reached => reached

theorem loadOrUndo_ensures {library : AddressLibrary} {adapter : Adapter}
    {state : MacOSPfState} (noFile : host.stateFile = none)
    (isToken : before.obtained = some state.pfToken)
    (noRollback : before.rolledBack = none) {first : Host}
    (holding : host = first.holding state.pfToken) :
    Ensures (At before host) (loadOrUndo library adapter surroundings state)
      fun _ after => Contained state.expiresAt first after := by
  subst holding
  have undoing (code : String) {loaded : Host}
      (isLoaded : Loaded state (first.holding state.pfToken) loaded) :
      Ensures (At before loaded) (do
        undo surroundings state
        throw (.response code))
        fun (_ : Except Failure Unit) after =>
          Contained state.expiresAt first after := by
    have contained (after : Progress) (holds : Undone state loaded after ∧
        after.obtained = before.obtained ∧ before.journal ⊆ after.journal) :
        Contained state.expiresAt first after :=
      .undone state rfl (holds.2.1.trans isToken) loaded isLoaded holds.1
    apply Ensures.bind (undo_ensures isLoaded.stateFile)
    · exact fun _ => Ensures.throws contained
    · exact fun _ => contained
  apply Ensures.catches (loadAndRecord_ensures noFile)
  · rintro value world ⟨left, reached, isLoaded, isFile⟩
    refine .kept state rfl (reached.obtained.trans isToken)
      (reached.rolledBack.trans noRollback) ?_ (.inl ?_)
    · rw [reached.host]
      exact isLoaded
    · rw [reached.host]
      exact isFile
  · intro failure
    apply Ensures.chosen
    intro left
    refine ⟨fun world ⟨reached, isLoaded, notValue, whenOs⟩ => ?_⟩
    cases failure with
    | response code => exact (undoing code isLoaded).ends world reached
    | command => exact (undoing _ isLoaded).ends world reached
    | value => exact absurd rfl notValue
    | os =>
        have kept : Contained state.expiresAt first world := by
          refine .kept state rfl (reached.obtained.trans isToken)
            (reached.rolledBack.trans noRollback) ?_ ?_
          · rw [reached.host]
            exact isLoaded
          · rw [reached.host]
            exact whenOs rfl
        exact kept

theorem contain_ensures {library : AddressLibrary} {adapter : Adapter}
    {action : MacOSResponseAction} {now : Timestamp}
    (noFile : host.stateFile = none) (noToken : before.obtained = none)
    (noRollback : before.rolledBack = none) :
    Ensures (At before host) (contain library adapter surroundings action now)
      fun _ after => Contained (min action.expiresAt (now + maxContainment))
        host after := by
  have notObtained (after : Progress) (reached : At before host after) :
      Contained (min action.expiresAt (now + maxContainment)) host after :=
    .notObtained reached.host (reached.obtained.trans noToken)
      (reached.rolledBack.trans noRollback)
  apply Ensures.bind managementIps_ensures
  · intro ips
    apply Ensures.bind enablePf_ensures
    · intro token
      have loading := @loadOrUndo_ensures surroundings (before.obtains token)
        (host.holding token) library adapter
        ⟨token, min action.expiresAt (now + maxContainment), ips⟩ noFile rfl
        noRollback host rfl
      exact loading.bind (fun _ => Ensures.returns fun _ holds => holds)
        fun _ _ holds => holds
    · exact fun _ => notObtained
  · exact fun _ => notObtained

/-! ## Whole attempts -/

/-- What a release of the recorded token may leave. -/
inductive Released (state : MacOSPfState) (host left : Host) : Prop
  | loosened (partly : Loosened host left)
  | freed (file : Option MacOSPfState)
      (isFile : file = host.stateFile ∨ file = none)
      (same : left = (host.freed state.pfToken).withFile file)

theorem releaseState_ensures {state : MacOSPfState} :
    Ensures (At before host) (releaseState surroundings state)
      fun outcome after => ∃ left, At before left after ∧
        Released state host left ∧
        (∀ value, outcome = .ok value →
          left = (host.freed state.pfToken).withFile none) := by
  have body : Ensures (At before host) (do
      let _ ← run surroundings .releasing .flush
      let _ ← run surroundings .releasing (.release state.pfToken)
      delete surroundings .releasing)
      fun outcome after => ∃ left, At before left after ∧
        Released state host left ∧
        (∀ value, outcome = .ok value →
          left = (host.freed state.pfToken).withFile none) := by
    apply Ensures.bind (run_ensures (by decide))
    · intro output
      apply Ensures.bind ((run_ensures (by simp [PfctlCommand.rules])).weaken
        (fun _ holds => holds.1) fun _ _ holds => holds)
      · intro output
        apply delete_at.weaken (fun _ holds => holds.1)
        intro outcome after holds
        cases outcome with
        | ok value =>
            exact ⟨_, holds, .freed none (.inr rfl) rfl, fun _ _ => rfl⟩
        | error failure =>
            obtain ⟨left, isLeft, reached, _⟩ := holds
            exact ⟨_, reached, .freed left isLeft rfl, nofun⟩
      · rintro failure world ⟨_, left, isLeft, reached, _⟩
        exact ⟨left, reached,
          .loosened (loosened_performed (.inr rfl) isLeft), nofun⟩
    · rintro failure world ⟨_, left, isLeft, reached, _⟩
      exact ⟨left, reached,
        .loosened (@loosened_performed host left left state.pfToken isLeft
          (.inl rfl)), nofun⟩
  apply Ensures.catches body
  · exact fun _ _ holds => holds
  · intro failure
    have raised (world : Progress) (other : Failure)
        (holds : ∃ left, At before left world ∧ Released state host left ∧
          ∀ value : Unit, Except.error failure = .ok value →
            left = (host.freed state.pfToken).withFile none) :
        ∃ left, At before left world ∧ Released state host left ∧
          ∀ value : Unit, Except.error other = .ok value →
            left = (host.freed state.pfToken).withFile none := by
      obtain ⟨left, reached, released, _⟩ := holds
      exact ⟨left, reached, released, nofun⟩
    cases failure with
    | response _ | command | os | value =>
        exact Ensures.throws fun _ holds => raised _ _ holds

/-- What an attempt leaves. -/
inductive Attempted (attempt : Attempt) (host : Host) (after : Progress) : Prop
  | kept (same : after.host = host) (obtained : after.obtained = none)
      (rolledBack : after.rolledBack = none)
  | released (state : MacOSPfState) (isFile : host.stateFile = some state)
      (released : Released state host after.host)
      (obtained : after.obtained = none) (rolledBack : after.rolledBack = none)
  | contained (action : MacOSResponseAction) (now : Timestamp)
      (request : attempt.request = .execute action)
      (isIsolate : action.actionType = .isolateEndpoint)
      (clock : attempt.surroundings.clock = some now) (first : Host)
      (isFirst : first = host ∨ ∃ state, host.stateFile = some state ∧
        first = (host.freed state.pfToken).withFile none)
      (noFile : first.stateFile = none)
      (contained : Contained (min action.expiresAt (now + maxContainment))
        first after)

theorem requireEnvironment_ensures {adapter : Adapter}
    {allowDisabled : Bool} :
    Ensures (At before host)
      (requireEnvironment adapter surroundings allowDisabled)
      fun _ after => At before host after := by
  unfold requireEnvironment
  split_ifs
  · exact Ensures.throws fun _ reached => reached
  · exact Ensures.throws fun _ reached => reached
  · exact Ensures.throws fun _ reached => reached
  · exact Ensures.returns fun _ reached => reached

theorem utcNow_ensures :
    Ensures (At before host) (utcNow surroundings)
      fun outcome after =>
        match outcome with
        | .ok now => surroundings.clock = some now ∧ At before host after
        | .error _ => At before host after := by
  unfold utcNow
  split
  · exact Ensures.throws fun _ reached => reached
  · next now clock => exact Ensures.returns fun _ reached => ⟨clock, reached⟩

end Steps

section Attempts

variable {library : AddressLibrary} {attempt : Attempt} {host : Host}

theorem At.kept {after : Progress} (reached : At (.start host) host after) :
    Attempted attempt host after :=
  .kept reached.host reached.obtained reached.rolledBack

theorem At.released {after : Progress} {state : MacOSPfState} {left : Host}
    (isFile : host.stateFile = some state)
    (reached : At (.start host) left after)
    (released : Released state host left) : Attempted attempt host after := by
  refine .released state isFile ?_ reached.obtained reached.rolledBack
  rw [reached.host]
  exact released

theorem release_attempted :
    Ensures (At (.start host) host) (release attempt.surroundings)
      fun _ after => Attempted attempt host after := by
  apply read_bind
  · cases isFile : host.stateFile with
    | none => exact Ensures.returns fun _ reached => reached.kept
    | some state =>
        apply Ensures.bind releaseState_ensures
        · intro _
          apply Ensures.returns
          rintro world ⟨left, reached, released, _⟩
          exact reached.released isFile released
        · rintro failure world ⟨left, reached, released, _⟩
          exact reached.released isFile released
  · exact fun _ _ reached _ => reached.kept

theorem isolate_attempted {action : MacOSResponseAction} {now : Timestamp}
    (request : attempt.request = .execute action)
    (isIsolate : action.actionType = .isolateEndpoint)
    (clock : attempt.surroundings.clock = some now) :
    Ensures (At (.start host) host)
      (isolate library attempt.adapter attempt.surroundings action now)
      fun _ after => Attempted attempt host after := by
  apply read_bind
  · cases isFile : host.stateFile with
    | none =>
        exact (contain_ensures isFile rfl rfl).implies fun _ _ contained =>
          .contained action now request isIsolate clock host (.inl rfl) isFile
            contained
    | some state =>
        dsimp only
        split_ifs with isExpired
        · apply Ensures.bind releaseState_ensures
          · intro value
            refine ⟨fun world ⟨left, reached, _, isFreed⟩ => ?_⟩
            rw [isFreed value rfl] at reached
            have contained := (@contain_ensures attempt.surroundings
              (.start host) _ library attempt.adapter action now rfl rfl
              rfl).ends world reached
            exact .contained action now request isIsolate clock _
              (.inr ⟨state, isFile, rfl⟩) rfl contained
          · rintro failure world ⟨left, reached, released, _⟩
            exact reached.released isFile released
        · exact Ensures.returns fun _ reached => reached.kept
  · exact fun _ _ reached _ => reached.kept

theorem execute_attempted {action : MacOSResponseAction}
    (request : attempt.request = .execute action) :
    Ensures (At (.start host) host)
      (execute library attempt.adapter attempt.surroundings action)
      fun _ after => Attempted attempt host after := by
  have checked {Value : Type} {allowDisabled : Bool} {next : Program Value}
      (nextEnsures : Ensures (At (.start host) host) next
        fun _ after => Attempted attempt host after) :
      Ensures (At (.start host) host) (do
        requireEnvironment attempt.adapter attempt.surroundings allowDisabled
        next) fun _ after => Attempted attempt host after := by
    apply Ensures.bind requireEnvironment_ensures
    · exact fun _ => nextEnsures
    · exact fun _ _ reached => reached.kept
  apply Ensures.bind utcNow_ensures
  · intro now
    apply Ensures.given
    intro clock
    split_ifs
    · exact Ensures.throws fun _ reached => reached.kept
    · exact Ensures.throws fun _ reached => reached.kept
    · cases isType : action.actionType with
      | isolateEndpoint =>
          exact checked (isolate_attempted request isType clock)
      | releaseEndpoint => exact checked release_attempted
  · exact fun _ _ reached => reached.kept

theorem releasing_ensures (state : MacOSPfState) :
    Ensures (At (.start host) host) (do
      requireEnvironment attempt.adapter attempt.surroundings true
      releaseState attempt.surroundings state)
      fun _ after => ∃ left, At (.start host) left after ∧
        (left = host ∨ Released state host left) := by
  apply Ensures.bind requireEnvironment_ensures
  · intro _
    apply releaseState_ensures.implies
    rintro outcome after ⟨left, reached, released, _⟩
    exact ⟨left, reached, .inr released⟩
  · exact fun _ _ reached => ⟨host, reached, .inl rfl⟩

theorem attempted_of_released {state : MacOSPfState} {after : Progress}
    (isFile : host.stateFile = some state)
    (holds : ∃ left, At (.start host) left after ∧
      (left = host ∨ Released state host left)) :
    Attempted attempt host after := by
  obtain ⟨left, reached, rfl | released⟩ := holds
  · exact reached.kept
  · exact reached.released isFile released

theorem automaticRelease_attempted {state : MacOSPfState} {now : Timestamp}
    (isFile : host.stateFile = some state) :
    Ensures (At (.start host) host) (do
      match ← caught (do
          requireEnvironment attempt.adapter attempt.surroundings true
          releaseState attempt.surroundings state) with
      | .error _ => return some ⟨now, .releaseFailed, .automaticReleaseFailed⟩
      | .ok _ => return some ⟨now, .released, .containmentExpired⟩)
      fun (_ : Except Failure (Option MacOSReconciliationEvent)) after =>
        Attempted attempt host after := by
  apply Ensures.bind (caught_ensures (releasing_ensures state))
  · intro value
    cases value with
    | ok _ => exact Ensures.returns fun after => attempted_of_released isFile
    | error _ =>
        exact Ensures.returns fun after => attempted_of_released isFile
  · exact fun _ after => attempted_of_released isFile

theorem reconcile_attempted :
    Ensures (At (.start host) host)
      (reconcile attempt.adapter attempt.surroundings)
      fun _ after => Attempted attempt host after := by
  apply Ensures.bind utcNow_ensures
  · intro now
    apply Ensures.given
    intro _
    apply Ensures.bind (caught_ensures read_at)
    · intro found
      rcases found with _ | _ | current
      · exact Ensures.returns fun _ holds => holds.1.kept
      · exact Ensures.returns fun _ holds => holds.1.kept
      · dsimp only
        split_ifs
        · exact Ensures.returns fun _ holds => holds.1.kept
        · constructor
          intro world holds
          exact (automaticRelease_attempted holds.2.symm).ends world holds.1
    · exact fun _ _ holds => holds.1.kept
  · exact fun _ _ reached => reached.kept

/-- Every attempt ends in one of the three ways. -/
theorem run_attempted (library : AddressLibrary) (attempt : Attempt)
    (host : Host) : Attempted attempt host (attempt.run library host).2 := by
  have start : At (.start host) host (.start host) :=
    ⟨rfl, rfl, rfl, fun _ member => member⟩
  have ensures : Ensures (At (.start host) host) (attempt.program library)
      fun _ after => Attempted attempt host after := by
    unfold Attempt.program
    cases request : attempt.request with
    | execute action =>
        apply Ensures.bind (execute_attempted request)
        · exact fun _ => Ensures.returns fun _ holds => holds
        · exact fun _ _ holds => holds
    | reconcile =>
        apply Ensures.bind reconcile_attempted
        · exact fun _ => Ensures.returns fun _ holds => holds
        · exact fun _ _ holds => holds
    | releaseOwnedStateForRecovery =>
        have released : Ensures (At (.start host) host)
            (releaseOwnedStateForRecovery attempt.adapter attempt.surroundings)
            fun _ after => Attempted attempt host after := by
          apply Ensures.bind requireEnvironment_ensures
          · exact fun _ => release_attempted
          · exact fun _ _ reached => reached.kept
        apply Ensures.bind released
        · exact fun _ => Ensures.returns fun _ holds => holds
        · exact fun _ _ holds => holds
  exact ensures.ends _ start

end Attempts

end Containment

end ControlForge
