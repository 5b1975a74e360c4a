import ControlForge.Directory.Steps

/-!
# What the statements of the directory find and write

One lemma for every statement: what it has found in the table it reads, and
the rows of that table after it.
-/

namespace ControlForge

namespace Directory

open Access

variable {Log : Type} {services : Services Log} {records after : Records Log}

/-! ## Statements -/

theorem insertInto_ok {Row : Type} {clash : Row → Row → Bool}
    {table : Records Log → Table Row clash}
    {store : Records Log → Table Row clash → Records Log}
    {failure : DirectoryError} {row : Row} {result : Unit}
    (ran : insertInto table store failure row records = .ok (result, after)) :
    ∃ rows, after = store records rows ∧
      (∀ stored ∈ (table records).rows, clash stored row = false) ∧
      rows.rows = (table records).rows ++ [row] := by
  unfold insertInto at ran
  split at ran
  · next rows inserted =>
      cases ran
      exact ⟨rows, rfl, Table.insert_eq_some.mp inserted⟩
  · cases ran

theorem updateIn_ok {Row : Type} {clash : Row → Row → Bool}
    {table : Records Log → Table Row clash}
    {store : Records Log → Table Row clash → Records Log}
    {failure : DirectoryError} {selected : Row → Bool} {change : Row → Row}
    {count : Nat}
    (ran : updateIn table store failure selected change records =
      .ok (count, after)) :
    ∃ rows, after = store records rows ∧
      count = (table records).rows.countP selected ∧
      rows.rows = (table records).rows.map
        (Table.applyWhere selected change) := by
  unfold updateIn at ran
  split at ran
  · next rows updated =>
      cases ran
      obtain ⟨counted, written, -⟩ := Table.updateWhere_eq_ok.mp updated
      exact ⟨rows, rfl, counted, written⟩
  · cases ran

/-- A program of the appliance, on the appliance of the records. -/
theorem inAppliance_ok {Value : Type} {program : Access.Program Log Value}
    {value : Value}
    (ran : inAppliance program records = .ok (value, after)) :
    ∃ appliance, program records.toAppliance = .ok (value, appliance) ∧
      after = { records with toAppliance := appliance } := by
  unfold inAppliance at ran
  split at ran
  · next succeeded =>
      cases ran
      exact ⟨_, succeeded, rfl⟩
  · cases ran

theorem require_ok {condition : Prop} [Decidable condition]
    {failure : AccessError} {result : Unit}
    (ran : require condition failure records = .ok (result, after)) :
    condition ∧ after = records :=
  Transaction.run_require_ok.mp ran

theorem replaceFailure_ok {Value : Type} {program : Program Log Value}
    {failure : AccessError} {value : Value}
    (ran : replaceFailure program failure records = .ok (value, after)) :
    program records = .ok (value, after) := by
  unfold replaceFailure at ran
  split at ran
  · next succeeded =>
      cases ran
      exact succeeded
  · cases ran

/-! ## Challenges -/

/-- A challenge that `_consume_challenge` may consume. -/
def openChallenge (challengeId : String) (now : Timestamp)
    (row : ChallengeRow) : Bool :=
  row.challengeId = challengeId && (now < row.expiresAt : Bool) &&
    row.consumedAt.isNone

theorem consumeChallenge_ok {challengeId : String} {now : Timestamp}
    {result : Unit}
    (ran : consumeChallenge challengeId now records = .ok (result, after)) :
    records.challenges.any (openChallenge challengeId now) = true ∧
      after.challenges = records.challenges.map (Table.applyWhere
        (openChallenge challengeId now)
        fun row => { row with consumedAt := some now }) := by
  obtain ⟨count, middle, consumed, required⟩ := Transaction.run_bind_ok.mp ran
  obtain ⟨appliance, same, rfl⟩ := inAppliance_ok consumed
  cases same
  obtain ⟨one, rfl⟩ := require_ok required
  refine ⟨?_, rfl⟩
  rw [List.any_eq_true]
  exact List.countP_pos_iff.mp (Nat.lt_of_lt_of_eq Nat.one_pos one.symm)

/-! ## Sessions -/

/-- Whether an identity may sign in depends on three tables. -/
theorem signInAllowed_congr {left right : Records Log}
    (users : left.users = right.users) (tenants : left.tenants = right.tenants)
    (memberships : left.ownerMemberships = right.ownerMemberships)
    (tenantId userId : String) :
    signInAllowed left.identity tenantId userId =
      signInAllowed right.identity tenantId userId := by
  simp only [signInAllowed, Identity.activeUser, Identity.activeTenant,
    Appliance.identity, users, tenants, memberships]

theorem insertedSession {deployment : Deployment Log} {tenantId userId : String}
    {draw : Access.Draw} {appliance next : Appliance Log} {result : Unit}
    (ran : Access.issueSession deployment tenantId userId draw appliance =
      .ok (result, next)) :
    signInAllowed appliance.identity tenantId userId = true ∧
      ∃ sessions, next = { appliance with sessions } ∧
        sessions.rows = appliance.sessions.rows ++
          [sessionRow deployment tenantId userId draw] := by
  obtain ⟨_, _, read, issuing⟩ := Transaction.run_bind_ok.mp ran
  cases read
  obtain ⟨_, _, required, inserted⟩ := Transaction.run_bind_ok.mp issuing
  obtain ⟨allowed, rfl⟩ := Transaction.run_require_ok.mp required
  refine ⟨allowed, ?_⟩
  unfold insertSession at inserted
  split at inserted
  · next sessions stored =>
      cases inserted
      exact ⟨sessions, rfl, (Table.insert_eq_some.mp stored).2⟩
  · cases inserted

/-- An identity that may sign in gets a new session. -/
theorem issueSession_ok {tenantId userId : String} {draw : Draw}
    {result : Unit}
    (ran : issueSession services tenantId userId draw records =
      .ok (result, after)) :
    signInAllowed records.identity tenantId userId = true ∧
      after.sessions.rows = records.sessions.rows ++
        [sessionRow services.toDeployment tenantId userId draw.toDraw] := by
  obtain ⟨appliance, issued, rfl⟩ := inAppliance_ok ran
  obtain ⟨allowed, sessions, rfl, rows⟩ := insertedSession issued
  exact ⟨allowed, rows⟩

/-! ## Passkeys -/

theorem recordAssertion_ok {tenantId credentialId : String}
    {newSignCount count : Nat} {now : Timestamp}
    (ran : recordAssertion tenantId credentialId newSignCount now records =
      .ok (count, after)) :
    after.passkeys.rows = records.passkeys.rows.map (Table.applyWhere
      (PasskeyRow.isLive tenantId credentialId)
      (PasskeyRow.counted newSignCount now)) := by
  unfold recordAssertion updatePasskeys at ran
  obtain ⟨rows, rfl, -, written⟩ := updateIn_ok ran
  exact written

/-! ## Secrets -/

/-- A bootstrap token is used once, by the row that was open. -/
theorem useBootstrapToken_ok {context : BootstrapContext} {now : Timestamp}
    {result : Unit}
    (ran : useBootstrapToken context now records = .ok (result, after)) :
    configured records = false ∧
      (∃ row ∈ records.bootstrapTokens.rows,
        (row.tokenHash = context.tokenHash && row.isOpen now) = true) ∧
      after.bootstrapTokens.rows = records.bootstrapTokens.rows.map
        (Table.applyWhere
          (fun row => row.tokenHash = context.tokenHash && row.isOpen now)
          fun row => { row with usedAt := some now }) := by
  obtain ⟨count, middle, updated, checked⟩ := Transaction.run_bind_ok.mp ran
  obtain ⟨_, _, read, required⟩ := Transaction.run_bind_ok.mp checked
  cases read
  obtain ⟨⟨one, notConfigured⟩, rfl⟩ := Transaction.run_require_ok.mp required
  unfold updateBootstrapTokens at updated
  obtain ⟨rows, rfl, counted, written⟩ := updateIn_ok updated
  refine ⟨notConfigured, ?_, written⟩
  rw [one] at counted
  exact List.countP_pos_iff.mp (Nat.lt_of_lt_of_eq Nat.one_pos counted)

/-- A challenge of an invitation that may be consumed. -/
def openInviteChallenge (challengeId : String) (now : Timestamp)
    (row : InviteChallengeRow) : Bool :=
  (row.challengeId = challengeId : Bool) && row.consumedAt.isNone &&
    now < row.expiresAt

/-- An invitation that may be consumed. -/
def openInvitation (invite : InviteRow) (now : Timestamp) (row : InviteRow) :
    Bool :=
  (row.inviteId = invite.inviteId ∧ row.tokenHash = invite.tokenHash ∧
    now < row.expiresAt : Bool) && row.isOpen

/-- An invitation and its challenge are used by the rows that were open. -/
theorem useInvitation_ok {invitation : Invitation} {now : Timestamp}
    {result : Unit}
    (ran : useInvitation invitation now records = .ok (result, after)) :
    (∃ row ∈ records.inviteChallenges,
        openInviteChallenge invitation.challenge.challengeId now row = true) ∧
      (∃ row ∈ records.invites.rows,
        openInvitation invitation.invite now row = true) ∧
      after.inviteChallenges = records.inviteChallenges.map (Table.applyWhere
        (openInviteChallenge invitation.challenge.challengeId now)
        fun row => { row with consumedAt := some now }) ∧
      after.invites.rows = records.invites.rows.map (Table.applyWhere
        (openInvitation invitation.invite now)
        fun row => { row with consumedAt := some now }) := by
  obtain ⟨challenges, middle, consumed, rest⟩ := Transaction.run_bind_ok.mp ran
  obtain ⟨appliance, same, rfl⟩ := inAppliance_ok consumed
  cases same
  obtain ⟨invites, closed, closing, required⟩ :=
    Transaction.run_bind_ok.mp rest
  obtain ⟨⟨oneChallenge, oneInvite⟩, rfl⟩ := require_ok required
  obtain ⟨appliance, closes, rfl⟩ := inAppliance_ok closing
  unfold closeInvites at closes
  split at closes
  · next updated =>
      cases closes
      obtain ⟨counted, written, -⟩ := Table.updateWhere_eq_ok.mp updated
      refine ⟨?_, ?_, rfl, written⟩
      · exact List.countP_pos_iff.mp
          (Nat.lt_of_lt_of_eq Nat.one_pos oneChallenge.symm)
      · rw [oneInvite] at counted
        exact List.countP_pos_iff.mp (Nat.lt_of_lt_of_eq Nat.one_pos counted)
  · cases closes

/-- The recovery code that signs an identity in was unused, and is used. -/
theorem recoverSession_ok {tenantSlug email recoveryCode : String}
    {draw : Access.Draw} {identity : String × String}
    (ran : inAppliance (recoverSession services.toDeployment tenantSlug email
      recoveryCode draw) records = .ok (identity, after)) :
    ∃ code ∈ records.recoveryCodes,
      code.codeHash = services.recoveryHash recoveryCode ∧
        code.usedAt = none ∧ identity = (code.tenantId, code.userId) ∧
        after.recoveryCodes = records.recoveryCodes.map (Table.applyWhere
          (fun row =>
            (row.tenantId = code.tenantId ∧ row.userId = code.userId ∧
              row.codeHash = code.codeHash : Bool) && row.usedAt.isNone)
          fun row => { row with usedAt := some draw.now }) ∧
        signInAllowed records.identity code.tenantId code.userId = true ∧
        after.sessions.rows = records.sessions.rows ++
          [sessionRow services.toDeployment code.tenantId code.userId draw] := by
  obtain ⟨appliance, recovered, rfl⟩ := inAppliance_ok ran
  obtain ⟨normalized, _, isEmail, rest⟩ := Transaction.run_bind_ok.mp recovered
  obtain ⟨-, rfl⟩ := Transaction.run_ofExcept_eq_ok.mp isEmail
  obtain ⟨_, _, read, found⟩ := Transaction.run_bind_ok.mp rest
  cases read
  cases isFound : recoverable records.toAppliance tenantSlug normalized
      (services.recoveryHash recoveryCode) with
  | none =>
      rw [isFound] at found
      cases found
  | some code =>
      rw [isFound] at found
      obtain ⟨_, used, isUse, issuing⟩ := Transaction.run_bind_ok.mp found
      cases isUse
      obtain ⟨_, issued, isIssue, returned⟩ :=
        Transaction.run_bind_ok.mp issuing
      cases returned
      obtain ⟨allowed, sessions, rfl, rows⟩ := insertedSession isIssue
      have member := List.mem_of_find?_eq_some isFound
      have selected := List.find?_some isFound
      simp only [Bool.and_eq_true, decide_eq_true_eq,
        Option.isNone_iff_eq_none] at selected
      exact ⟨code, member, selected.1.1.1, selected.1.1.2, rfl, rfl, allowed,
        rows⟩

end Directory

end ControlForge
