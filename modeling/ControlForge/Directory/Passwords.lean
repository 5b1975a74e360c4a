import ControlForge.Directory.Updates

/-!
# What sign-ins and new passwords of accounts find and write

What a session check finds, what the issue of a session and the replacement of a
password write, and what the calls that are made of them leave.
-/

namespace ControlForge

namespace Directory

open Access

variable {Log : Type} {services : Services Log} {records after : Records Log}
  {draw : Draw}

/-! ## Sessions -/

section Sessions

/-- The session behind a token, and its account. -/
structure SessionFound (services : Services Log) (records : Records Log)
    (token : String) (account : AccountRow) (session : EndpointSessionRow) :
    Prop where
  stored : session ∈ records.endpointSessions
  token : session.tokenHash = services.tokenHash token
  tenant : session.tenantId = account.tenantId
  holder : session.accountId = account.accountId
  known : account ∈ records.accounts.rows

theorem readSession_ok {token : String} {now : Timestamp} {ready : Bool}
    {account : AccountRow}
    (read : readSession services records token now ready = .ok account) :
    ∃ session, SessionFound services records token account session := by
  unfold readSession at read
  split at read
  · cases read
  · cases isFound : sessionOf services records token now with
    | none =>
        rw [isFound] at read
        cases read
    | some found =>
        obtain ⟨session, stored⟩ := found
        rw [isFound] at read
        have same : stored = account := by
          dsimp only at read
          split at read
          · cases read
          · exact Except.ok.inj read
        rw [← same]
        obtain ⟨_, isSession, rest⟩ := Option.bind_eq_some_iff.mp isFound
        obtain ⟨_, isAccount, returned⟩ := Option.bind_eq_some_iff.mp rest
        cases returned
        have sessionKey := List.find?_some isSession
        have accountKey := List.find?_some isAccount
        simp only [Bool.and_eq_true, decide_eq_true_eq, AccountRow.hasKey]
          at sessionKey accountKey
        exact ⟨session, List.mem_of_find?_eq_some isSession, sessionKey.1,
          accountKey.1.1.1.symm, accountKey.1.1.2.symm,
          List.mem_of_find?_eq_some isAccount⟩

/-- The sessions after the issue of one: some that were stored, none of them of
the account, and the new one. -/
def Reissued (services : Services Log) (draw : Draw) (account : AccountRow)
    (before after : List EndpointSessionRow) : Prop :=
  ∃ kept : EndpointSessionRow → Bool,
    after = before.filter kept ++ [endpointSession services account draw] ∧
      ∀ row, kept row = true →
        EndpointSessionRow.ofAccount account.tenantId account.accountId row =
          false

theorem issueEndpointSession_ok {account : AccountRow} {result : Unit}
    (ran : issueEndpointSession services account draw records =
      .ok (result, after)) :
    ∃ endpointSessions, after = { records with endpointSessions } ∧
      Reissued services draw account records.endpointSessions
        endpointSessions := by
  obtain ⟨_, _, expired, afterExpired⟩ := Transaction.run_bind_ok.mp ran
  cases expired
  obtain ⟨_, _, deleted, afterDeleted⟩ :=
    Transaction.run_bind_ok.mp afterExpired
  cases deleted
  obtain ⟨_, _, read, afterRead⟩ := Transaction.run_bind_ok.mp afterDeleted
  cases read
  obtain ⟨_, _, unique, written⟩ := Transaction.run_bind_ok.mp afterRead
  obtain ⟨-, rfl⟩ := Transaction.run_require_ok.mp unique
  cases written
  refine ⟨_, rfl, _, by rw [List.filter_filter], fun row isKept => ?_⟩
  simpa using (Bool.and_eq_true_iff.mp isKept).1

theorem login_ok {read account : AccountRow}
    (ran : login services read draw records = .ok (account, after)) :
    ∃ endpointSessions, after = { records with endpointSessions } ∧
      Reissued services draw account records.endpointSessions
        endpointSessions := by
  obtain ⟨_, start, isRead, afterRead⟩ := Transaction.run_bind_ok.mp ran
  cases isRead
  cases isFound : currentLogin records read with
  | none =>
      rw [isFound] at afterRead
      cases afterRead
  | some current =>
      rw [isFound] at afterRead
      obtain ⟨_, _, timely, issuing⟩ := Transaction.run_bind_ok.mp afterRead
      obtain ⟨-, rfl⟩ := Transaction.run_require_ok.mp timely
      obtain ⟨_, _, issued, returned⟩ := Transaction.run_bind_ok.mp issuing
      cases returned
      exact issueEndpointSession_ok issued

end Sessions

/-! ## New accounts -/

theorem createAccount_ok {principal : SessionPrincipal} {input : AccountInput}
    {encoded : String} {result : Unit}
    (ran : createAccount services principal input encoded draw records =
      .ok (result, after)) :
    ∃ row, after.accounts.rows = records.accounts.rows ++ [row] := by
  obtain ⟨_, _, admin, afterAdmin⟩ := Transaction.run_bind_ok.mp ran
  obtain ⟨_, holds, rfl⟩ := inAppliance_ok admin
  obtain ⟨-, rfl⟩ := holds_of_requireCurrentCapability holds
  obtain ⟨_, _, read, afterRead⟩ := Transaction.run_bind_ok.mp afterAdmin
  cases read
  cases isFound : activeDomain records principal.tenantId with
  | none =>
      rw [isFound] at afterRead
      cases afterRead
  | some domain =>
      rw [isFound] at afterRead
      obtain ⟨userName, _, named, afterNamed⟩ :=
        Transaction.run_bind_ok.mp afterRead
      obtain ⟨_, naming, rfl⟩ := inAppliance_ok named
      obtain ⟨-, rfl⟩ := Transaction.run_ofExcept_eq_ok.mp naming
      obtain ⟨_, _, few, afterFew⟩ := Transaction.run_bind_ok.mp afterNamed
      obtain ⟨-, rfl⟩ := require_ok few
      obtain ⟨_, inserted, inserting, recorded⟩ :=
        Transaction.run_bind_ok.mp afterFew
      have logging : Touches [.audit] inserted after :=
        touches_audit (by simp) _ _ _ _ _ recorded
      have adding := replaceFailure_ok inserting
      unfold insertAccount at adding
      obtain ⟨rows, rfl, -, added⟩ := insertInto_ok adding
      have accounts : after.accounts = rows := logging .accounts (by simp)
      exact ⟨_, by rw [accounts, added]⟩

/-! ## New passwords -/

section Passwords

variable {account : AccountRow} {encoded : String}

/-- A replacement of the password of an account. -/
structure Replaced (account : AccountRow) (encoded : String)
    (completeSetup : Bool) (now : Timestamp) (before after : Records Log) :
    Prop where
  accounts : after.accounts.rows = before.accounts.rows.map (Table.applyWhere
    (·.hasKey account.tenantId account.accountId)
    (replacedPassword account encoded completeSetup now))
  sessions : after.endpointSessions = before.endpointSessions.filter fun row =>
    !EndpointSessionRow.ofAccount account.tenantId account.accountId row

theorem replacePassword_ok {completeSetup : Bool} {now : Timestamp}
    {result : Unit}
    (ran : replacePassword account encoded completeSetup now records =
      .ok (result, after)) :
    Replaced account encoded completeSetup now records after := by
  obtain ⟨_, _, updated, afterUpdated⟩ := Transaction.run_bind_ok.mp ran
  obtain ⟨accounts, rfl, isUpdated⟩ := updateAccounts_ok updated
  obtain ⟨_, _, deleted, afterDeleted⟩ :=
    Transaction.run_bind_ok.mp afterUpdated
  cases deleted
  obtain ⟨_, _, revoked, returned⟩ := Transaction.run_bind_ok.mp afterDeleted
  cases returned
  obtain ⟨grants, rfl, -⟩ := revokeTokens_ok revoked
  exact ⟨isUpdated, rfl⟩

theorem storedAccount_ok {stored : AccountRow}
    (ran : storedAccount account records = .ok (stored, after)) :
    after = records ∧
      stored.hasKey account.tenantId account.accountId = true := by
  obtain ⟨_, _, read, afterRead⟩ := Transaction.run_bind_ok.mp ran
  cases read
  cases isFound : records.accounts.rows.find?
      (·.hasKey account.tenantId account.accountId) with
  | none =>
      rw [isFound] at afterRead
      cases afterRead
  | some row =>
      rw [isFound] at afterRead
      cases afterRead
      have isKey := List.find?_some isFound
      exact ⟨rfl, isKey⟩

/-- What a change of a password has found, and has written. -/
theorem changePassword_ok {token : String} {stored : AccountRow}
    (ran : changePassword services token encoded draw records =
      .ok (stored, after)) :
    ∃ account, readSession services records token draw.now false =
        .ok account ∧
      stored.hasKey account.tenantId account.accountId = true ∧
      after.accounts.rows = records.accounts.rows.map (Table.applyWhere
        (·.hasKey account.tenantId account.accountId)
        (replacedPassword account encoded true draw.now)) ∧
      Reissued services draw stored records.endpointSessions
        after.endpointSessions := by
  obtain ⟨_, _, isRead, afterRead⟩ := Transaction.run_bind_ok.mp ran
  cases isRead
  obtain ⟨account, _, checked, afterChecked⟩ :=
    Transaction.run_bind_ok.mp afterRead
  obtain ⟨_, checking, rfl⟩ := inAppliance_ok checked
  obtain ⟨read, rfl⟩ := Transaction.run_ofExcept_eq_ok.mp checking
  obtain ⟨_, replaced, replacing, afterReplaced⟩ :=
    Transaction.run_bind_ok.mp afterChecked
  obtain ⟨_, logged, recorded, afterLogged⟩ :=
    Transaction.run_bind_ok.mp afterReplaced
  obtain ⟨_, fetched, storing, afterStored⟩ :=
    Transaction.run_bind_ok.mp afterLogged
  obtain ⟨_, _, issuing, returned⟩ := Transaction.run_bind_ok.mp afterStored
  cases returned
  have logging : Touches [.audit] replaced logged :=
    touches_audit (by simp) _ _ _ _ _ recorded
  obtain ⟨rfl, isKey⟩ := storedAccount_ok storing
  have isReplaced := replacePassword_ok replacing
  obtain ⟨endpointSessions, rfl, kept, isKept, others⟩ :=
    issueEndpointSession_ok issuing
  have sessions : fetched.endpointSessions = replaced.endpointSessions :=
    logging .endpointSessions (by simp)
  have accounts : fetched.accounts = replaced.accounts :=
    logging .accounts (by simp)
  refine ⟨account, read, isKey, ?_, ?_⟩
  · change fetched.accounts.rows = _
    rw [accounts, isReplaced.accounts]
  · refine ⟨fun row => kept row &&
      !EndpointSessionRow.ofAccount account.tenantId account.accountId row,
      ?_, ?_⟩
    · change endpointSessions = _
      rw [isKept, sessions, isReplaced.sessions, List.filter_filter]
    · intro row stays
      exact others row (Bool.and_eq_true_iff.mp stays).1

/-- What a reset of a password has written for the account it returns. -/
theorem resetPassword_ok {principal : SessionPrincipal} {requestId : String}
    (ran : resetPassword services principal requestId encoded draw records =
      .ok (account, after)) :
    Replaced account encoded false draw.now records after := by
  obtain ⟨_, _, admin, afterAdmin⟩ := Transaction.run_bind_ok.mp ran
  obtain ⟨_, holds, rfl⟩ := inAppliance_ok admin
  obtain ⟨-, rfl⟩ := holds_of_requireCurrentCapability holds
  obtain ⟨start, _, read, afterRead⟩ := Transaction.run_bind_ok.mp afterAdmin
  cases read
  cases isFound : resetTarget records principal.tenantId requestId with
  | none =>
      rw [isFound] at afterRead
      cases afterRead
  | some target =>
      rw [isFound] at afterRead
      obtain ⟨_, replaced, replacing, afterReplaced⟩ :=
        Transaction.run_bind_ok.mp afterRead
      obtain ⟨_, resolved, resolving, afterResolved⟩ :=
        Transaction.run_bind_ok.mp afterReplaced
      obtain ⟨_, _, recorded, returned⟩ :=
        Transaction.run_bind_ok.mp afterResolved
      cases returned
      have isReplaced := replacePassword_ok replacing
      have resolves : Touches [.resetRequests, .audit] replaced resolved :=
        touches_updateResetRequests (by simp) _ _ _ _ _ resolving
      have logging : Touches [.resetRequests, .audit] resolved after :=
        touches_audit (by simp) _ _ _ _ _ recorded
      have finishing : Touches [.resetRequests, .audit] replaced after :=
        IsTrans.trans _ _ _ resolves logging
      have accounts : after.accounts = replaced.accounts :=
        finishing .accounts (by simp)
      have sessions : after.endpointSessions = replaced.endpointSessions :=
        finishing .endpointSessions (by simp)
      constructor
      · rw [accounts, isReplaced.accounts]
      · rw [sessions, isReplaced.sessions]

/-- What an enrollment grant has found, and the rows it adds. -/
theorem enrollmentGrant_ok {token deviceId : String}
    (ran : enrollmentGrant services token deviceId draw records =
      .ok (account, after)) :
    readSession services records token draw.now true = .ok account ∧
      (∃ grant ∈ after.grants.rows, grant.tokenId = draw.id ∧
        grant.tenantId = account.tenantId) ∧
      after.accountGrants.rows = records.accountGrants.rows ++
        [⟨draw.id, account.tenantId, account.accountId,
          account.passwordVersion⟩] := by
  obtain ⟨_, _, valid, afterValid⟩ := Transaction.run_bind_ok.mp ran
  obtain ⟨-, rfl⟩ := require_ok valid
  obtain ⟨_, start, isRead, afterRead⟩ := Transaction.run_bind_ok.mp afterValid
  cases isRead
  obtain ⟨found, _, checked, afterChecked⟩ :=
    Transaction.run_bind_ok.mp afterRead
  obtain ⟨_, checking, rfl⟩ := inAppliance_ok checked
  obtain ⟨read, rfl⟩ := Transaction.run_ofExcept_eq_ok.mp checking
  obtain ⟨_, _, revoked, afterRevoked⟩ :=
    Transaction.run_bind_ok.mp afterChecked
  obtain ⟨grants, rfl, -⟩ := revokeTokens_ok revoked
  obtain ⟨_, _, granting, afterGranted⟩ :=
    Transaction.run_bind_ok.mp afterRevoked
  obtain ⟨granted, inserting, rfl⟩ := inAppliance_ok granting
  obtain ⟨_, _, adding, afterAdded⟩ := Transaction.run_bind_ok.mp afterGranted
  obtain ⟨_, _, recorded, returned⟩ := Transaction.run_bind_ok.mp afterAdded
  cases returned
  unfold insertAccountGrant at adding
  obtain ⟨rows, rfl, -, added⟩ := insertInto_ok adding
  have logging : Touches [.audit] _ after :=
    touches_audit (by simp) _ _ _ _ _ recorded
  have accountGrants : after.accountGrants = rows :=
    logging .accountGrants (by simp)
  have sameGrants : after.grants = granted.grants := logging .grants (by simp)
  refine ⟨read, ?_, ?_⟩
  · rw [sameGrants]
    unfold insertGrant at inserting
    split at inserting
    · next inserted =>
        cases inserting
        refine ⟨accountToken services account deviceId draw, ?_, rfl, rfl⟩
        rw [(Table.insert_eq_some.mp inserted).2]
        exact List.mem_append_right _ (List.mem_singleton_self _)
    · cases inserting
  · rw [accountGrants, added]

end Passwords

end Directory

end ControlForge
