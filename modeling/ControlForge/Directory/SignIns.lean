import ControlForge.Directory.Claiming
import ControlForge.Directory.Origins
import ControlForge.Foundation.History

/-!
# The authority of an endpoint account ends with its password

An account has a session and may have enrollment grants.  `AuthorityStep` says
what a step does to the accounts, to their sessions and to their grants, by the
events it reports; over a run every session that is stored, and every grant that
is not dead, was issued after all that revokes it.
-/

namespace ControlForge

namespace Directory

namespace SignIns

open Access

variable {Log : Type} {services : Services Log}

/-! ## What revokes -/

/-- The password of the account is replaced, or its sign-in state changes. -/
def renews (tenantId accountId : String) : Event → Bool
  | .passwordReplaced tenant account | .signInChanged tenant account =>
      tenant = tenantId ∧ account = accountId
  | _ => false

/-- The same, or the network of the account is suspended. -/
def revokes (tenantId accountId : String) : Event → Bool
  | .suspended tenant => tenant = tenantId
  | event => renews tenantId accountId event

/-- A session or a grant of an account was issued after all that revokes it. -/
def Valid (tenantId accountId : String) (issue : Event)
    (events : List Event) : Prop :=
  Outstanding issue (fun event => revokes tenantId accountId event = true)
    events

/-- The events leave the authority of every account alone. -/
def Calm (events : List Event) : Prop :=
  ∀ event ∈ events, ∀ tenantId accountId,
    revokes tenantId accountId event = false

theorem calm_nil : Calm [] := by
  intro event member
  cases member

theorem revokes_of_renews {tenantId accountId : String} {event : Event}
    (isRenewal : renews tenantId accountId event = true) :
    revokes tenantId accountId event = true := by
  cases event <;> first | exact isRenewal | cases isRenewal

theorem Calm.countP {events : List Event} (calm : Calm events)
    (tenantId accountId : String) :
    events.countP (renews tenantId accountId) = 0 := by
  rw [List.countP_eq_zero]
  intro event member isRenewal
  have isRevoked := revokes_of_renews isRenewal
  rw [calm event member] at isRevoked
  cases isRevoked

theorem Calm.not_suspended {events : List Event} (calm : Calm events)
    (tenantId : String) : .suspended tenantId ∉ events := by
  intro member
  have isRevoked := calm _ member tenantId ""
  simp [revokes] at isRevoked

/-! ## What a step does -/

/-- An account after some events. -/
structure Renewed (events : List Event) (old new : AccountRow) : Prop where
  tenantId : new.tenantId = old.tenantId
  accountId : new.accountId = old.accountId
  version : new.passwordVersion =
    old.passwordVersion + events.countP (renews old.tenantId old.accountId)
  same : events.countP (renews old.tenantId old.accountId) = 0 →
    new.passwordHash = old.passwordHash ∧ new.status = old.status

theorem Renewed.refl {events : List Event} (account : AccountRow)
    (unchanged : events.countP (renews account.tenantId account.accountId) =
      0) : Renewed events account account :=
  ⟨rfl, rfl, by rw [unchanged, Nat.add_zero], fun _ => ⟨rfl, rfl⟩⟩

theorem Renewed.trans {earlier later : List Event}
    {first second third : AccountRow} (left : Renewed earlier first second)
    (right : Renewed later second third) :
    Renewed (earlier ++ later) first third := by
  have version := right.version
  have same := right.same
  rw [left.tenantId, left.accountId] at version same
  refine ⟨right.tenantId.trans left.tenantId,
    right.accountId.trans left.accountId, ?_, fun none_ => ?_⟩
  · rw [version, left.version, List.countP_append, Nat.add_assoc]
  · rw [List.countP_append] at none_
    obtain ⟨noEarlier, noLater⟩ := Nat.add_eq_zero_iff.mp none_
    obtain ⟨sameHash, sameStatus⟩ := left.same noEarlier
    obtain ⟨hash, status⟩ := same noLater
    exact ⟨hash.trans sameHash, status.trans sameStatus⟩

/-- Some sessions end, among them those the events revoke, and one may be
issued, as the last event, to an account that has no other. -/
def SessionStep (events : List Event)
    (before after : List EndpointSessionRow) : Prop :=
  ∃ (kept : EndpointSessionRow → Bool) (issued : Option EndpointSessionRow),
    after = before.filter kept ++ issued.toList ∧
    (∀ row, kept row = true → ∀ event ∈ events,
      revokes row.tenantId row.accountId event = false) ∧
    ∀ row ∈ issued,
      (∃ earlier, events = earlier ++
        [.sessionIssued row.tenantId row.accountId row.tokenHash]) ∧
      ∀ other, kept other = true →
        EndpointSessionRow.ofAccount row.tenantId row.accountId other = false

/-- The stored grant and the account behind a grant of an account. -/
structure Backed (records : Records Log) (row : AccountGrantRow) : Prop where
  grant : ∃ grant ∈ records.grants.rows,
    grant.tokenId = row.tokenId ∧ grant.tenantId = row.tenantId
  account : ∃ account ∈ records.accounts.rows,
    account.hasKey row.tenantId row.accountId = true ∧
      row.passwordVersion ≤ account.passwordVersion

def issueOf (row : AccountGrantRow) : Event :=
  .grantIssued row.tenantId row.accountId row.tokenId

/-- What a step does to the accounts, their sessions and their grants. -/
structure AuthorityStep (events : List Event) (before after : Records Log) :
    Prop where
  accounts : ∀ account ∈ before.accounts.rows,
    ∃ renewed ∈ after.accounts.rows, Renewed events account renewed
  sessions : SessionStep events before.endpointSessions after.endpointSessions
  history : Developed GrantRow.Develops before.grants.rows after.grants.rows
  issued : ∃ added, after.accountGrants.rows =
      before.accountGrants.rows ++ added ∧
    ∀ row ∈ added, Backed after row ∧
      ∃ earlier, events = earlier ++ [issueOf row]
  listed : ∀ tenantId accountId tokenId,
    .grantIssued tenantId accountId tokenId ∈ events →
      ∃ row ∈ after.accountGrants.rows,
        issueOf row = .grantIssued tenantId accountId tokenId
  suspended : ∀ tenantId, .suspended tenantId ∈ events →
    ∀ grant ∈ after.grants.rows, grant.tenantId = tenantId →
      grant.revokedAt ≠ none

/-! ## What holds over a run -/

/-- No account has two sessions, and the grants of accounts are backed. -/
structure Settled (records : Records Log) : Prop where
  single : records.endpointSessions.Pairwise fun left right =>
    EndpointSessionRow.ofAccount right.tenantId right.accountId left = false
  backed : ∀ row ∈ records.accountGrants.rows, Backed records row

/-- A grant of an account that is never accepted again. -/
def Dead (records : Records Log) (row : AccountGrantRow) : Prop :=
  (∃ grant ∈ records.grants.rows,
    grant.tokenId = row.tokenId ∧ grant.revokedAt.isSome = true) ∨
  ∃ account ∈ records.accounts.rows,
    account.hasKey row.tenantId row.accountId = true ∧
      row.passwordVersion < account.passwordVersion

structure Standing (events : List Event) (records : Records Log) : Prop
    extends Settled records where
  sessions : ∀ row ∈ records.endpointSessions,
    Valid row.tenantId row.accountId
      (.sessionIssued row.tenantId row.accountId row.tokenHash) events
  grants : ∀ row ∈ records.accountGrants.rows,
    Dead records row ∨ Valid row.tenantId row.accountId (issueOf row) events
  listed : ∀ tenantId accountId tokenId,
    .grantIssued tenantId accountId tokenId ∈ events →
      ∃ row ∈ records.accountGrants.rows,
        issueOf row = .grantIssued tenantId accountId tokenId

theorem Settled.standing {records : Records Log} (settled : Settled records) :
    Standing [] records where
  toSettled := settled
  sessions _ _ := .nil
  grants _ _ := .inr .nil
  listed _ _ _ := nofun

section Step

variable {events added : List Event} {before after : Records Log}

/-- The sessions of an account are one at most, before a step and after it. -/
theorem SessionStep.single {before after : List EndpointSessionRow}
    (step : SessionStep added before after)
    (single : before.Pairwise fun left right =>
      EndpointSessionRow.ofAccount right.tenantId right.accountId left =
        false) :
    after.Pairwise fun left right =>
      EndpointSessionRow.ofAccount right.tenantId right.accountId left =
        false := by
  obtain ⟨kept, issued, rfl, -, isIssued⟩ := step
  refine List.pairwise_append.mpr ⟨single.filter _, ?_, ?_⟩
  · cases issued with
    | none => exact .nil
    | some row => exact List.pairwise_singleton _ _
  · intro left stays right isRight
    rw [Option.mem_toList] at isRight
    exact (isIssued right isRight).2 left (List.mem_filter.mp stays).2

theorem SessionStep.valid {before after : List EndpointSessionRow}
    (step : SessionStep added before after)
    (valid : ∀ row ∈ before, Valid row.tenantId row.accountId
      (.sessionIssued row.tenantId row.accountId row.tokenHash) events) :
    ∀ row ∈ after, Valid row.tenantId row.accountId
      (.sessionIssued row.tenantId row.accountId row.tokenHash)
      (events ++ added) := by
  obtain ⟨kept, issued, rfl, calm, isIssued⟩ := step
  intro row member
  rcases List.mem_append.mp member with stays | isNew
  · obtain ⟨stored, isKept⟩ := List.mem_filter.mp stays
    refine (valid row stored).append fun event isEvent isRevoked => ?_
    rw [calm row isKept event isEvent] at isRevoked
    cases isRevoked
  · rw [Option.mem_toList] at isNew
    obtain ⟨⟨earlier, isLast⟩, -⟩ := isIssued row isNew
    rw [isLast, ← List.append_assoc]
    exact Outstanding.issued (by simp [revokes, renews])

theorem AuthorityStep.backed (step : AuthorityStep added before after)
    {row : AccountGrantRow} (backed : Backed before row) :
    Backed after row := by
  obtain ⟨⟨grant, stored, isToken, isTenant⟩, account, known, isKey, version⟩ :=
    backed
  obtain ⟨later, isLater, develops⟩ := step.history.row stored
  obtain ⟨renewed, isRenewed, renews⟩ := step.accounts account known
  refine ⟨⟨later, isLater, develops.tokenId.trans isToken,
    develops.tenantId.trans isTenant⟩, renewed, isRenewed, ?_, ?_⟩
  · simp only [AccountRow.hasKey, renews.tenantId, renews.accountId]
    exact isKey
  · rw [renews.version]
    exact Nat.le_trans version (Nat.le_add_right _ _)

theorem AuthorityStep.dead (step : AuthorityStep added before after)
    {row : AccountGrantRow} (dead : Dead before row) : Dead after row := by
  rcases dead with ⟨grant, stored, isToken, isRevoked⟩ |
    ⟨account, known, isKey, version⟩
  · obtain ⟨later, isLater, develops⟩ := step.history.row stored
    exact .inl ⟨later, isLater, develops.tokenId.trans isToken,
      develops.revoked isRevoked⟩
  · obtain ⟨renewed, isRenewed, renews⟩ := step.accounts account known
    refine .inr ⟨renewed, isRenewed, ?_, ?_⟩
    · simp only [AccountRow.hasKey, renews.tenantId, renews.accountId]
      exact isKey
    · rw [renews.version]
      exact Nat.lt_of_lt_of_le version (Nat.le_add_right _ _)

/-- A grant dies with the authority of its account. -/
theorem AuthorityStep.dies (step : AuthorityStep added before after)
    {row : AccountGrantRow} (backed : Backed before row) {event : Event}
    (member : event ∈ added)
    (isRevoked : revokes row.tenantId row.accountId event = true) :
    Dead after row := by
  obtain ⟨⟨grant, stored, isToken, isTenant⟩, account, known, isKey, version⟩ :=
    backed
  by_cases isRenewal : renews row.tenantId row.accountId event = true
  · obtain ⟨renewed, isRenewed, renews⟩ := step.accounts account known
    obtain ⟨sameTenant, sameAccount⟩ := of_decide_eq_true isKey
    refine .inr ⟨renewed, isRenewed, ?_, ?_⟩
    · simp only [AccountRow.hasKey, renews.tenantId, renews.accountId]
      exact isKey
    · rw [renews.version, sameTenant, sameAccount]
      have counted := List.countP_pos_iff.mpr ⟨event, member, isRenewal⟩
      omega
  · cases event with
    | suspended tenantId =>
        obtain ⟨later, isLater, develops⟩ := step.history.row stored
        have sameTenant : tenantId = row.tenantId := of_decide_eq_true isRevoked
        have ofTenant : later.tenantId = tenantId := by
          rw [develops.tenantId, isTenant, sameTenant]
        refine .inl ⟨later, isLater, develops.tokenId.trans isToken, ?_⟩
        exact Option.isSome_iff_ne_none.mpr
          (step.suspended tenantId member later isLater ofTenant)
    | _ => exact absurd isRevoked isRenewal

theorem Standing.snoc (standing : Standing events before)
    (step : AuthorityStep added before after) :
    Standing (events ++ added) after := by
  obtain ⟨issued, rows, isIssued⟩ := step.issued
  constructor
  · constructor
    · exact step.sessions.single standing.single
    · intro row member
      rw [rows] at member
      rcases List.mem_append.mp member with stored | isNew
      · exact step.backed (standing.backed row stored)
      · exact (isIssued row isNew).1
  · exact step.sessions.valid standing.sessions
  · intro row member
    rw [rows] at member
    rcases List.mem_append.mp member with stored | isNew
    · rcases standing.grants row stored with dead | valid
      · exact .inl (step.dead dead)
      · by_cases isRevoked : ∃ event ∈ added,
            revokes row.tenantId row.accountId event = true
        · obtain ⟨event, isEvent, revoked⟩ := isRevoked
          exact .inl (step.dies (standing.backed row stored) isEvent revoked)
        · refine .inr (valid.append fun event isEvent revoked => ?_)
          exact isRevoked ⟨event, isEvent, revoked⟩
    · obtain ⟨-, earlier, isLast⟩ := isIssued row isNew
      right
      rw [isLast, ← List.append_assoc]
      exact Outstanding.issued (by simp [issueOf, revokes, renews])
  · intro tenantId accountId tokenId member
    rcases List.mem_append.mp member with earlier | now
    · obtain ⟨row, stored, isIssue⟩ :=
        standing.listed tenantId accountId tokenId earlier
      refine ⟨row, ?_, isIssue⟩
      rw [rows]
      exact List.mem_append_left _ stored
    · exact step.listed tenantId accountId tokenId now

end Step

/-! ## Every step -/

section Points

variable {records after : Records Log} {draw : Draw} {point next : Point}
  {effect : Effect}

/-- The points whose events may revoke. -/
def mayRevoke : Point → Bool
  | .called (.updateNetwork _ _) | .called (.updateAccount _ _)
  | .changeChecked _ _ | .resetChecked _ _ _ => true
  | _ => false

theorem calm_step
    (moved : resume services draw point records = (next, after, effect))
    (revokesNothing : mayRevoke point = false) : Calm effect.events := by
  intro event member tenantId accountId
  have origin := resume_origin moved member
  cases event with
  | passwordReplaced tenant account =>
      cases point with
      | changeChecked | resetChecked => cases revokesNothing
      | _ => cases origin
  | signInChanged tenant account =>
      obtain ⟨principal, input, rfl, -⟩ := origin
      cases revokesNothing
  | suspended tenant =>
      obtain ⟨principal, input, changed, change, rfl, -⟩ := origin
      cases revokesNothing
  | _ => rfl

/-! ### Accounts -/

theorem accounts_same {events : List Event}
    (same : after.accounts = records.accounts)
    (unrenewed : ∀ tenantId accountId,
      events.countP (renews tenantId accountId) = 0) :
    ∀ account ∈ records.accounts.rows,
      ∃ renewed ∈ after.accounts.rows, Renewed events account renewed := by
  intro account known
  refine ⟨account, ?_, .refl account (unrenewed _ _)⟩
  rw [same]
  exact known

/-- One account changes, and the events are about it. -/
theorem accounts_changed {events : List Event} {tenantId accountId : String}
    {change : AccountRow → AccountRow}
    (written : after.accounts.rows = records.accounts.rows.map
      (Table.applyWhere (·.hasKey tenantId accountId) change))
    (others : ∀ tenant account, ¬ (tenant = tenantId ∧ account = accountId) →
      events.countP (renews tenant account) = 0)
    (renewed : ∀ account ∈ records.accounts.rows,
      account.hasKey tenantId accountId = true →
        Renewed events account (change account)) :
    ∀ account ∈ records.accounts.rows,
      ∃ renewed ∈ after.accounts.rows, Renewed events account renewed := by
  intro account known
  rw [written]
  refine ⟨_, List.mem_map_of_mem known, ?_⟩
  cases isKey : account.hasKey tenantId accountId with
  | true =>
      rw [Table.applyWhere_selected isKey]
      exact renewed account known isKey
  | false =>
      rw [Table.applyWhere_unselected isKey]
      exact .refl account (others _ _ (of_decide_eq_false isKey))

theorem account_unique {left right : AccountRow} {tenantId accountId : String}
    (leftKnown : left ∈ records.accounts.rows)
    (rightKnown : right ∈ records.accounts.rows)
    (leftKey : left.hasKey tenantId accountId = true)
    (rightKey : right.hasKey tenantId accountId = true) : left = right := by
  simp only [AccountRow.hasKey, decide_eq_true_eq] at leftKey rightKey
  obtain ⟨rfl, rfl⟩ := leftKey
  obtain ⟨sameTenant, sameAccount⟩ := rightKey
  refine Table.eq_of_clash leftKnown rightKnown ?_ ?_
  · simp [AccountRow.clash, AccountRow.hasKey, sameTenant, sameAccount]
  · simp [AccountRow.clash, AccountRow.hasKey, sameTenant, sameAccount]

/-- The events of a new password are about one account. -/
theorem countP_replaced {tenantId accountId : String} {before later : List Event}
    (noEarlier : ∀ tenant account,
      before.countP (renews tenant account) = 0)
    (noLater : ∀ tenant account, later.countP (renews tenant account) = 0)
    (tenant account : String) :
    (before ++ .passwordReplaced tenantId accountId :: later).countP
        (renews tenant account) =
      if tenantId = tenant ∧ accountId = account then 1 else 0 := by
  rw [List.countP_append, List.countP_cons, noEarlier, noLater]
  simp [renews]

theorem accounts_replaced {account : AccountRow} {encoded : String}
    {completeSetup : Bool} {now : Timestamp} {events : List Event}
    (counted : ∀ tenant id, events.countP (renews tenant id) =
      if account.tenantId = tenant ∧ account.accountId = id then 1 else 0)
    (written : after.accounts.rows = records.accounts.rows.map (Table.applyWhere
      (·.hasKey account.tenantId account.accountId)
      (replacedPassword account encoded completeSetup now))) :
    ∀ account ∈ records.accounts.rows,
      ∃ renewed ∈ after.accounts.rows, Renewed events account renewed := by
  refine accounts_changed written (fun tenant id isOther => ?_) ?_
  · rw [counted, if_neg fun same => isOther ⟨same.1.symm, same.2.symm⟩]
  · intro row _ isKey
    obtain ⟨isTenant, isAccount⟩ := of_decide_eq_true isKey
    have one : events.countP (renews row.tenantId row.accountId) = 1 := by
      rw [counted, if_pos ⟨isTenant.symm, isAccount.symm⟩]
    refine ⟨rfl, rfl, ?_, fun none_ => ?_⟩
    · rw [one]
      rfl
    · rw [one] at none_
      cases none_

theorem accounts_updated {principal : SessionPrincipal} {input : AccountUpdate}
    {change : AccountChange} {now : Timestamp}
    (ran : updateAccount services principal input now records =
      .ok (change, after)) :
    ∀ account ∈ records.accounts.rows, ∃ renewed ∈ after.accounts.rows,
      Renewed (accountEvents principal input change) account renewed := by
  have counted : ∀ tenant id,
      (accountEvents principal input change).countP (renews tenant id) =
        if change = .signIn ∧ principal.tenantId = tenant ∧
          input.accountId = id then 1 else 0 := by
    intro tenant id
    cases change <;> simp [accountEvents, renews, List.countP_cons]
  obtain ⟨previous, found, outcome⟩ := updateAccount_ok ran
  rcases outcome with ⟨rfl, rfl⟩ | ⟨isChange, written⟩
  · exact accounts_same rfl fun tenant id => by simp [counted]
  · refine accounts_changed written.accounts (fun tenant id isOther => ?_) ?_
    · rw [counted, if_neg]
      rintro ⟨-, rfl, rfl⟩
      exact isOther ⟨rfl, rfl⟩
    · intro row known isKey
      have isPrevious : row = previous := account_unique known found.stored
        isKey found.key
      obtain ⟨isTenant, isAccount⟩ := of_decide_eq_true isKey
      have counts := counted row.tenantId row.accountId
      rw [isTenant, isAccount] at counts
      simp only [and_self, and_true] at counts
      refine ⟨rfl, rfl, ?_, fun none_ => ⟨rfl, ?_⟩⟩
      · rw [isTenant, isAccount, counts]
        rfl
      · rw [isTenant, isAccount, counts] at none_
        have notSignIn : change ≠ .signIn := fun isSignIn => by
          rw [if_pos isSignIn] at none_
          cases none_
        by_cases same : previous.status = input.status
        · rw [isPrevious]
          exact same.symm
        · rw [if_neg same] at isChange
          exact absurd isChange notSignIn

/-- A step renews the accounts its events are about. -/
theorem accounts_step
    (moved : resume services draw point records = (next, after, effect)) :
    ∀ account ∈ records.accounts.rows, ∃ renewed ∈ after.accounts.rows,
      Renewed effect.events account renewed := by
  have silent : .accounts ∉ point.footprint → mayRevoke point = false →
      ∀ account ∈ records.accounts.rows, ∃ renewed ∈ after.accounts.rows,
        Renewed effect.events account renewed := fun apart calm =>
    accounts_same ((resume_moved moved).touches .accounts apart)
      (calm_step moved calm).countP
  cases point with
  | called call =>
      cases call with
      | updateNetwork principal input =>
          refine accounts_same
            ((resume_moved moved).touches .accounts (by simp)) ?_
          rcases (finish_eq moved).2 with ⟨⟨changed, change⟩, -, rfl⟩ | ⟨-, rfl⟩
          · intro tenant id
            cases change <;> rfl
          · exact fun _ _ => rfl
      | updateAccount principal input =>
          rcases (finish_eq moved).2 with ⟨change, ran, rfl⟩ | ⟨rfl, rfl⟩
          · exact accounts_updated ran
          · exact accounts_same rfl fun _ _ => rfl
      | _ => exact silent (by simp) rfl
  | accountChecked principal input encoded =>
      have calm := calm_step moved rfl
      rcases (finish_eq moved).2 with ⟨_, ran, rfl⟩ | ⟨rfl, rfl⟩
      · intro account known
        obtain ⟨added, written⟩ := createAccount_ok ran
        refine ⟨account, ?_, .refl account (calm.countP _ _)⟩
        rw [written]
        exact List.mem_append_left _ known
      · exact accounts_same rfl fun _ _ => rfl
  | changeChecked token encoded =>
      rcases (finish_eq moved).2 with ⟨stored, ran, rfl⟩ | ⟨rfl, rfl⟩
      · obtain ⟨account, -, isKey, written, -⟩ := changePassword_ok ran
        obtain ⟨isTenant, isAccount⟩ := of_decide_eq_true isKey
        refine accounts_replaced (fun tenant id => ?_) written
        rw [← isTenant, ← isAccount]
        exact countP_replaced (fun _ _ => rfl) (fun _ _ => rfl) tenant id
      · exact accounts_same rfl fun _ _ => rfl
  | resetChecked principal requestId encoded =>
      rcases (finish_eq moved).2 with ⟨account, ran, rfl⟩ | ⟨rfl, rfl⟩
      · refine accounts_replaced (fun tenant id => ?_)
          (resetPassword_ok ran).accounts
        exact @countP_replaced _ _ [] _ (fun _ _ => rfl) (fun _ _ => rfl)
          tenant id
      · exact accounts_same rfl fun _ _ => rfl
  | _ => exact silent (by simp) rfl

/-! ### Sessions -/

theorem sessions_kept {events : List Event}
    {before rest : List EndpointSessionRow} {kept : EndpointSessionRow → Bool}
    (written : rest = before.filter kept)
    (calm : ∀ row, kept row = true → ∀ event ∈ events,
      revokes row.tenantId row.accountId event = false) :
    SessionStep events before rest :=
  ⟨kept, none, by simp [written], calm, nofun⟩

theorem sessions_same {events : List Event}
    {before rest : List EndpointSessionRow} (same : rest = before)
    (calm : Calm events) : SessionStep events before rest :=
  @sessions_kept events before rest (fun _ => true) (by simp [same])
    fun _ _ event member => calm event member _ _

/-- A session of an account replaces those it had. -/
theorem sessions_issued {events : List Event} {account : AccountRow}
    {before rest : List EndpointSessionRow}
    (reissued : Reissued services draw account before rest)
    (isLast : ∃ earlier, events = earlier ++ signInEvents services draw account)
    (others : ∀ tenant id,
      ¬ (tenant = account.tenantId ∧ id = account.accountId) →
        ∀ event ∈ events, revokes tenant id event = false) :
    SessionStep events before rest := by
  obtain ⟨kept, rfl, excludes⟩ := reissued
  refine ⟨kept, some (endpointSession services account draw), rfl, ?_, ?_⟩
  · intro row isKept
    exact others _ _ (of_decide_eq_false (excludes row isKept))
  · intro row isIssued
    cases isIssued
    exact ⟨isLast, excludes⟩

theorem sessions_suspended {principal : SessionPrincipal} {input : NetworkUpdate}
    {changed : Bool} {change : Option AuthorityChange} {now : Timestamp}
    (ran : updateNetwork services principal input now records =
      .ok ((changed, change), after)) :
    SessionStep (networkEvents input (changed, change))
      records.endpointSessions after.endpointSessions := by
  obtain ⟨_, _, read, rest⟩ := Transaction.run_bind_ok.mp ran
  cases read
  obtain ⟨_, _, updated, returned⟩ := Transaction.run_bind_ok.mp rest
  cases returned
  obtain ⟨_, updating, rfl⟩ := inAppliance_ok updated
  obtain ⟨previous, -, outcome⟩ := updateNetwork_ok updating
  rcases outcome with ⟨-, -, rfl, rfl⟩ | written
  · refine sessions_same rfl fun event member tenant id => ?_
    rw [List.mem_singleton.mp member]
    rfl
  · refine sessions_kept written.endpointSessions fun row isKept => ?_
    intro event member
    rcases List.mem_cons.mp member with rfl | isSuspension
    · rfl
    · cases change with
      | none => cases isSuspension
      | some _ =>
          rw [List.mem_singleton.mp isSuspension]
          have isOther : ¬ row.tenantId = input.tenantId := by simpa using isKept
          exact decide_eq_false (Ne.symm isOther)

theorem sessions_updated {principal : SessionPrincipal} {input : AccountUpdate}
    {change : AccountChange} {now : Timestamp}
    (ran : updateAccount services principal input now records =
      .ok (change, after)) :
    SessionStep (accountEvents principal input change) records.endpointSessions
      after.endpointSessions := by
  obtain ⟨previous, found, outcome⟩ := updateAccount_ok ran
  rcases outcome with ⟨rfl, rfl⟩ | ⟨-, written⟩
  · refine sessions_same rfl fun event member tenant id => ?_
    rw [List.mem_singleton.mp member]
    rfl
  · refine sessions_kept written.sessions fun row isKept => ?_
    intro event member
    rcases List.mem_cons.mp member with rfl | isChange
    · rfl
    · by_cases isSignIn : change = .signIn
      · rw [if_pos isSignIn] at isChange
        rw [List.mem_singleton.mp isChange]
        simp only [isSignIn, decide_true, Bool.true_and, Bool.not_eq_true',
          EndpointSessionRow.ofAccount, decide_eq_false_iff_not] at isKept
        exact decide_eq_false fun same => isKept ⟨same.1.symm, same.2.symm⟩
      · rw [if_neg isSignIn] at isChange
        cases isChange

/-- A step ends the sessions its events revoke. -/
theorem sessions_step
    (moved : resume services draw point records = (next, after, effect)) :
    SessionStep effect.events records.endpointSessions
      after.endpointSessions := by
  have silent : .endpointSessions ∉ point.footprint → mayRevoke point = false →
      SessionStep effect.events records.endpointSessions
        after.endpointSessions := fun apart calm =>
    sessions_same ((resume_moved moved).touches .endpointSessions apart)
      (calm_step moved calm)
  cases point with
  | called call =>
      cases call with
      | updateNetwork principal input =>
          rcases (finish_eq moved).2 with ⟨⟨changed, change⟩, ran, rfl⟩ |
            ⟨rfl, rfl⟩
          · exact sessions_suspended ran
          · exact sessions_same rfl calm_nil
      | updateAccount principal input =>
          rcases (finish_eq moved).2 with ⟨change, ran, rfl⟩ | ⟨rfl, rfl⟩
          · exact sessions_updated ran
          · exact sessions_same rfl calm_nil
      | logout token =>
          have calm := calm_step moved rfl
          rw [resume, begin] at moved
          rcases (finish_eq moved).2 with ⟨_, ran, rfl⟩ | ⟨rfl, rfl⟩
          · cases ran
            exact sessions_kept rfl fun _ _ => List.forall_mem_nil _
          · exact sessions_same rfl calm_nil
      | _ => exact silent (by simp) rfl
  | loginRead read =>
      have calm := calm_step moved rfl
      rcases (finish_eq moved).2 with ⟨account, ran, rfl⟩ | ⟨rfl, rfl⟩
      · obtain ⟨endpointSessions, rfl, reissued⟩ := login_ok ran
        exact sessions_issued reissued ⟨[], rfl⟩ fun _ _ _ event member =>
          calm event member _ _
      · exact sessions_same rfl calm_nil
  | changeChecked token encoded =>
      rcases (finish_eq moved).2 with ⟨stored, ran, rfl⟩ | ⟨rfl, rfl⟩
      · obtain ⟨account, -, -, -, reissued⟩ := changePassword_ok ran
        refine sessions_issued reissued ⟨sessionEvents services token stored ++
          [.passwordReplaced stored.tenantId stored.accountId], rfl⟩ ?_
        intro tenant id isOther event member
        rcases List.mem_append.mp member with accepted | changed
        · rw [List.mem_singleton.mp accepted]
          rfl
        · rcases List.mem_cons.mp changed with rfl | issued
          · exact decide_eq_false fun same => isOther ⟨same.1.symm, same.2.symm⟩
          · rw [List.mem_singleton.mp issued]
            rfl
      · exact sessions_same rfl calm_nil
  | resetChecked principal requestId encoded =>
      rcases (finish_eq moved).2 with ⟨account, ran, rfl⟩ | ⟨rfl, rfl⟩
      · refine sessions_kept (resetPassword_ok ran).sessions fun row isKept => ?_
        intro event member
        rw [List.mem_singleton.mp member]
        simp only [Bool.not_eq_true', EndpointSessionRow.ofAccount,
          decide_eq_false_iff_not] at isKept
        exact decide_eq_false fun same => isKept ⟨same.1.symm, same.2.symm⟩
      · exact sessions_same rfl calm_nil
  | _ => exact silent (by simp) rfl

/-! ### Grants -/

theorem history_apart (point : Point) :
    .grantHistory ∉ point.footprint := by
  cases point with
  | called call => cases call <;> simp
  | _ => simp


theorem listed_step
    (moved : resume services draw point records = (next, after, effect))
    {tenantId accountId tokenId : String}
    (member : .grantIssued tenantId accountId tokenId ∈ effect.events) :
    ∃ row ∈ after.accountGrants.rows,
      issueOf row = .grantIssued tenantId accountId tokenId := by
  obtain ⟨rfl, token, deviceId, account, -, ran, rfl, rfl⟩ :=
    resume_origin moved member
  obtain ⟨-, -, rows⟩ := enrollmentGrant_ok ran
  rw [rows]
  exact ⟨_, List.mem_append_right _ (List.mem_singleton_self _), rfl⟩

theorem suspended_step
    (moved : resume services draw point records = (next, after, effect))
    {tenantId : String} (member : .suspended tenantId ∈ effect.events) :
    ∀ grant ∈ after.grants.rows, grant.tenantId = tenantId →
      grant.revokedAt ≠ none := by
  obtain ⟨principal, input, changed, change, -, rfl, ran⟩ :=
    resume_origin moved member
  obtain ⟨_, _, read, rest⟩ := Transaction.run_bind_ok.mp ran
  cases read
  obtain ⟨_, _, updated, returned⟩ := Transaction.run_bind_ok.mp rest
  cases returned
  obtain ⟨_, updating, rfl⟩ := inAppliance_ok updated
  obtain ⟨previous, -, outcome⟩ := updateNetwork_ok updating
  rcases outcome with ⟨-, -, isNone, -⟩ | written
  · cases isNone
  · exact written.grants rfl

theorem issued_step
    (moved : resume services draw point records = (next, after, effect)) :
    ∃ added, after.accountGrants.rows = records.accountGrants.rows ++ added ∧
      ∀ row ∈ added, Backed after row ∧
        ∃ earlier, effect.events = earlier ++ [issueOf row] := by
  have silent : .accountGrants ∉ point.footprint →
      ∃ added, after.accountGrants.rows = records.accountGrants.rows ++ added ∧
        ∀ row ∈ added, Backed after row ∧
          ∃ earlier, effect.events = earlier ++ [issueOf row] := by
    intro apart
    have same : after.accountGrants = records.accountGrants :=
      (resume_moved moved).touches .accountGrants apart
    exact ⟨[], by rw [same, List.append_nil], nofun⟩
  cases point with
  | called call =>
      cases call with
      | enrollmentGrant token deviceId =>
          have accounts : after.accounts = records.accounts :=
            (resume_moved moved).touches .accounts (by simp)
          rcases (finish_eq moved).2 with ⟨account, ran, rfl⟩ | ⟨rfl, rfl⟩
          · obtain ⟨read, ⟨grant, stored, isToken, isTenant⟩, rows⟩ :=
              enrollmentGrant_ok ran
            obtain ⟨session, found⟩ := readSession_ok read
            refine ⟨_, rows, fun row isNew => ?_⟩
            rw [List.mem_singleton.mp isNew]
            refine ⟨⟨⟨grant, stored, isToken, isTenant⟩, account, ?_, ?_,
              Nat.le_refl _⟩, _, rfl⟩
            · rw [accounts]
              exact found.known
            · exact decide_eq_true ⟨rfl, rfl⟩
          · exact ⟨[], by rw [List.append_nil], nofun⟩
      | _ => exact silent (by simp)
  | _ => exact silent (by simp)

theorem authority_step
    (moved : resume services draw point records = (next, after, effect)) :
    AuthorityStep effect.events records after where
  accounts := accounts_step moved
  sessions := sessions_step moved
  history := (resume_moved moved).touches .grantHistory (history_apart point)
  issued := issued_step moved
  listed _ _ _ := listed_step moved
  suspended _ := suspended_step moved

end Points

/-! ## What is accepted -/

section Accepted

variable {events : List Event} {records after : Records Log} {draw : Draw}
  {point next : Point} {effect : Effect}

theorem session_valid (standing : Standing events records) {token : String}
    {now : Timestamp} {ready : Bool} {account : AccountRow}
    (read : readSession services records token now ready = .ok account) :
    Valid account.tenantId account.accountId
      (.sessionIssued account.tenantId account.accountId
        (services.tokenHash token)) events := by
  obtain ⟨session, found⟩ := readSession_ok read
  have valid := standing.sessions session found.stored
  rw [found.tenant, found.holder, found.token] at valid
  exact valid

/-- A grant that is dead is revoked, or its account has a newer password. -/
theorem not_dead {grant : GrantRow}
    (stored : grant ∈ records.grants.rows) (unrevoked : grant.revokedAt = none)
    (mayEnroll : (grantAccount records grant.tokenId).all
      (fun found => found.2.mayEnroll found.1) = true)
    {row : AccountGrantRow} (member : row ∈ records.accountGrants.rows)
    (isToken : row.tokenId = grant.tokenId) : ¬ Dead records row := by
  rintro (⟨other, otherStored, otherToken, isRevoked⟩ |
    ⟨account, known, isKey, version⟩)
  · have sameToken : other.tokenId = grant.tokenId := otherToken.trans isToken
    have same : other = grant := by
      refine Table.eq_of_clash otherStored stored ?_ ?_
      · exact decide_eq_true (.inl sameToken)
      · exact decide_eq_true (.inl sameToken.symm)
    rw [same, unrevoked] at isRevoked
    cases isRevoked
  · have isRow : records.accountGrants.rows.find?
        (fun row => row.tokenId = grant.tokenId) = some row := by
      refine Table.find?_eq_some_of_clash member (decide_eq_true isToken) ?_
      intro other isOther
      have sameToken := isToken.trans (of_decide_eq_true isOther).symm
      exact ⟨decide_eq_true sameToken, decide_eq_true sameToken.symm⟩
    have isAccount : records.accounts.rows.find?
        (·.hasKey row.tenantId row.accountId) = some account := by
      cases found : records.accounts.rows.find?
          (·.hasKey row.tenantId row.accountId) with
      | none => exact absurd isKey (List.find?_eq_none.mp found account known)
      | some stored =>
          have storedKey := List.find?_some found
          rw [account_unique (List.mem_of_find?_eq_some found) known storedKey
            isKey]
    have isFound : grantAccount records grant.tokenId = some (row, account) := by
      simp only [grantAccount, isRow, isAccount, Option.bind_eq_bind,
        Option.bind_some, Option.pure_def]
    rw [isFound] at mayEnroll
    simp only [Option.all_some, AccountRow.mayEnroll, Bool.and_eq_true,
      decide_eq_true_eq] at mayEnroll
    omega

theorem grant_valid (standing : Standing events records) {grant : GrantRow}
    (stored : grant ∈ records.grants.rows) (unrevoked : grant.revokedAt = none)
    (mayEnroll : (grantAccount records grant.tokenId).all
      (fun found => found.2.mayEnroll found.1) = true)
    {tenantId accountId : String}
    (owned : ownsToken records tenantId accountId grant.tokenId = true) :
    Valid tenantId accountId (.grantIssued tenantId accountId grant.tokenId)
      events := by
  obtain ⟨row, member, isRow⟩ := List.any_eq_true.mp owned
  obtain ⟨isToken, rfl, rfl⟩ := of_decide_eq_true isRow
  rw [← isToken]
  rcases standing.grants row member with dead | valid
  · exact absurd dead (not_dead stored unrevoked mayEnroll member isToken)
  · exact valid

theorem accountContext_ok {token : String} {now : Timestamp}
    {grant : GrantRow} {account : AccountRow}
    (read : accountContext services records token now =
      some (grant, account)) :
    grant ∈ records.grants.rows ∧ grant.revokedAt = none ∧
      (grantAccount records grant.tokenId).all
        (fun found => found.2.mayEnroll found.1) = true := by
  obtain ⟨stored, isGrant, rest⟩ := Option.bind_eq_some_iff.mp read
  obtain ⟨⟨owner, holder⟩, isFound, rest⟩ := Option.bind_eq_some_iff.mp rest
  dsimp only at rest
  split at rest
  · next holds =>
      cases rest
      have isOpen := List.find?_some isGrant
      simp only [Bool.and_eq_true, Option.isNone_iff_eq_none] at isOpen holds
      refine ⟨List.mem_of_find?_eq_some isGrant, isOpen.2, ?_⟩
      rw [isFound]
      exact holds.1
  · cases rest

/-- What a step accepts was issued after all that revokes it. -/
structure AcceptsValid (events : List Event) (records : Records Log)
    (effect : Effect) : Prop where
  sessions : ∀ tenantId accountId tokenHash,
    .sessionAccepted tenantId accountId tokenHash ∈ effect.events →
      Valid tenantId accountId
        (.sessionIssued tenantId accountId tokenHash) events
  grants : ∀ tenantId accountId tokenId,
    .grantAccepted tokenId ∈ effect.events →
      ownsToken records tenantId accountId tokenId = true →
        Valid tenantId accountId (.grantIssued tenantId accountId tokenId)
          events

theorem accepted_session (standing : Standing events records)
    {tenantId accountId tokenHash : String}
    (accepts : AcceptsSession services draw records after tenantId accountId
      tokenHash point) :
    Valid tenantId accountId (.sessionIssued tenantId accountId tokenHash)
      events := by
  cases point with
  | called call =>
      cases call with
      | me token =>
          obtain ⟨rfl, -, account, read, rfl, rfl⟩ := accepts
          exact session_valid standing read
      | enrollmentGrant token deviceId =>
          obtain ⟨rfl, account, ran, rfl, rfl⟩ := accepts
          exact session_valid standing (enrollmentGrant_ok ran).1
      | _ => cases accepts
  | changeChecked token encoded =>
      obtain ⟨rfl, stored, ran, rfl, rfl⟩ := accepts
      obtain ⟨account, read, isKey, -⟩ := changePassword_ok ran
      obtain ⟨isTenant, isAccount⟩ := of_decide_eq_true isKey
      rw [isTenant, isAccount]
      exact session_valid standing read
  | _ => cases accepts

theorem accepts_valid (standing : Standing events records)
    (moved : resume services draw point records = (next, after, effect)) :
    AcceptsValid events records effect := by
  constructor
  · intro tenantId accountId tokenHash member
    exact accepted_session standing (resume_origin moved member)
  · intro tenantId accountId tokenId member owned
    rcases resume_origin moved member with
      ⟨token, ⟨grant, account⟩, -, -, read, rfl⟩ | ⟨request, claim, -, ran, rfl⟩
    · obtain ⟨stored, unrevoked, mayEnroll⟩ := accountContext_ok read
      exact grant_valid standing stored unrevoked mayEnroll owned
    · obtain ⟨grant, found, isToken, -⟩ := claimGrant_ok ran
      rw [isToken] at owned ⊢
      exact grant_valid standing found.stored found.unrevoked found.account
        owned

end Accepted

/-! ## Runs -/

section Runs

variable {first pool : Pool (Records Log) Point} {labels : List Label}

theorem authority_same {before after : Records Log}
    (touches : Touches [.actions, .audit, .rest] before after) :
    AuthorityStep [] before after where
  accounts := accounts_same (touches .accounts (by simp)) fun _ _ => rfl
  sessions := sessions_same (touches .endpointSessions (by simp)) nofun
  history := touches .grantHistory (by simp)
  issued := by
    have same : after.accountGrants = before.accountGrants :=
      touches .accountGrants (by simp)
    exact ⟨[], by rw [same, List.append_nil], nofun⟩
  listed _ _ _ := nofun
  suspended _ := nofun

theorem pool_step {pool next : Pool (Records Log) Point} {label : Label}
    (step : (procedure services).Step pool label next) :
    AuthorityStep (eventsOf label) pool.shared next.shared := by
  cases step with
  | begin free isStart => exact authority_same (Std.Refl.refl _)
  | drop index => exact authority_same (Std.Refl.refl _)
  | outside changed => exact authority_same changed
  | resume moved => exact authority_step moved

theorem standing_run
    (isInitial : ((procedure services).system Settled).initial first)
    (run : ((procedure services).system Settled).Run first labels pool) :
    Standing (reported labels) pool.shared :=
  @TransitionSystem.RunWhere.historyInvariant _ _ _ _
    (fun labels (pool : Pool (Records Log) Point) =>
      Standing (reported labels) pool.shared) _
    isInitial.1.standing
    (fun standing _ step => by
      rw [reported_snoc]
      exact standing.snoc (pool_step step)) _ _ run

theorem renewed_run
    (run : ((procedure services).system Settled).Run first labels pool)
    {account : AccountRow} (known : account ∈ first.shared.accounts.rows) :
    ∃ renewed ∈ pool.shared.accounts.rows,
      Renewed (reported labels) account renewed := by
  refine @TransitionSystem.RunWhere.historyInvariant _ _ _ _
    (fun labels (pool : Pool (Records Log) Point) =>
      ∃ renewed ∈ pool.shared.accounts.rows,
        Renewed (reported labels) account renewed) _
    ⟨account, known, .refl account rfl⟩ ?_ _ _ run
  rintro labels pool label next ⟨middle, isMiddle, before⟩ - step
  obtain ⟨renewed, isRenewed, after⟩ := (pool_step step).accounts middle isMiddle
  refine ⟨renewed, isRenewed, ?_⟩
  rw [reported_snoc]
  exact before.trans after

/-- In every reachable state an account has one session at most; its version
counts the replacements of its password and the changes of its sign-in state;
and no session or grant is accepted that was issued before one of them, or
before a suspension of the network. -/
theorem authority_ends_with_password
    (isInitial : ((procedure services).system Settled).initial first)
    (run : ((procedure services).system Settled).Run first labels pool) :
    (pool.shared.endpointSessions.Pairwise fun left right =>
      EndpointSessionRow.ofAccount right.tenantId right.accountId left =
        false) ∧
      (∀ later final,
        ((procedure services).system Settled).Run pool later final →
        ∀ account ∈ pool.shared.accounts.rows,
          ∃ renewed ∈ final.shared.accounts.rows,
            Renewed (reported later) account renewed) ∧
      (∀ token now ready account,
        readSession services pool.shared token now ready = .ok account →
        Valid account.tenantId account.accountId
          (.sessionIssued account.tenantId account.accountId
            (services.tokenHash token)) (reported labels)) ∧
      (∀ index draw effect next,
        (procedure services).Step pool (.resume index draw effect) next →
        AcceptsValid (reported labels) pool.shared effect) ∧
      ∀ tenantId accountId tokenId,
        .grantIssued tenantId accountId tokenId ∈ reported labels →
        ownsToken pool.shared tenantId accountId tokenId = true := by
  have standing := standing_run isInitial run
  refine ⟨standing.single, ?_, ?_, ?_, ?_⟩
  · intro later final further account known
    exact renewed_run further known
  · intro token now ready account read
    exact session_valid standing read
  · intro index draw effect next step
    cases step with
    | resume moved => exact accepts_valid standing moved
  · intro tenantId accountId tokenId member
    obtain ⟨row, stored, isIssue⟩ :=
      standing.listed tenantId accountId tokenId member
    cases isIssue
    exact List.any_eq_true.mpr ⟨row, stored, decide_eq_true ⟨rfl, rfl, rfl⟩⟩

end Runs

/-! ### A password that is reset while a grant is open -/

def mia : AccountRow where
  tenantId := "net"
  accountId := "mia"
  username := "mia@net.example"
  displayName := "Mia"
  passwordHash := "the first password"
  passwordVersion := 1
  initialPasswordExpiresAt := none
  setupCompletedAt := some 0
  status := "active"

/-- Mia has an account, and has asked for a new password. -/
def accountRecords : Records Unit :=
  { sampleRecords with
    namespaces := ⟨[⟨"net", "net.example"⟩], by decide⟩
    accounts := ⟨[mia], by decide⟩
    resetRequests := ⟨[⟨"reset", "net", "mia", 900, none, none⟩], by decide⟩ }

/-- Mia signs in and asks for a grant. -/
def granted : List Label × Pool (Records Unit) Point :=
  (procedure sampleServices).follow ⟨accountRecords, fun _ => .idle⟩
    (.begin 0 (.called (.login "mia@net.example" "the first password")) ::
      resumes 0 2 (drawAt 1000 "the-laptop-of-mia-at-home") ++
      .begin 1 (.called (.enrollmentGrant
        "token-of-the-laptop-of-mia-at-home" "device")) ::
      resumes 1 1 (drawAt 1001 "grant"))

/-- Ana resets the password, and the token of the session is presented. -/
def passwordReset : List Label × Pool (Records Unit) Point :=
  (procedure sampleServices).follow granted.2
    (.begin 2 (.called (.resetPassword ⟨"net", "ana", .admin, "session-ana"⟩
        "reset")) ::
      resumes 2 2 (drawAt 1002 "new password") ++
      .begin 3 (.called (.me "token-of-the-laptop-of-mia-at-home")) ::
      resumes 3 1 (drawAt 1003 "me"))

theorem authority_ends_with_password_reset :
    granted.2.shared.endpointSessions.length = 1 ∧
      ownsToken granted.2.shared "net" "mia" "grant" = true ∧
      passwordReset.2.shared.endpointSessions.length = 0 ∧
      (reported passwordReset.1).length = 1 ∧
      ∃ renewed ∈ passwordReset.2.shared.accounts.rows,
        Renewed (reported passwordReset.1) mia renewed := by
  have isInitial : ((procedure sampleServices).system Settled).initial
      ⟨accountRecords, fun _ => .idle⟩ :=
    ⟨⟨.nil, nofun⟩, fun _ => rfl⟩
  have before : ((procedure sampleServices).system Settled).Run
      ⟨accountRecords, fun _ => .idle⟩ granted.1 granted.2 := by
    apply Procedure.run_follow
    exact ⟨⟨rfl, _, rfl⟩, trivial, trivial, trivial, trivial, trivial,
      ⟨rfl, _, rfl⟩, trivial, trivial, trivial, trivial⟩
  have after : ((procedure sampleServices).system Settled).Run
      granted.2 passwordReset.1 passwordReset.2 := by
    apply Procedure.run_follow
    exact ⟨⟨rfl, _, rfl⟩, trivial, trivial, trivial, trivial, trivial,
      ⟨rfl, _, rfl⟩, trivial, trivial, trivial, trivial⟩
  obtain ⟨-, renewed, -⟩ := authority_ends_with_password isInitial before
  have isStored : mia ∈ granted.2.shared.accounts.rows := by decide +kernel
  exact ⟨by decide +kernel, by decide +kernel, by decide +kernel,
    by decide +kernel, renewed _ _ after mia isStored⟩

end SignIns

end Directory

end ControlForge
