import ControlForge.Directory.Origins
import ControlForge.Directory.Writes

/-!
# Human secrets are used once

A challenge, a bootstrap token, the token of an invitation and a recovery code
each lead to at most one session: the transaction of a sign-in finds the secret
unspent and spends it, and every other step leaves it spent.
-/

namespace ControlForge

namespace Directory

namespace Secrets

open Access

variable {Log : Type} {services : Services Log}

/-! ## The property -/

/-- The session of a sign-in that has used the secret. -/
def sessionOf (secret : Secret) : Event → Option String
  | .signedIn secrets sessionId =>
      if secret ∈ secrets then some sessionId else none
  | _ => none

/-- The sessions a secret has led to. -/
def sessionsOf (secret : Secret) (events : List Event) : List String :=
  events.filterMap (sessionOf secret)

/-- The sessions of all sign-ins, in order. -/
def signIns (events : List Event) : List String :=
  events.filterMap fun event =>
    match event with
    | .signedIn _ sessionId => some sessionId
    | _ => none

@[simp] theorem sessionsOf_append (secret : Secret)
    (events later : List Event) :
    sessionsOf secret (events ++ later) =
      sessionsOf secret events ++ sessionsOf secret later :=
  List.filterMap_append

@[simp] theorem signIns_append (events later : List Event) :
    signIns (events ++ later) = signIns events ++ signIns later :=
  List.filterMap_append

@[simp] theorem sessionsOf_nil (secret : Secret) :
    sessionsOf secret [] = [] := rfl

@[simp] theorem sessionsOf_signedIn (secret : Secret) (secrets : List Secret)
    (sessionId : String) (events : List Event) :
    sessionsOf secret (.signedIn secrets sessionId :: events) =
      (if secret ∈ secrets then [sessionId] else []) ++
        sessionsOf secret events := by
  simp only [sessionsOf, List.filterMap_cons, sessionOf]
  split <;> simp_all

@[simp] theorem sessionsOf_bootstrapped (secret : Secret)
    (events : List Event) :
    sessionsOf secret (.bootstrapped :: events) = sessionsOf secret events :=
  rfl

@[simp] theorem sessionsOf_asserted (secret : Secret)
    (tenantId credentialId : String) (signCount : Nat) (events : List Event) :
    sessionsOf secret (.asserted tenantId credentialId signCount :: events) =
      sessionsOf secret events := rfl

/-- The primary keys of the tables that are kept as lists. -/
structure Keyed (records : Records Log) : Prop where
  challenges : (records.challenges.map (·.challengeId)).Nodup
  inviteChallenges : (records.inviteChallenges.map (·.challengeId)).Nodup
  recoveryCodes : (records.recoveryCodes.map RecoveryCodeRow.key).Nodup

/-- The secret cannot be used any more. -/
def IsSpent (records : Records Log) : Secret → Prop
  | .challenge challengeId =>
      Spent (·.challengeId) ChallengeRow.ended records.challenges challengeId
  | .inviteChallenge challengeId =>
      Spent (·.challengeId) InviteChallengeRow.ended records.inviteChallenges
        challengeId
  | .bootstrapToken tokenHash =>
      Spent (·.tokenHash) BootstrapTokenRow.ended records.bootstrapTokens.rows
        tokenHash
  | .invite tokenHash =>
      Spent (·.tokenHash) InviteRow.ended records.invites.rows tokenHash
  | .recoveryCode tenantId codeHash =>
      Spent RecoveryCodeRow.key RecoveryCodeRow.ended records.recoveryCodes
        (tenantId, codeHash)

/-! ## What every step keeps -/

def spendings : List Part :=
  [.spentChallenges, .spentInviteChallenges, .spentInvites, .spentCodes,
    .spentTokens]

/-- Nothing that is spent can be used again. -/
structure Keeps (before after : Records Log) : Prop where
  keyed : Keyed before → Keyed after
  spent : ∀ secret, IsSpent before secret → IsSpent after secret

theorem keeps_of_touches {parts : List Part} {before after : Records Log}
    (touches : Touches parts before after)
    (apart : ∀ part ∈ spendings, part ∉ parts) : Keeps before after := by
  have challenges := touches .spentChallenges (apart _ (by simp [spendings]))
  have inviteChallenges :=
    touches .spentInviteChallenges (apart _ (by simp [spendings]))
  have invites := touches .spentInvites (apart _ (by simp [spendings]))
  have codes := touches .spentCodes (apart _ (by simp [spendings]))
  have tokens := touches .spentTokens (apart _ (by simp [spendings]))
  constructor
  · intro keyed
    exact ⟨challenges.distinct keyed.challenges,
      inviteChallenges.distinct keyed.inviteChallenges,
      codes.distinct keyed.recoveryCodes⟩
  · intro secret spent
    cases secret with
    | challenge => exact challenges.spent _ spent
    | inviteChallenge => exact inviteChallenges.spent _ spent
    | bootstrapToken => exact tokens.spent _ spent
    | invite => exact invites.spent _ spent
    | recoveryCode => exact codes.spent _ spent

theorem spendings_apart (point : Point) :
    ∀ part ∈ spendings, part ∉ point.footprint := by
  intro part member
  simp only [spendings, List.mem_cons, List.not_mem_nil, or_false] at member
  cases point with
  | called call =>
      rcases member with rfl | rfl | rfl | rfl | rfl <;> cases call <;> simp
  | _ => rcases member with rfl | rfl | rfl | rfl | rfl <;> simp

theorem keeps_step {draw : Draw} {point next : Point}
    {records after : Records Log} {effect : Effect}
    (moved : resume services draw point records = (next, after, effect)) :
    Keeps records after :=
  keeps_of_touches (resume_moved moved).touches (spendings_apart point)

/-! ## What a sign-in spends -/

section SignIn

variable {records after : Records Log} {draw : Draw}

theorem challenge_spent {challengeId : String} {now : Timestamp}
    (keyed : Keyed records)
    (ran : consumeChallenge challengeId now records = .ok ((), after)) :
    ¬ IsSpent records (.challenge challengeId) ∧
      IsSpent after (.challenge challengeId) := by
  obtain ⟨found, written⟩ := consumeChallenge_ok ran
  obtain ⟨row, member, isOpen⟩ := List.any_eq_true.mp found
  have conditions := isOpen
  simp only [openChallenge, Bool.and_eq_true, decide_eq_true_eq,
    Option.isNone_iff_eq_none] at conditions
  obtain ⟨⟨isKey, -⟩, notConsumed⟩ := conditions
  have notEnded : ChallengeRow.ended row = false := by
    simp [ChallengeRow.ended, notConsumed]
  change ¬ Spent _ _ _ _ ∧ Spent _ _ after.challenges _
  rw [written]
  exact Spent.once keyed.challenges member isOpen isKey notEnded
    (fun _ _ => rfl) rfl

theorem token_spent {context : BootstrapContext} {now : Timestamp}
    (ran : useBootstrapToken context now records = .ok ((), after)) :
    ¬ IsSpent records (.bootstrapToken context.tokenHash) ∧
      IsSpent after (.bootstrapToken context.tokenHash) := by
  obtain ⟨-, ⟨row, member, isOpen⟩, written⟩ := useBootstrapToken_ok ran
  have conditions := isOpen
  simp only [BootstrapTokenRow.isOpen, Bool.and_eq_true, decide_eq_true_eq,
    Option.isNone_iff_eq_none] at conditions
  obtain ⟨isKey, ⟨notUsed, notRevoked⟩, -⟩ := conditions
  have notEnded : row.ended = false := by
    simp [BootstrapTokenRow.ended, notUsed, notRevoked]
  have distinct : (records.bootstrapTokens.rows.map (·.tokenHash)).Nodup :=
    Table.distinct fun left right same => decide_eq_true same
  change ¬ Spent _ _ _ _ ∧ Spent _ _ after.bootstrapTokens.rows _
  rw [written]
  exact Spent.once distinct member isOpen isKey notEnded (fun _ _ => rfl) rfl

theorem invitation_spent {invitation : Invitation} {now : Timestamp}
    (keyed : Keyed records)
    (ran : useInvitation invitation now records = .ok ((), after)) :
    ∀ secret ∈ [Secret.inviteChallenge invitation.challenge.challengeId,
        .invite invitation.invite.tokenHash],
      ¬ IsSpent records secret ∧ IsSpent after secret := by
  obtain ⟨⟨challenge, challengeMember, challengeOpen⟩,
    ⟨invite, inviteMember, inviteOpen⟩, challenges, invites⟩ :=
    useInvitation_ok ran
  intro secret member
  rcases List.mem_cons.mp member with rfl | last
  · have conditions := challengeOpen
    simp only [openInviteChallenge, Bool.and_eq_true, decide_eq_true_eq,
      Option.isNone_iff_eq_none] at conditions
    obtain ⟨⟨isKey, notConsumed⟩, -⟩ := conditions
    have notEnded : InviteChallengeRow.ended challenge = false := by
      simp [InviteChallengeRow.ended, notConsumed]
    change ¬ Spent _ _ _ _ ∧ Spent _ _ after.inviteChallenges _
    rw [challenges]
    exact Spent.once keyed.inviteChallenges challengeMember challengeOpen isKey
      notEnded (fun _ _ => rfl) rfl
  · rw [List.mem_singleton.mp last]
    have conditions := inviteOpen
    simp only [openInvitation, Bool.and_eq_true, decide_eq_true_eq]
      at conditions
    obtain ⟨⟨-, isKey, -⟩, isOpen⟩ := conditions
    have notEnded : InviteRow.ended invite = false := by
      simp [InviteRow.ended, isOpen]
    have distinct : (records.invites.rows.map (·.tokenHash)).Nodup :=
      Table.distinct fun left right same => decide_eq_true (.inr same)
    change ¬ Spent _ _ _ _ ∧ Spent _ _ after.invites.rows _
    rw [invites]
    exact Spent.once distinct inviteMember inviteOpen isKey notEnded
      (fun _ _ => rfl) rfl

/-- The session a step adds, with the secrets it spends. -/
structure Spends (secrets : List Secret) (sessionId : String)
    (before after : Records Log) : Prop where
  spent : ∀ secret ∈ secrets, ¬ IsSpent before secret ∧ IsSpent after secret
  added : after.sessions.rows.map (·.sessionId) =
    before.sessions.rows.map (·.sessionId) ++ [sessionId]

theorem sessionIds_same {before after : Records Log}
    (same : Part.sessionIds.Same before after) :
    after.sessions.rows.map (·.sessionId) =
      before.sessions.rows.map (·.sessionId) := by
  have ids := congrArg (List.map Prod.fst) same
  rw [List.map_map, List.map_map] at ids
  exact ids

/-- A session that is issued after steps which leave the others alone. -/
theorem sessions_added {parts : List Part} {middle : Records Log}
    {tenantId userId : String} (touches : Touches parts records middle)
    (apart : .sessionIds ∉ parts)
    (ran : issueSession services tenantId userId draw middle =
      .ok ((), after)) :
    after.sessions.rows.map (·.sessionId) =
      records.sessions.rows.map (·.sessionId) ++ [draw.id] := by
  have same := sessionIds_same (touches .sessionIds apart)
  rw [(issueSession_ok ran).2, List.map_append, same]
  rfl

/-- Secrets stay spent after the statement that spends them. -/
theorem Keeps.spends {first second last : Records Log} {secret : Secret}
    (before : Keeps records first)
    (spends : ¬ IsSpent first secret ∧ IsSpent second secret)
    (later : Keeps second last) :
    ¬ IsSpent records secret ∧ IsSpent last secret :=
  ⟨fun spent => spends.1 (before.spent secret spent),
    later.spent secret spends.2⟩

theorem Keeps.refl (records : Records Log) : Keeps records records :=
  ⟨id, fun _ => id⟩

theorem Keeps.trans {first second third : Records Log}
    (left : Keeps first second) (right : Keeps second third) :
    Keeps first third :=
  ⟨right.keyed ∘ left.keyed,
    fun secret spent => right.spent secret (left.spent secret spent)⟩

theorem keeps_issueSession {tenantId userId : String} {result : Unit}
    (ran : issueSession services tenantId userId draw records =
      .ok (result, after)) : Keeps records after := by
  have touches : Touches [.sessions, .sessionIds] records after :=
    touches_issueSession services (by simp) (by simp) _ _ _ _ _ _ ran
  exact keeps_of_touches touches (by simp [spendings])

theorem completeAuthentication_spends
    {challengeId tenantId userId credentialId : String} {newSignCount : Nat}
    (keyed : Keyed records)
    (ran : completeAuthentication services challengeId tenantId userId
      credentialId newSignCount draw records = .ok ((), after)) :
    Spends [.challenge challengeId] draw.id records after := by
  obtain ⟨_, first, consumed, rest⟩ := Transaction.run_bind_ok.mp ran
  obtain ⟨_, second, recorded, issued⟩ := Transaction.run_bind_ok.mp rest
  have consuming : Touches [.challenges, .passkeys, .counters] records first :=
    touches_consumeChallenge (by simp) _ _ _ _ _ consumed
  have recording : Touches [.challenges, .passkeys, .counters] first second :=
    touches_updatePasskeys (by simp) (by simp) _ _ _ _ _ recorded
  constructor
  · intro secret member
    rw [List.mem_singleton.mp member]
    have later := (keeps_of_touches recording (by simp [spendings])).trans
      (keeps_issueSession issued)
    exact (Keeps.refl records).spends (challenge_spent keyed consumed) later
  · exact sessions_added (IsTrans.trans _ _ _ consuming recording) (by simp)
      issued

theorem completeBootstrap_spends {challengeId : String}
    {context : BootstrapContext} {verified : RegistrationVerification}
    (keyed : Keyed records)
    (ran : completeBootstrap services challengeId context verified draw
      records = .ok ((), after)) :
    Spends [.challenge challengeId, .bootstrapToken context.tokenHash] draw.id
      records after := by
  obtain ⟨_, first, consumed, rest⟩ := Transaction.run_bind_ok.mp ran
  obtain ⟨_, second, used, further⟩ := Transaction.run_bind_ok.mp rest
  obtain ⟨_, third, installed, issued⟩ := Transaction.run_bind_ok.mp further
  have consuming : Touches
      (.challenges :: .bootstrapTokens :: administratorTables) records first :=
    touches_consumeChallenge (by simp) _ _ _ _ _ consumed
  have using_ : Touches
      (.challenges :: .bootstrapTokens :: administratorTables) first second :=
    touches_useBootstrapToken (by simp) _ _ _ _ _ used
  have installing : Touches
      (.challenges :: .bootstrapTokens :: administratorTables) second third :=
    (touches_installAdministrator services _ _ _ _ _ _ installed).mono
      (by simp)
  have keepsFirst := keeps_of_touches consuming (by simp [spendings])
  have keepsSecond := keeps_of_touches using_ (by simp [spendings])
  have keepsLast := (keeps_of_touches installing (by simp [spendings])).trans
    (keeps_issueSession issued)
  constructor
  · intro secret member
    rcases List.mem_cons.mp member with rfl | last
    · exact (Keeps.refl records).spends (challenge_spent keyed consumed)
        (keepsSecond.trans keepsLast)
    · rw [List.mem_singleton.mp last]
      exact keepsFirst.spends (token_spent used) keepsLast
  · exact sessions_added (IsTrans.trans _ _ _
      (IsTrans.trans _ _ _ consuming using_) installing) (by simp) issued

theorem completeInvite_spends {invitation : Invitation}
    {verified : RegistrationVerification} (keyed : Keyed records)
    (ran : completeInvite services invitation verified draw records =
      .ok ((), after)) :
    Spends [.inviteChallenge invitation.challenge.challengeId,
      .invite invitation.invite.tokenHash] draw.id records after := by
  obtain ⟨_, first, used, rest⟩ := Transaction.run_bind_ok.mp ran
  obtain ⟨_, second, installed, issued⟩ := Transaction.run_bind_ok.mp rest
  have using_ : Touches [.inviteChallenges, .invites, .users, .passkeys,
      .recoveryCodes, .audit] records first :=
    touches_useInvitation (by simp) (by simp) _ _ _ _ _ used
  have installing : Touches [.inviteChallenges, .invites, .users, .passkeys,
      .recoveryCodes, .audit] first second :=
    (touches_installMember services _ _ _ _ _ _ installed).mono (by simp)
  constructor
  · intro secret member
    have later := (keeps_of_touches installing (by simp [spendings])).trans
      (keeps_issueSession issued)
    exact (Keeps.refl records).spends (invitation_spent keyed used _ member)
      later
  · exact sessions_added (IsTrans.trans _ _ _ using_ installing) (by simp)
      issued

theorem recoverSession_spends {tenantSlug email recoveryCode : String}
    {identity : String × String} (keyed : Keyed records)
    (ran : inAppliance (recoverSession services.toDeployment tenantSlug email
      recoveryCode draw.toDraw) records = .ok (identity, after)) :
    Spends [.recoveryCode identity.1 (services.recoveryHash recoveryCode)]
      draw.id records after := by
  obtain ⟨code, member, isHash, notUsed, rfl, written, -, added⟩ :=
    recoverSession_ok ran
  constructor
  · intro secret isSecret
    rw [List.mem_singleton.mp isSecret]
    change ¬ Spent _ _ _ _ ∧ Spent _ _ after.recoveryCodes _
    rw [written]
    have notEnded : RecoveryCodeRow.ended code = false := by
      simp [RecoveryCodeRow.ended, notUsed]
    refine Spent.once keyed.recoveryCodes member ?_ ?_ notEnded
      (fun _ _ => rfl) rfl
    · simp [notUsed]
    · rw [← isHash]
      rfl
  · rw [added, List.map_append]
    rfl

theorem signsIn_spends {secrets : List Secret} {point : Point}
    (keyed : Keyed records)
    (signsIn : SignsIn services draw records after secrets point) :
    Spends secrets draw.id records after := by
  cases point with
  | bootstrapVerified challengeId context verified =>
      obtain ⟨rfl, ran⟩ := signsIn
      exact completeBootstrap_spends keyed ran
  | assertionVerified challengeId tenantId userId credential verified =>
      obtain ⟨rfl, ran⟩ := signsIn
      exact completeAuthentication_spends keyed ran
  | invitationVerified invitation verified =>
      obtain ⟨rfl, ran⟩ := signsIn
      exact completeInvite_spends keyed ran
  | called call =>
      cases call with
      | recoverSession tenantSlug email recoveryCode =>
          obtain ⟨identity, rfl, ran⟩ := signsIn
          exact recoverSession_spends keyed ran
      | _ => cases signsIn
  | _ => cases signsIn

end SignIn

/-! ## Steps -/

section Steps

variable {records after : Records Log} {draw : Draw} {point next : Point}
  {effect : Effect}

theorem sessionsOf_eq_nil {events : List Event} {secret : Secret}
    (none_ : ∀ event ∈ events, ∀ secrets sessionId,
      event ≠ .signedIn secrets sessionId) : sessionsOf secret events = [] := by
  rw [sessionsOf, List.filterMap_eq_nil_iff]
  intro event member
  cases event with
  | signedIn secrets sessionId =>
      exact absurd rfl (none_ _ member secrets sessionId)
  | _ => rfl

theorem signIns_eq_nil {events : List Event}
    (none_ : ∀ event ∈ events, ∀ secrets sessionId,
      event ≠ .signedIn secrets sessionId) : signIns events = [] := by
  rw [signIns, List.filterMap_eq_nil_iff]
  intro event member
  cases event with
  | signedIn secrets sessionId =>
      exact absurd rfl (none_ _ member secrets sessionId)
  | _ => rfl

/-- The events of a sign-in, by the point it comes from. -/
theorem signIn_events {secrets : List Secret} {event : Event}
    (moved : resume services draw point records = (next, after, effect))
    (member : event ∈ effect.events)
    (signsIn : SignsIn services draw records after secrets point) :
    signIns effect.events = [draw.id] ∧
      ∀ secret, sessionsOf secret effect.events =
        if secret ∈ secrets then [draw.id] else [] := by
  cases point with
  | bootstrapVerified challengeId context verified =>
      obtain ⟨rfl, -⟩ := signsIn
      rcases (finish_eq moved).2 with ⟨_, -, rfl⟩ | ⟨-, rfl⟩
      · exact ⟨rfl, fun secret => by simp⟩
      · cases member
  | assertionVerified challengeId tenantId userId credential verified =>
      obtain ⟨rfl, -⟩ := signsIn
      rcases (finish_eq moved).2 with ⟨_, -, rfl⟩ | ⟨-, rfl⟩
      · exact ⟨rfl, fun secret => by simp⟩
      · cases member
  | invitationVerified invitation verified =>
      obtain ⟨rfl, -⟩ := signsIn
      rcases (finish_eq moved).2 with ⟨_, -, rfl⟩ | ⟨-, rfl⟩
      · exact ⟨rfl, fun secret => by simp⟩
      · cases member
  | called call =>
      cases call with
      | recoverSession tenantSlug email recoveryCode =>
          obtain ⟨identity, rfl, ran⟩ := signsIn
          rcases (finish_eq moved).2 with ⟨found, succeeded, rfl⟩ | ⟨-, rfl⟩
          · rw [ran] at succeeded
            cases succeeded
            exact ⟨rfl, fun secret => by simp⟩
          · cases member
      | _ => cases signsIn
  | _ => cases signsIn

/-- A step signs nobody in, or it is the transaction of one sign-in. -/
theorem signIn_cases
    (moved : resume services draw point records = (next, after, effect)) :
    (signIns effect.events = [] ∧
        ∀ secret, sessionsOf secret effect.events = []) ∨
      ∃ secrets, SignsIn services draw records after secrets point ∧
        signIns effect.events = [draw.id] ∧
        ∀ secret, sessionsOf secret effect.events =
          if secret ∈ secrets then [draw.id] else [] := by
  by_cases signsIn : ∃ secrets sessionId,
      .signedIn secrets sessionId ∈ effect.events
  · right
    obtain ⟨secrets, sessionId, member⟩ := signsIn
    obtain ⟨rfl, origin⟩ := resume_origin moved member
    exact ⟨secrets, origin, signIn_events moved member origin⟩
  · left
    have none_ : ∀ event ∈ effect.events, ∀ secrets sessionId,
        event ≠ .signedIn secrets sessionId := by
      rintro event member secrets sessionId rfl
      exact signsIn ⟨secrets, sessionId, member⟩
    exact ⟨signIns_eq_nil none_, fun _ => sessionsOf_eq_nil none_⟩

end Steps

/-! ## Runs -/

/-- The secrets of a run and the sessions they have led to. -/
structure Recorded (start : Records Log) (labels : List Label)
    (records : Records Log) : Prop where
  keyed : Keyed records
  once : ∀ secret, (sessionsOf secret (reported labels)).length ≤ 1
  spent : ∀ secret, sessionsOf secret (reported labels) ≠ [] →
    IsSpent records secret
  added : records.sessions.rows.map (·.sessionId) =
    start.sessions.rows.map (·.sessionId) ++ signIns (reported labels)

section Runs

variable {start records after : Records Log} {labels : List Label}

theorem Recorded.nil (keyed : Keyed start) : Recorded start [] start where
  keyed := keyed
  once _ := by simp
  spent _ used := absurd rfl used
  added := by simp [signIns]

/-- A step that signs nobody in. -/
theorem Recorded.silent (recorded : Recorded start labels records)
    {label : Label} (keeps : Keeps records after)
    (same : after.sessions.rows.map (·.sessionId) =
      records.sessions.rows.map (·.sessionId))
    (noSignIn : signIns (eventsOf label) = [])
    (noSecret : ∀ secret, sessionsOf secret (eventsOf label) = []) :
    Recorded start (labels ++ [label]) after where
  keyed := keeps.keyed recorded.keyed
  once secret := by
    rw [reported_snoc, sessionsOf_append, noSecret, List.append_nil]
    exact recorded.once secret
  spent secret used := by
    rw [reported_snoc, sessionsOf_append, noSecret, List.append_nil] at used
    exact keeps.spent secret (recorded.spent secret used)
  added := by
    rw [reported_snoc, signIns_append, noSignIn, List.append_nil, same]
    exact recorded.added

/-- A sign-in uses secrets that were not used before. -/
theorem Recorded.signIn (recorded : Recorded start labels records)
    {label : Label} {secrets : List Secret} {sessionId : String}
    (keeps : Keeps records after)
    (spends : Spends secrets sessionId records after)
    (isSignIn : signIns (eventsOf label) = [sessionId])
    (uses : ∀ secret, sessionsOf secret (eventsOf label) =
      if secret ∈ secrets then [sessionId] else []) :
    Recorded start (labels ++ [label]) after where
  keyed := keeps.keyed recorded.keyed
  once secret := by
    rw [reported_snoc, sessionsOf_append, uses]
    by_cases isUsed : secret ∈ secrets
    · have unused : sessionsOf secret (reported labels) = [] := by
        by_contra used
        exact (spends.spent secret isUsed).1 (recorded.spent secret used)
      simp [unused, isUsed]
    · simpa [isUsed] using recorded.once secret
  spent secret used := by
    by_cases isUsed : secret ∈ secrets
    · exact (spends.spent secret isUsed).2
    · rw [reported_snoc, sessionsOf_append, uses, if_neg isUsed,
        List.append_nil] at used
      exact keeps.spent secret (recorded.spent secret used)
  added := by
    rw [reported_snoc, signIns_append, isSignIn, spends.added, recorded.added,
      List.append_assoc]

/-- A transaction that signs nobody in has been refused. -/
theorem finish_unchanged {Value : Type} {program : Program Log Value}
    {events : Value → List Event} {point : Point} {effect : Effect}
    (moved : finish records program events = (point, after, effect))
    (noSignIn : signIns effect.events = [])
    (signsIn : ∀ value, signIns (events value) ≠ []) : after = records := by
  rcases (finish_eq moved).2 with ⟨value, -, rfl⟩ | ⟨same, -⟩
  · exact absurd noSignIn (signsIn value)
  · exact same

/-- Only a sign-in adds a session. -/
theorem sessions_same {draw : Draw} {point next : Point} {effect : Effect}
    (moved : resume services draw point records = (next, after, effect))
    (noSignIn : signIns effect.events = []) :
    after.sessions.rows.map (·.sessionId) =
      records.sessions.rows.map (·.sessionId) := by
  have kept : .sessionIds ∉ point.footprint →
      after.sessions.rows.map (·.sessionId) =
        records.sessions.rows.map (·.sessionId) :=
    fun apart => sessionIds_same ((resume_moved moved).touches _ apart)
  cases point with
  | bootstrapVerified | assertionVerified | invitationVerified =>
      rw [finish_unchanged moved noSignIn fun _ => by simp [signIns]]
  | called call =>
      cases call with
      | recoverSession =>
          rw [finish_unchanged moved noSignIn fun _ => by simp [signIns]]
      | _ => exact kept (by simp)
  | _ => exact kept (by simp)

theorem recorded_step {pool next : Pool (Records Log) Point} {label : Label}
    (recorded : Recorded start labels pool.shared)
    (step : (procedure services).Step pool label next) :
    Recorded start (labels ++ [label]) next.shared := by
  cases step with
  | begin free isStart =>
      exact recorded.silent (.refl _) rfl rfl fun _ => rfl
  | drop index => exact recorded.silent (.refl _) rfl rfl fun _ => rfl
  | outside changed =>
      have keeps : Keeps _ _ := keeps_of_touches changed (by simp [spendings])
      exact recorded.silent keeps
        (sessionIds_same (changed .sessionIds (by simp))) rfl
        fun _ => rfl
  | resume moved =>
      have keeps := keeps_step moved
      rcases signIn_cases moved with
        ⟨noSignIn, noSecret⟩ | ⟨secrets, signsIn, isSignIn, uses⟩
      · exact recorded.silent keeps (sessions_same moved noSignIn) noSignIn
          noSecret
      · exact recorded.signIn keeps (signsIn_spends recorded.keyed signsIn)
          isSignIn uses

/-- In every run each secret leads to at most one session, every further
session comes from a sign-in, and a step that is refused, or that only goes on
to the next one, changes nothing. -/
theorem secrets_used_once {first pool : Pool (Records Log) Point}
    (isInitial : ((procedure services).system Keyed).initial first)
    (run : ((procedure services).system Keyed).Run first labels pool) :
    (∀ secret, (sessionsOf secret (reported labels)).length ≤ 1) ∧
      pool.shared.sessions.rows.map (·.sessionId) =
        first.shared.sessions.rows.map (·.sessionId) ++
          signIns (reported labels) ∧
      ∀ index draw effect next,
        (procedure services).Step pool (.resume index draw effect) next →
        (∀ events, effect ≠ .committed events) → next.shared = pool.shared := by
  have recorded : Recorded first.shared labels pool.shared :=
    @TransitionSystem.RunWhere.historyInvariant _ _ _ _
      (fun labels pool => Recorded first.shared labels pool.shared) _
      (.nil isInitial.1) (fun holds _ step => recorded_step holds step) _ _ run
  refine ⟨recorded.once, recorded.added, ?_⟩
  intro index draw effect next step pending
  cases step with
  | resume moved => exact (resume_moved moved).unchanged pending

end Runs

/-! ### A recovery code that is presented twice -/

/-- Ana may recover her account. -/
def recoverableRecords : Records Unit :=
  { sampleRecords with recoveryCodes := [⟨"net", "ana", "code", none⟩] }

def recoverablePool : Pool (Records Unit) Point :=
  ⟨recoverableRecords, fun _ => .idle⟩

def recover (index : Nat) (sessionId : String) :
    List (Procedure.Command Point Draw) :=
  .begin index (.called (.recoverSession "net" "ana@net.example" "code")) ::
    resumes index 1 (drawAt 1000 sessionId)

def recovered : List Label × Pool (Records Unit) Point :=
  (procedure sampleServices).follow recoverablePool
    (recover 0 "session-1" ++ recover 1 "session-2")

theorem secrets_used_once_recovered :
    sessionsOf (.recoveryCode "net" "code") (reported recovered.1) =
        ["session-1"] ∧
      recovered.2.shared.sessions.rows.map (·.sessionId) =
        ["session-omar", "session-ana"] ++ signIns (reported recovered.1) := by
  have isInitial : ((procedure sampleServices).system Keyed).initial
      recoverablePool :=
    ⟨⟨List.nodup_nil, List.nodup_nil, List.nodup_singleton _⟩, fun _ => rfl⟩
  have run : ((procedure sampleServices).system Keyed).Run recoverablePool
      recovered.1 recovered.2 := by
    apply Procedure.run_follow
    exact ⟨⟨rfl, _, rfl⟩, trivial, trivial, trivial, ⟨rfl, _, rfl⟩, trivial,
      trivial, trivial, trivial⟩
  have once := secrets_used_once isInitial run
  exact ⟨by decide +kernel, once.2.1⟩

end Secrets

end Directory

end ControlForge
