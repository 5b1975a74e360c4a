import ControlForge.Directory.Procedure

/-!
# What an event says about the step that reported it

`Origin` gives the transaction behind every event, from the records before it
to those after it.
-/

namespace ControlForge

namespace Directory

open Access

variable {Log : Type} (services : Services Log) (draw : Draw)
  (records after : Records Log)

/-! ## Origins -/

/-- A sign-in with the secrets it has consumed. -/
def SignsIn (secrets : List Secret) : Point → Prop
  | .bootstrapVerified challengeId context verified =>
      secrets =
          [.challenge challengeId, .bootstrapToken context.tokenHash] ∧
        completeBootstrap services challengeId context verified draw records =
          .ok ((), after)
  | .assertionVerified challengeId tenantId userId credential verified =>
      secrets = [.challenge challengeId] ∧
        completeAuthentication services challengeId tenantId userId
          credential.credentialId verified.newSignCount draw records =
          .ok ((), after)
  | .invitationVerified invitation verified =>
      secrets =
          [.inviteChallenge invitation.challenge.challengeId,
            .invite invitation.invite.tokenHash] ∧
        completeInvite services invitation verified draw records =
          .ok ((), after)
  | .called (.recoverSession tenantSlug email recoveryCode) =>
      ∃ identity : String × String,
        secrets =
            [.recoveryCode identity.1 (services.recoveryHash recoveryCode)] ∧
          inAppliance (recoverSession services.toDeployment tenantSlug email
            recoveryCode draw.toDraw) records = .ok (identity, after)
  | _ => False

/-- An update of an object that was made for the expected revision. -/
def Updates (object : ManagedObject) (expected : Int) (changed : Bool) :
    Point → Prop
  | .called (.updateNetwork principal input) =>
      object = .network input.tenantId ∧ expected = input.revision ∧
        ∃ suspension, updateNetwork services principal input draw.now records =
          .ok ((changed, suspension), after)
  | .called (.adoptNamespace principal input) =>
      object = .network input.tenantId ∧ expected = input.revision ∧
        changed = true ∧
        adoptNamespace services principal input draw.now records =
          .ok ((), after)
  | .called (.updateMember principal input) =>
      object = .member principal.tenantId input.userId ∧
        expected = input.revision ∧
        updateMember services principal input draw.now records =
          .ok (changed, after)
  | .called (.updateAccount principal input) =>
      object = .account principal.tenantId input.accountId ∧
        expected = input.revision ∧
        ∃ change, changed = decide (change ≠ .unchanged) ∧
          updateAccount services principal input draw.now records =
            .ok (change, after)
  | _ => False

/-- A session of the account was accepted. -/
def AcceptsSession (tenantId accountId tokenHash : String) : Point → Prop
  | .called (.me token) =>
      tokenHash = services.tokenHash token ∧ after = records ∧
        ∃ account, readSession services records token draw.now false =
            .ok account ∧
          tenantId = account.tenantId ∧ accountId = account.accountId
  | .called (.enrollmentGrant token deviceId) =>
      tokenHash = services.tokenHash token ∧
        ∃ account, enrollmentGrant services token deviceId draw records =
            .ok (account, after) ∧
          tenantId = account.tenantId ∧ accountId = account.accountId
  | .changeChecked token encoded =>
      tokenHash = services.tokenHash token ∧
        ∃ account, changePassword services token encoded draw records =
            .ok (account, after) ∧
          tenantId = account.tenantId ∧ accountId = account.accountId
  | _ => False

/-- A session was issued to the account. -/
def IssuesSession (tenantId accountId tokenHash : String) : Point → Prop
  | .loginRead read =>
      tokenHash = services.tokenHash draw.token ∧
        ∃ account, login services read draw records = .ok (account, after) ∧
          tenantId = account.tenantId ∧ accountId = account.accountId
  | .changeChecked token encoded =>
      tokenHash = services.tokenHash draw.token ∧
        ∃ account, changePassword services token encoded draw records =
            .ok (account, after) ∧
          tenantId = account.tenantId ∧ accountId = account.accountId
  | _ => False

/-- The password of the account was replaced. -/
def ReplacesPassword (tenantId accountId : String) : Point → Prop
  | .changeChecked token encoded =>
      ∃ account, changePassword services token encoded draw records =
          .ok (account, after) ∧
        tenantId = account.tenantId ∧ accountId = account.accountId
  | .resetChecked principal requestId encoded =>
      ∃ account, resetPassword services principal requestId encoded draw
          records = .ok (account, after) ∧
        tenantId = account.tenantId ∧ accountId = account.accountId
  | _ => False

/-- The step behind an event. -/
def Origin (point : Point) : Event → Prop
  | .bootstrapped => ∃ challengeId context verified,
      point = .bootstrapVerified challengeId context verified ∧
        completeBootstrap services challengeId context verified draw records =
          .ok ((), after)
  | .signedIn secrets sessionId => sessionId = draw.id ∧
      SignsIn services draw records after secrets point
  | .asserted tenantId credentialId signCount =>
      ∃ challengeId userId credential verified,
        point = .assertionVerified challengeId tenantId userId credential
            verified ∧
          credentialId = credential.credentialId ∧
          signCount = verified.newSignCount ∧
          completeAuthentication services challengeId tenantId userId
            credential.credentialId verified.newSignCount draw records =
            .ok ((), after)
  | .updated object expected changed =>
      Updates services draw records after object expected changed point
  | .suspended tenantId => ∃ principal input changed change,
      point = .called (.updateNetwork principal input) ∧
        tenantId = input.tenantId ∧
        updateNetwork services principal input draw.now records =
          .ok ((changed, some change), after)
  | .passwordReplaced tenantId accountId =>
      ReplacesPassword services draw records after tenantId accountId point
  | .signInChanged tenantId accountId => ∃ principal input,
      point = .called (.updateAccount principal input) ∧
        tenantId = principal.tenantId ∧ accountId = input.accountId ∧
        updateAccount services principal input draw.now records =
          .ok (.signIn, after)
  | .sessionIssued tenantId accountId tokenHash =>
      IssuesSession services draw records after tenantId accountId tokenHash
        point
  | .sessionAccepted tenantId accountId tokenHash =>
      AcceptsSession services draw records after tenantId accountId tokenHash
        point
  | .grantIssued tenantId accountId tokenId => tokenId = draw.id ∧
      ∃ token deviceId account, point = .called (.enrollmentGrant token deviceId) ∧
        enrollmentGrant services token deviceId draw records =
          .ok (account, after) ∧
        tenantId = account.tenantId ∧ accountId = account.accountId
  | .grantAccepted tokenId =>
      (∃ token context, point = .called (.accountContext token) ∧
        after = records ∧
        accountContext services records token draw.now = some context ∧
        tokenId = context.1.tokenId) ∨
      ∃ request claim, point = .called (.claimGrant request) ∧
        claimGrant services request draw records = .ok (claim, after) ∧
        tokenId = claim.tokenId
  | .claimed claim => ∃ request, point = .called (.claimGrant request) ∧
      claimGrant services request draw records = .ok (claim, after)
  | .deviceSeen device => ∃ request call collectors,
      point = .called (.collector request call) ∧
        services.rotations.authenticator.authenticate request draw.now
          records.collectors = (.ok device, collectors) ∧
        after = { records with
          toAppliance := records.toAppliance.withCollectors collectors }

/-! ## The origin of every event -/

variable {services draw records after} {point next : Point} {effect : Effect}

theorem proceed_silent {Value : Type} {verdict : Except DirectoryError Value}
    {further : Value → Point}
    (moved : proceed records verdict further = (next, after, effect)) :
    effect.events = [] := by
  rcases (proceed_eq moved).2 with ⟨value, -, -, rfl⟩ | ⟨-, rfl⟩
  · rfl
  · rfl

theorem finish_silent {Value : Type} {program : Program Log Value}
    (moved : finish records program (fun _ => []) = (next, after, effect)) :
    effect.events = [] := by
  rcases (finish_eq moved).2 with ⟨value, -, rfl⟩ | ⟨-, rfl⟩
  · rfl
  · rfl

/-- An event of a transaction is one of those it reports for its result. -/
theorem finish_reports {Value : Type} {program : Program Log Value}
    {events : Value → List Event} {event : Event}
    (moved : finish records program events = (next, after, effect))
    (member : event ∈ effect.events) :
    ∃ value, program records = .ok (value, after) ∧ event ∈ events value := by
  rcases (finish_eq moved).2 with ⟨value, succeeded, rfl⟩ | ⟨-, rfl⟩
  · exact ⟨value, succeeded, member⟩
  · cases member

theorem answer_reports {Value : Type} {verdict : Except DirectoryError Value}
    {events : Value → List Event} {event : Event}
    (moved : answer records verdict events = (next, after, effect))
    (member : event ∈ effect.events) :
    after = records ∧ ∃ value, verdict = .ok value ∧ event ∈ events value := by
  obtain ⟨-, unchanged, outcome⟩ := answer_eq moved
  rcases outcome with ⟨value, succeeded, rfl⟩ | rfl
  · exact ⟨unchanged, value, succeeded, member⟩
  · cases member

theorem found_eq_ok {Value : Type} {value : Option Value}
    {failure : DirectoryError} {result : Value} :
    found value failure = .ok result ↔ value = some result := by
  cases value <;> simp [found]

theorem mapError_eq_ok {First Second Value : Type} {function : First → Second}
    {verdict : Except First Value} {result : Value} :
    verdict.mapError function = .ok result ↔ verdict = .ok result := by
  cases verdict <;> simp [Except.mapError]

theorem begin_origin {call : Call} {event : Event}
    (moved : begin services draw records call = (next, after, effect))
    (member : event ∈ effect.events) :
    Origin services draw records after (.called call) event := by
  cases call with
  | issueBootstrapToken | beginBootstrap | completeBootstrap
  | beginAuthentication | completeAuthentication | completeRegistration
  | beginInvite | completeInvite | designate | createAccount | login
  | changePassword | resetPassword | issueGrant =>
      rw [proceed_silent moved] at member
      cases member
  | revokeBootstrapTokens | beginRegistration | issueInvite | revokeInvite
  | revokeSession | createNetwork | requestReset | revokeGrant
  | revokeCredential | revokeDevice | initiateRotation | cancelRotation =>
      rw [finish_silent moved] at member
      cases member
  | logout token =>
      rw [begin] at moved
      rw [finish_silent moved] at member
      cases member
  | me token =>
      obtain ⟨unchanged, account, read, isEvent⟩ := answer_reports moved member
      rw [List.mem_singleton.mp isEvent]
      exact ⟨rfl, unchanged, account, mapError_eq_ok.mp read, rfl, rfl⟩
  | accountContext token =>
      obtain ⟨unchanged, context, read, isEvent⟩ := answer_reports moved member
      rw [List.mem_singleton.mp isEvent]
      exact .inl ⟨token, context, rfl, unchanged, found_eq_ok.mp read, rfl⟩
  | recoverSession tenantSlug email recoveryCode =>
      obtain ⟨identity, ran, isEvent⟩ := finish_reports moved member
      rw [List.mem_singleton.mp isEvent]
      exact ⟨rfl, identity, rfl, ran⟩
  | updateNetwork principal input =>
      obtain ⟨⟨changed, suspension⟩, ran, isEvent⟩ := finish_reports moved member
      rcases List.mem_cons.mp isEvent with rfl | isSuspension
      · exact ⟨rfl, rfl, suspension, ran⟩
      · cases suspension with
        | none => cases isSuspension
        | some change =>
            rw [List.mem_singleton.mp isSuspension]
            exact ⟨principal, input, changed, change, rfl, rfl, ran⟩
  | adoptNamespace principal input =>
      obtain ⟨_, ran, isEvent⟩ := finish_reports moved member
      rw [List.mem_singleton.mp isEvent]
      exact ⟨rfl, rfl, rfl, ran⟩
  | updateMember principal input =>
      obtain ⟨changed, ran, isEvent⟩ := finish_reports moved member
      rw [List.mem_singleton.mp isEvent]
      exact ⟨rfl, rfl, ran⟩
  | updateAccount principal input =>
      obtain ⟨change, ran, isEvent⟩ := finish_reports moved member
      rcases List.mem_cons.mp isEvent with rfl | isChange
      · exact ⟨rfl, rfl, change, rfl, ran⟩
      · by_cases isSignIn : change = .signIn
        · rw [if_pos isSignIn] at isChange
          rw [List.mem_singleton.mp isChange]
          rw [isSignIn] at ran
          exact ⟨principal, input, rfl, rfl, rfl, ran⟩
        · rw [if_neg isSignIn] at isChange
          cases isChange
  | enrollmentGrant token deviceId =>
      obtain ⟨account, ran, isEvent⟩ := finish_reports moved member
      rcases List.mem_append.mp isEvent with accepted | issued
      · rw [List.mem_singleton.mp accepted]
        exact ⟨rfl, account, ran, rfl, rfl⟩
      · rw [List.mem_singleton.mp issued]
        exact ⟨rfl, token, deviceId, account, rfl, ran, rfl, rfl⟩
  | claimGrant request =>
      obtain ⟨claim, ran, isEvent⟩ := finish_reports moved member
      rcases List.mem_cons.mp isEvent with rfl | isClaim
      · exact .inr ⟨request, claim, rfl, ran, rfl⟩
      · rw [List.mem_singleton.mp isClaim]
        exact ⟨request, rfl, ran⟩
  | collector request call =>
      simp only [begin, authenticateCollector] at moved
      split at moved
      · next device collectors authenticated =>
          cases moved
          rw [List.mem_singleton.mp member]
          exact ⟨request, call, collectors, rfl, authenticated, rfl⟩
      · cases moved
        cases member

theorem resume_origin {event : Event}
    (moved : resume services draw point records = (next, after, effect))
    (member : event ∈ effect.events) :
    Origin services draw records after point event := by
  cases point with
  | idle =>
      cases moved
      cases member
  | called call => exact begin_origin moved member
  | bootstrapBegun | bootstrapMatched | bootstrapOpen | identified
  | assertionLoaded =>
      rw [proceed_silent moved] at member
      cases member
  | tokenIssuable | bootstrapUnconfigured | challenged | registrationVerified
  | inviteRead | accountChecked | grantChecked | deviceAuthenticated =>
      rw [finish_silent moved] at member
      cases member
  | tenantsRead input tenants unverified =>
      cases unverified with
      | nil =>
          rw [finish_silent moved] at member
          cases member
      | cons tenantId unverified =>
          rw [proceed_silent moved] at member
          cases member
  | bootstrapVerified challengeId context verified =>
      obtain ⟨_, ran, isEvent⟩ := finish_reports moved member
      rcases List.mem_cons.mp isEvent with rfl | isSignIn
      · exact ⟨challengeId, context, verified, rfl, ran⟩
      · rw [List.mem_singleton.mp isSignIn]
        exact ⟨rfl, rfl, ran⟩
  | assertionVerified challengeId tenantId userId credential verified =>
      obtain ⟨_, ran, isEvent⟩ := finish_reports moved member
      rcases List.mem_cons.mp isEvent with rfl | isSignIn
      · exact ⟨challengeId, userId, credential, verified, rfl, rfl, rfl, ran⟩
      · rw [List.mem_singleton.mp isSignIn]
        exact ⟨rfl, rfl, ran⟩
  | invitationVerified invitation verified =>
      obtain ⟨_, ran, isEvent⟩ := finish_reports moved member
      rw [List.mem_singleton.mp isEvent]
      exact ⟨rfl, rfl, ran⟩
  | loginRead read =>
      obtain ⟨account, ran, isEvent⟩ := finish_reports moved member
      rw [List.mem_singleton.mp isEvent]
      exact ⟨rfl, account, ran, rfl, rfl⟩
  | changeChecked token encoded =>
      obtain ⟨account, ran, isEvent⟩ := finish_reports moved member
      rcases List.mem_append.mp isEvent with accepted | changed
      · rw [List.mem_singleton.mp accepted]
        exact ⟨rfl, account, ran, rfl, rfl⟩
      · rcases List.mem_cons.mp changed with rfl | issued
        · exact ⟨account, ran, rfl, rfl⟩
        · rw [List.mem_singleton.mp issued]
          exact ⟨rfl, account, ran, rfl, rfl⟩
  | resetChecked principal requestId encoded =>
      obtain ⟨account, ran, isEvent⟩ := finish_reports moved member
      rw [List.mem_singleton.mp isEvent]
      exact ⟨account, ran, rfl, rfl⟩

/-! ## The reads behind a point -/

/-- What a call has read before it reaches a point. -/
def ReadAt (services : Services Log) (records : Records Log) (point : Point) :
    Point → Prop
  | .called _ => False
  | .assertionVerified challengeId tenantId userId credential verified =>
      ∃ challenge credentialId response,
        point = .assertionLoaded challenge tenantId userId credentialId
            response ∧
          challengeId = challenge.challengeId ∧
          readAssertion services records challenge tenantId userId credentialId
            response = .ok (credential, verified)
  | .tenantsRead input tenants unverified =>
      (point = .called (.designate input) ∧
        readTenants records = .ok tenants ∧ unverified = tenants) ∨
      ∃ tenantId, point = .tenantsRead input tenants (tenantId :: unverified)
  | _ => True

theorem finish_readAt {Value : Type} {program : Program Log Value}
    {events : Value → List Event}
    (moved : finish records program events = (next, after, effect)) :
    ReadAt services records point next := by
  rw [(finish_eq moved).1]
  trivial

theorem answer_readAt {Value : Type} {verdict : Except DirectoryError Value}
    {events : Value → List Event}
    (moved : answer records verdict events = (next, after, effect)) :
    ReadAt services records point next := by
  rw [(answer_eq moved).1]
  trivial

theorem proceed_readAt {Value : Type} {verdict : Except DirectoryError Value}
    {further : Value → Point}
    (moved : proceed records verdict further = (next, after, effect))
    (reads : ∀ value, verdict = .ok value →
      ReadAt services records point (further value)) :
    ReadAt services records point next := by
  rcases (proceed_eq moved).2 with ⟨value, read, rfl, -⟩ | ⟨rfl, -⟩
  · exact reads value read
  · trivial

theorem begin_readAt {call : Call}
    (moved : begin services draw records call = (next, after, effect)) :
    ReadAt services records (.called call) next := by
  cases call with
  | issueBootstrapToken | beginBootstrap | completeBootstrap
  | beginAuthentication | completeAuthentication | completeRegistration
  | beginInvite | completeInvite | createAccount | login | changePassword
  | resetPassword | issueGrant =>
      exact proceed_readAt moved fun _ _ => trivial
  | designate input =>
      refine proceed_readAt moved fun tenants read => .inl ⟨rfl, ?_, rfl⟩
      obtain ⟨_, -, isRead⟩ := bind_eq_ok.mp read
      exact isRead
  | me | accountContext => exact answer_readAt moved
  | logout token =>
      rw [begin] at moved
      exact finish_readAt moved
  | collector request call =>
      simp only [begin, authenticateCollector] at moved
      split at moved
      · cases moved
        trivial
      · cases moved
        trivial
  | _ => exact finish_readAt moved

theorem resume_readAt
    (moved : resume services draw point records = (next, after, effect)) :
    ReadAt services records point next := by
  cases point with
  | idle =>
      cases moved
      trivial
  | called call => exact begin_readAt moved
  | bootstrapBegun | bootstrapMatched | bootstrapOpen | identified =>
      exact proceed_readAt moved fun _ _ => trivial
  | assertionLoaded challenge tenantId userId credentialId response =>
      exact proceed_readAt moved fun read isRead =>
        ⟨challenge, credentialId, response, rfl, rfl, isRead⟩
  | tenantsRead input tenants unverified =>
      cases unverified with
      | nil => exact finish_readAt moved
      | cons tenantId unverified =>
          exact proceed_readAt moved fun _ _ => .inr ⟨tenantId, rfl⟩
  | _ => exact finish_readAt moved

end Directory

end ControlForge
