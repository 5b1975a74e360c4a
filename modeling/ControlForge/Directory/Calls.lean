import ControlForge.Access.Requests
import ControlForge.Directory.Grants

/-!
# The calls of the services, step by step

A call passes its reads one after another and ends with a transaction, or is
refused on the way.  Any number of calls are under way at once, and between two
steps of a call anything may happen.
-/

namespace ControlForge

namespace Directory

open Access
open Devices (AuthenticatedDevice SignedCollectorRequest)

/-! ## Calls -/

inductive Call where
  | issueBootstrapToken (ttlSeconds : Int)
  | revokeBootstrapTokens
  | beginBootstrap (input : BootstrapInput)
  | completeBootstrap (token challengeId : String) (response : Dict)
  | beginAuthentication (tenantSlug email : String)
  | completeAuthentication (challengeId : String) (response : Dict)
  | beginRegistration (principal : SessionPrincipal)
  | completeRegistration (principal : SessionPrincipal) (challengeId : String)
      (response : Dict) (label : String)
  | issueInvite (principal : SessionPrincipal) (input : InviteInput)
  | beginInvite (token : String)
  | completeInvite (token challengeId : String) (response : Dict)
  | revokeInvite (principal : SessionPrincipal) (inviteId : String)
  | recoverSession (tenantSlug email recoveryCode : String)
  | revokeSession (principal : SessionPrincipal)
  | createNetwork (principal : SessionPrincipal) (input : NetworkInput)
  | designate (input : Designation)
  | updateNetwork (principal : SessionPrincipal) (input : NetworkUpdate)
  | adoptNamespace (principal : SessionPrincipal) (input : NamespaceInput)
  | updateMember (principal : SessionPrincipal) (input : MemberUpdate)
  | updateAccount (principal : SessionPrincipal) (input : AccountUpdate)
  | createAccount (principal : SessionPrincipal) (input : AccountInput)
  | login (userName password : String)
  | me (token : String)
  | logout (token : String)
  | changePassword (token password : String)
  | requestReset (userName : String)
  | resetPassword (principal : SessionPrincipal) (requestId : String)
  | enrollmentGrant (token deviceId : String)
  | accountContext (token : String)
  | issueGrant (principal : SessionPrincipal) (input : GrantInput)
  | claimGrant (request : ClaimRequest)
  | revokeGrant (tenantId tokenId : String)
  | revokeCredential (tenantId deviceId credentialId : String)
  | revokeDevice (tenantId deviceId : String)
  | initiateRotation (principal : SessionPrincipal) (deviceId : String)
      (lifetimeDays : Int)
  | cancelRotation (tenantId rotationId : String)
  | collector (request : SignedCollectorRequest) (call : CollectorCall)

/-- Where a call is, with what it has read. -/
inductive Point where
  | idle
  | called (call : Call)
  | tokenIssuable (ttlSeconds : Int)
  | bootstrapBegun (context : BootstrapContext)
  | bootstrapUnconfigured (context : BootstrapContext)
  | bootstrapMatched (challenge : ChallengeRow) (context : BootstrapContext)
      (response : Dict)
  | bootstrapOpen (challenge : ChallengeRow) (context : BootstrapContext)
      (response : Dict)
  | bootstrapVerified (challengeId : String) (context : BootstrapContext)
      (verified : RegistrationVerification)
  | identified (tenantId userId : String)
  | challenged (tenantId userId : String)
  | assertionLoaded (challenge : ChallengeRow)
      (tenantId userId credentialId : String) (response : Dict)
  | assertionVerified (challengeId tenantId userId : String)
      (credential : PasskeyRow) (verified : AuthenticationVerification)
  | registrationVerified (principal : SessionPrincipal)
      (challengeId label : String) (verified : RegistrationVerification)
  | inviteRead (invite : InviteRow)
  | invitationVerified (invitation : Invitation)
      (verified : RegistrationVerification)
  | tenantsRead (input : Designation) (tenants unverified : List String)
  | accountChecked (principal : SessionPrincipal) (input : AccountInput)
      (encoded : String)
  | loginRead (account : AccountRow)
  | changeChecked (token encoded : String)
  | resetChecked (principal : SessionPrincipal) (requestId encoded : String)
  | grantChecked (principal : SessionPrincipal) (input : GrantInput)
  | deviceAuthenticated (device : AuthenticatedDevice) (call : CollectorCall)

/-! ## What a call reports -/

/-- A secret a sign-in consumes. -/
inductive Secret where
  | challenge (challengeId : String)
  | inviteChallenge (challengeId : String)
  | bootstrapToken (tokenHash : String)
  | invite (tokenHash : String)
  | recoveryCode (tenantId codeHash : String)
deriving DecidableEq

/-- What a revision is kept for. -/
inductive ManagedObject where
  | network (tenantId : String)
  | member (tenantId userId : String)
  | account (tenantId accountId : String)
deriving DecidableEq

inductive Event where
  | bootstrapped
  | signedIn (secrets : List Secret) (sessionId : String)
  /-- The counter of a passkey was accepted. -/
  | asserted (tenantId credentialId : String) (signCount : Nat)
  | updated (object : ManagedObject) (expected : Int) (changed : Bool)
  | suspended (tenantId : String)
  | passwordReplaced (tenantId accountId : String)
  | signInChanged (tenantId accountId : String)
  | sessionIssued (tenantId accountId tokenHash : String)
  | sessionAccepted (tenantId accountId tokenHash : String)
  | grantIssued (tenantId accountId tokenId : String)
  | grantAccepted (tokenId : String)
  | claimed (claim : Claimed)
  | deviceSeen (device : AuthenticatedDevice)

/-- The effect of a step: the call goes on after a read, is refused, or has
committed a transaction or answered, with what it reports. -/
inductive Effect where
  | continued
  | refused
  | committed (events : List Event)

@[simp] def Effect.events : Effect → List Event
  | .continued | .refused => []
  | .committed events => events

section Steps

variable {Log : Type} (services : Services Log)

/-- A read: go on, or refuse the call. -/
def proceed {Value : Type} (records : Records Log)
    (verdict : Except DirectoryError Value) (next : Value → Point) :
    Point × Records Log × Effect :=
  match verdict with
  | .ok value => (next value, records, .continued)
  | .error _ => (.idle, records, .refused)

/-- The last step: the transaction commits, or rolls back. -/
def finish {Value : Type} (records : Records Log)
    (program : Program Log Value) (events : Value → List Event) :
    Point × Records Log × Effect :=
  match program.commit records with
  | (.ok value, after) => (.idle, after, .committed (events value))
  | (.error _, after) => (.idle, after, .refused)

def refuseUnless (condition : Bool) (failure : DirectoryError) :
    Except DirectoryError Unit :=
  if condition then .ok () else .error failure

def found {Value : Type} (value : Option Value) (failure : DirectoryError) :
    Except DirectoryError Value :=
  match value with
  | some value => .ok value
  | none => .error failure

/-! ## The first steps -/

def inactiveBootstrap : DirectoryError :=
  .bootstrap "bootstrap token is inactive"

def cannotStart : DirectoryError :=
  .access (.challenge "authentication cannot be started")

/-- What `complete_bootstrap` loads: the challenge and its context. -/
def loadBootstrap (records : Records Log) (token challengeId : String)
    (now : Timestamp) :
    Except DirectoryError (ChallengeRow × BootstrapContext) := do
  let challenge ← loadChallenge records challengeId .bootstrap now
  let context ← matchedContext services challenge token
  return (challenge, context)

/-- What `complete_authentication` loads: the challenge, its identity and the
credential the response names. -/
def loadAssertion (records : Records Log) (challengeId : String)
    (response : Dict) (now : Timestamp) :
    Except DirectoryError (ChallengeRow × (String × String) × String) := do
  let challenge ← loadChallenge records challengeId .authentication now
  let identity ← challengeIdentity challenge
  let credentialId ← found (services.passkeys.responseCredentialId response)
    (.access (.challenge "passkey assertion has no valid credential"))
  return (challenge, identity, credentialId)

/-- The credential of the response, and the verdict on its assertion. -/
def readAssertion (records : Records Log) (challenge : ChallengeRow)
    (tenantId userId credentialId : String) (response : Dict) :
    Except DirectoryError (PasskeyRow × AuthenticationVerification) := do
  let credential ← found (readPasskey records tenantId userId credentialId)
    (.access (.challenge "passkey assertion credential is unavailable"))
  let verified ← verifyAssertion services response challenge credential
  return (credential, verified)

/-- What `complete_passkey_registration` loads and verifies. -/
def loadRegistration (records : Records Log) (principal : SessionPrincipal)
    (challengeId : String) (response : Dict) (label : String)
    (now : Timestamp) : Except DirectoryError RegistrationVerification := do
  let challenge ← loadChallenge records challengeId .registration now
  checkRegistration principal challenge label
  found (services.passkeys.verifyRegistration response challenge.challenge)
    (.access (.challenge "passkey registration verification failed"))

/-- What `complete_human_invite` reads and verifies. -/
def readInvitation (records : Records Log) (token challengeId : String)
    (response : Dict) (now : Timestamp) :
    Except DirectoryError (Invitation × RegistrationVerification) := do
  let invitation ← (loadInvitation services.toDeployment records.toAppliance
    token challengeId now).mapError .access
  let verified ← found (services.passkeys.verifyRegistration response
      invitation.challenge.challenge)
    (.access (.humanInvite "invite passkey verification failed"))
  return (invitation, verified)

/-- What a call for a new account checks before its transaction. -/
def prepareAccount (records : Records Log) (principal : SessionPrincipal)
    (input : AccountInput) (draw : Draw) : Except DirectoryError String := do
  requireAdmin principal records
  checkAccount services input draw

/-- What a call for a new password checks before its transaction. -/
def prepareReset (records : Records Log) (principal : SessionPrincipal)
    (draw : Draw) : Except DirectoryError String := do
  requireAdmin principal records
  hashPassword services draw.token draw.salt

def sessionEvents (token : String) (account : AccountRow) : List Event :=
  [.sessionAccepted account.tenantId account.accountId
    (services.tokenHash token)]

/-- A new session of an account. -/
def signInEvents (draw : Draw) (account : AccountRow) : List Event :=
  [.sessionIssued account.tenantId account.accountId
    (services.tokenHash draw.token)]

def networkEvents (input : NetworkUpdate)
    (result : Bool × Option AuthorityChange) : List Event :=
  .updated (.network input.tenantId) input.revision result.1 ::
    match result.2 with
    | some _ => [.suspended input.tenantId]
    | none => []

def accountEvents (principal : SessionPrincipal) (input : AccountUpdate)
    (change : AccountChange) : List Event :=
  .updated (.account principal.tenantId input.accountId) input.revision
      (change ≠ .unchanged) ::
    if change = .signIn then
      [.signInChanged principal.tenantId input.accountId] else []

/-- A claim accepts the grant it is answered with. -/
def claimEvents (claim : Claimed) : List Event :=
  [.grantAccepted claim.tokenId, .claimed claim]

/-- A read-only call. -/
def answer {Value : Type} (records : Records Log)
    (verdict : Except DirectoryError Value) (events : Value → List Event) :
    Point × Records Log × Effect :=
  match verdict with
  | .ok value => (.idle, records, .committed (events value))
  | .error _ => (.idle, records, .refused)

/-- The collector's own authentication, a transaction before its call. -/
def authenticateCollector (request : SignedCollectorRequest)
    (call : CollectorCall) (now : Timestamp) (records : Records Log) :
    Point × Records Log × Effect :=
  match services.rotations.authenticator.authenticate request now
      records.collectors with
  | (.ok device, after) =>
      (.deviceAuthenticated device call,
        { records with
          toAppliance := records.toAppliance.withCollectors after },
        .committed [.deviceSeen device])
  | (.error _, after) =>
      (.idle,
        { records with
          toAppliance := records.toAppliance.withCollectors after },
        .refused)

/-- The first step of a call, and the only one of most. -/
def begin (draw : Draw) (records : Records Log) :
    Call → Point × Records Log × Effect
  | .issueBootstrapToken ttlSeconds =>
      proceed records
        (if ttlSeconds < 60 ∨ 3600 < ttlSeconds then
            .error (.bootstrap
              "bootstrap ttl must be between 60 and 3600 seconds")
          else refuseUnless (configured records = false)
            (.bootstrap "standalone bootstrap is already complete"))
        fun _ => .tokenIssuable ttlSeconds
  | .revokeBootstrapTokens =>
      finish records (revokeBootstrapTokens draw.now) fun _ => []
  | .beginBootstrap input =>
      proceed records
        (do
          let context ← bootstrapContext services input draw.secondId
          refuseUnless (openBootstrapToken records context.tokenHash draw.now)
            inactiveBootstrap
          return context)
        .bootstrapBegun
  | .completeBootstrap token challengeId response =>
      proceed records (loadBootstrap services records token challengeId draw.now)
        fun loaded => .bootstrapMatched loaded.1 loaded.2 response
  | .beginAuthentication tenantSlug email =>
      proceed records
        (do
          let normalized ←
            (normalizeEmail services.toDeployment email).mapError .access
          found (signInIdentity records tenantSlug normalized) cannotStart)
        fun user => .identified user.tenantId user.userId
  | .completeAuthentication challengeId response =>
      proceed records (loadAssertion services records challengeId response
          draw.now)
        fun loaded => .assertionLoaded loaded.1 loaded.2.1.1 loaded.2.1.2
          loaded.2.2 response
  | .beginRegistration principal =>
      finish records
        (createChallenge services .registration (some principal.tenantId)
          (some principal.userId) none draw)
        fun _ => []
  | .completeRegistration principal challengeId response label =>
      proceed records
        (loadRegistration services records principal challengeId response label
          draw.now)
        fun verified =>
          .registrationVerified principal challengeId label verified
  | .issueInvite principal input =>
      finish records (issueInvite services principal input draw) fun _ => []
  | .beginInvite token =>
      proceed records
        (found (openInvite services records token draw.now)
          (.access (.humanInvite "human invite is inactive")))
        .inviteRead
  | .completeInvite token challengeId response =>
      proceed records
        (readInvitation services records token challengeId response draw.now)
        fun read => .invitationVerified read.1 read.2
  | .revokeInvite principal inviteId =>
      finish records (revokeInvite services principal inviteId draw.now)
        fun _ => []
  | .recoverSession tenantSlug email recoveryCode =>
      finish records
        (inAppliance (recoverSession services.toDeployment tenantSlug email
          recoveryCode draw.toDraw))
        fun identity => [.signedIn
          [.recoveryCode identity.1 (services.recoveryHash recoveryCode)]
          draw.id]
  | .revokeSession principal =>
      finish records (inAppliance (revokeSession principal draw.now))
        fun _ => []
  | .createNetwork principal input =>
      finish records (createNetwork services principal input draw) fun _ => []
  | .designate input =>
      proceed records
        (do
          checkDesignation input draw.operatorReady
          readTenants records)
        fun tenants => .tenantsRead input tenants tenants
  | .updateNetwork principal input =>
      finish records (updateNetwork services principal input draw.now)
        (networkEvents input)
  | .adoptNamespace principal input =>
      finish records (adoptNamespace services principal input draw.now)
        fun _ => [.updated (.network input.tenantId) input.revision true]
  | .updateMember principal input =>
      finish records (updateMember services principal input draw.now)
        fun changed => [.updated (.member principal.tenantId input.userId)
          input.revision changed]
  | .updateAccount principal input =>
      finish records (updateAccount services principal input draw.now)
        (accountEvents principal input)
  | .createAccount principal input =>
      proceed records (prepareAccount services records principal input draw)
        (.accountChecked principal input)
  | .login userName password =>
      proceed records (readLogin services records userName password) .loginRead
  | .me token =>
      answer records
        ((readSession services records token draw.now false).mapError .access)
        (sessionEvents services token)
  | .logout token => finish records (logout services token) fun _ => []
  | .changePassword token password =>
      proceed records (checkChange services records token password draw)
        (.changeChecked token)
  | .requestReset userName =>
      finish records (requestReset services userName draw) fun _ => []
  | .resetPassword principal requestId =>
      proceed records (prepareReset services records principal draw)
        (.resetChecked principal requestId)
  | .enrollmentGrant token deviceId =>
      finish records (enrollmentGrant services token deviceId draw)
        fun account => sessionEvents services token account ++
          [.grantIssued account.tenantId account.accountId draw.id]
  | .accountContext token =>
      answer records
        (found (accountContext services records token draw.now)
          (.access (.enrollment
            "account enrollment context is unavailable")))
        fun context => [.grantAccepted context.1.tokenId]
  | .issueGrant principal input =>
      proceed records
        ((checkGrant principal input records.toAppliance).mapError .access)
        fun _ => .grantChecked principal input
  | .claimGrant request =>
      finish records (claimGrant services request draw) claimEvents
  | .revokeGrant tenantId tokenId =>
      finish records (revokeGrant tenantId tokenId draw.now) fun _ => []
  | .revokeCredential tenantId deviceId credentialId =>
      finish records
        (inAppliance (inCollectors (Devices.revokeCredentialTransaction
          tenantId deviceId credentialId draw.now)))
        fun _ => []
  | .revokeDevice tenantId deviceId =>
      finish records (inAppliance (revokeDevice tenantId deviceId draw.now))
        fun _ => []
  | .initiateRotation principal deviceId lifetimeDays =>
      finish records
        (inAppliance do
          Transaction.ofExcept
            ((Devices.RotationService.checkInitiation
              (initiation principal deviceId lifetimeDays)).mapError .rotation)
          inCollectors (services.rotations.initiateTransaction
            (initiation principal deviceId lifetimeDays) draw.rotation
            draw.now))
        fun _ => []
  | .cancelRotation tenantId rotationId =>
      finish records
        (inAppliance (inCollectors
          (Devices.RotationService.cancelTransaction tenantId rotationId
            draw.now)))
        fun _ => []
  | .collector request call =>
      authenticateCollector services request call draw.now records

/-! ## The further steps -/

def resume (draw : Draw) (point : Point) (records : Records Log) :
    Point × Records Log × Effect :=
  match point with
  | .idle => (.idle, records, .refused)
  | .called call => begin services draw records call
  | .tokenIssuable ttlSeconds =>
      finish records (issueBootstrapToken services ttlSeconds draw)
        fun _ => []
  | .bootstrapBegun context =>
      proceed records
        (refuseUnless (configured records = false) inactiveBootstrap)
        fun _ => .bootstrapUnconfigured context
  | .bootstrapUnconfigured context =>
      finish records
        (createChallenge services .bootstrap none none (some context) draw)
        fun _ => []
  | .bootstrapMatched challenge context response =>
      proceed records
        (refuseUnless (openBootstrapToken records context.tokenHash draw.now)
          inactiveBootstrap)
        fun _ => .bootstrapOpen challenge context response
  | .bootstrapOpen challenge context response =>
      proceed records
        (do
          refuseUnless (configured records = false) inactiveBootstrap
          found (services.passkeys.verifyRegistration response
              challenge.challenge)
            (.access (.challenge "passkey registration verification failed")))
        (.bootstrapVerified challenge.challengeId context)
  | .bootstrapVerified challengeId context verified =>
      finish records
        (completeBootstrap services challengeId context verified draw)
        fun _ => [.bootstrapped, .signedIn
          [.challenge challengeId, .bootstrapToken context.tokenHash] draw.id]
  | .identified tenantId userId =>
      proceed records
        (refuseUnless (hasPasskey records tenantId userId) cannotStart)
        fun _ => .challenged tenantId userId
  | .challenged tenantId userId =>
      finish records
        (createChallenge services .authentication (some tenantId)
          (some userId) none draw)
        fun _ => []
  | .assertionLoaded challenge tenantId userId credentialId response =>
      proceed records
        (readAssertion services records challenge tenantId userId credentialId
          response)
        fun read => .assertionVerified challenge.challengeId tenantId userId
          read.1 read.2
  | .assertionVerified challengeId tenantId userId credential verified =>
      finish records
        (completeAuthentication services challengeId tenantId userId
          credential.credentialId verified.newSignCount draw)
        fun _ => [
          .asserted tenantId credential.credentialId verified.newSignCount,
          .signedIn [.challenge challengeId] draw.id]
  | .registrationVerified principal challengeId label verified =>
      finish records
        (completeRegistration principal challengeId label verified draw)
        fun _ => []
  | .inviteRead invite =>
      finish records (beginInvite services invite draw) fun _ => []
  | .invitationVerified invitation verified =>
      finish records (completeInvite services invitation verified draw)
        fun _ => [.signedIn
          [.inviteChallenge invitation.challenge.challengeId,
            .invite invitation.invite.tokenHash] draw.id]
  | .tenantsRead input tenants [] =>
      finish records (designate services input tenants draw.now) fun _ => []
  | .tenantsRead input tenants (tenantId :: unverified) =>
      proceed records (verifyChain services records tenantId)
        fun _ => .tenantsRead input tenants unverified
  | .accountChecked principal input encoded =>
      finish records (createAccount services principal input encoded draw)
        fun _ => []
  | .loginRead account =>
      finish records (login services account draw) (signInEvents services draw)
  | .changeChecked token encoded =>
      finish records (changePassword services token encoded draw)
        fun account => sessionEvents services token account ++
          .passwordReplaced account.tenantId account.accountId ::
            signInEvents services draw account
  | .resetChecked principal requestId encoded =>
      finish records (resetPassword services principal requestId encoded draw)
        fun account => [.passwordReplaced account.tenantId account.accountId]
  | .grantChecked principal input =>
      finish records
        (inAppliance (issueGrant services.toDeployment principal input
          draw.toDraw))
        fun _ => []
  | .deviceAuthenticated device call =>
      finish records
        (inAppliance (collectorTransaction services.toDeployment device
          draw.toDraw call))
        fun _ => []

end Steps

end Directory

end ControlForge
