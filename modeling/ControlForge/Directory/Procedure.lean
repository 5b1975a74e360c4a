import ControlForge.Access.Residue
import ControlForge.Directory.Steps
import ControlForge.Foundation.Interleaving

/-!
# The directory as a pool of calls

`footprint` names the tables a step may change, and `resume_moved` shows that it
changes no other, and none at all when it only goes on to the next step or is
refused.
-/

namespace ControlForge

namespace Directory

open Access
open Devices (SignedCollectorRequest CollectorError develops_statements)
open Transaction (Follows)

variable {Log : Type} {services : Services Log}

/-! ## Footprints -/

/-- The tables of the first step of a call. -/
@[simp] def Call.footprint : Call → List Part
  | .revokeBootstrapTokens => [.bootstrapTokens]
  | .beginRegistration _ => [.challenges]
  | .issueInvite _ _ | .revokeInvite _ _ => [.invites, .audit]
  | .recoverSession _ _ _ => [.recoveryCodes, .sessions, .sessionIds]
  | .revokeSession _ => [.sessions]
  | .createNetwork _ _ =>
      [.tenants, .namespaces, .users, .ownerMemberships, .audit]
  | .updateNetwork _ _ => networkTables
  | .adoptNamespace _ _ => [.namespaces, .networkRevisions, .audit]
  | .updateMember _ _ => memberTables
  | .updateAccount _ _ => accountTables
  | .logout _ => [.endpointSessions]
  | .requestReset _ => [.resetRequests, .audit]
  | .enrollmentGrant _ _ => [.grants, .accountGrants, .audit]
  | .claimGrant _ => claimTables
  | .revokeGrant _ _ => [.grants]
  | .revokeDevice _ _ => .grants :: collectorTables
  | .revokeCredential _ _ _ | .initiateRotation _ _ _ | .cancelRotation _ _
  | .collector _ _ => collectorTables
  | _ => []

/-- The tables of a step. -/
@[simp] def Point.footprint : Point → List Part
  | .called call => call.footprint
  | .tokenIssuable _ => [.bootstrapTokens]
  | .bootstrapUnconfigured _ | .challenged _ _ => [.challenges]
  | .bootstrapVerified _ _ _ => bootstrapTables
  | .assertionVerified _ _ _ _ _ =>
      [.challenges, .passkeys, .counters, .sessions, .sessionIds]
  | .registrationVerified _ _ _ _ => [.challenges, .passkeys]
  | .inviteRead _ => [.inviteChallenges]
  | .invitationVerified _ _ => inviteTables
  | .tenantsRead _ _ _ => ownerTables
  | .accountChecked _ _ _ => [.accounts, .audit]
  | .loginRead _ => [.endpointSessions]
  | .changeChecked _ _ | .resetChecked _ _ _ => passwordTables
  | .grantChecked _ _ => [.grants]
  | .deviceAuthenticated _ _ => .actions :: .audit :: collectorTables
  | _ => []

/-! ## Outcomes of a step -/

section Outcomes

variable {Value : Type} {records after : Records Log} {point : Point}
  {effect : Effect} {parts : List Part}

theorem proceed_eq {verdict : Except DirectoryError Value}
    {next : Value → Point}
    (moved : proceed records verdict next = (point, after, effect)) :
    after = records ∧
      ((∃ value, verdict = .ok value ∧ point = next value ∧
          effect = .continued) ∨
        (point = .idle ∧ effect = .refused)) := by
  unfold proceed at moved
  split at moved
  · next value =>
      cases moved
      exact ⟨rfl, .inl ⟨value, rfl, rfl, rfl⟩⟩
  · cases moved
    exact ⟨rfl, .inr ⟨rfl, rfl⟩⟩

theorem finish_eq {program : Program Log Value} {events : Value → List Event}
    (moved : finish records program events = (point, after, effect)) :
    point = .idle ∧
      ((∃ value, program records = .ok (value, after) ∧
          effect = .committed (events value)) ∨
        (after = records ∧ effect = .refused)) := by
  unfold finish at moved
  split at moved
  · next value middle succeeded =>
      cases moved
      exact ⟨rfl, .inl ⟨value, Transaction.commit_ok succeeded, rfl⟩⟩
  · next failure middle raised =>
      cases moved
      exact ⟨rfl, .inr ⟨Transaction.commit_error raised, rfl⟩⟩

theorem answer_eq {verdict : Except DirectoryError Value}
    {events : Value → List Event}
    (moved : answer records verdict events = (point, after, effect)) :
    point = .idle ∧ after = records ∧
      ((∃ value, verdict = .ok value ∧ effect = .committed (events value)) ∨
        effect = .refused) := by
  unfold answer at moved
  split at moved
  · next value =>
      cases moved
      exact ⟨rfl, rfl, .inl ⟨value, rfl, rfl⟩⟩
  · cases moved
    exact ⟨rfl, rfl, .inr rfl⟩

/-- A step touches only the listed tables, and none unless it commits. -/
structure Moved (parts : List Part) (before after : Records Log)
    (effect : Effect) : Prop where
  touches : Touches parts before after
  unchanged : (∀ events, effect ≠ .committed events) → after = before

theorem Moved.refl (parts : List Part) (records : Records Log)
    (effect : Effect) : Moved parts records records effect :=
  ⟨Std.Refl.refl _, fun _ => rfl⟩

theorem proceed_moved {verdict : Except DirectoryError Value}
    {next : Value → Point}
    (moved : proceed records verdict next = (point, after, effect)) :
    Moved parts records after effect := by
  rw [(proceed_eq moved).1]
  exact .refl _ _ _

theorem finish_moved {program : Program Log Value}
    {events : Value → List Event}
    (moved : finish records program events = (point, after, effect))
    (follows : Follows (Touches parts) program) :
    Moved parts records after effect := by
  rcases (finish_eq moved).2 with ⟨value, succeeded, rfl⟩ | ⟨rfl, -⟩
  · exact ⟨follows _ _ _ succeeded, fun pending => absurd rfl (pending _)⟩
  · exact .refl _ _ _

theorem answer_moved {verdict : Except DirectoryError Value}
    {events : Value → List Event}
    (moved : answer records verdict events = (point, after, effect)) :
    Moved parts records after effect := by
  rw [(answer_eq moved).2.1]
  exact .refl _ _ _

end Outcomes

/-! ## Steps -/

section Steps

variable {records after : Records Log} {draw : Draw} {effect : Effect}
  {point next : Point}

theorem touches_withCollectors {collectors : Devices.Database}
    (developed : records.collectors.Develops collectors) :
    Touches collectorTables records
      { records with
        toAppliance := records.toAppliance.withCollectors collectors } := by
  intro part outside
  simp only [collectorTables, List.mem_cons, not_or] at outside
  obtain ⟨devices, credentials, rotations, nonces, -⟩ := outside
  cases part with
  | credentialHistory => exact developed.credentials
  | deviceKeys => exact developed.keys
  | spentDevices => exact developed.devices
  | _ => first | trivial | exact Lasts.refl _ | exact Retained.refl _ _ _

/-- A request that is not authenticated changes nothing. -/
theorem authenticate_failed {authenticator : Devices.Authenticator}
    {request : SignedCollectorRequest} {now : Timestamp}
    {database collectors : Devices.Database} {failure : CollectorError}
    (failed : authenticator.authenticate request now database =
      (.error failure, collectors)) : collectors = database := by
  unfold Devices.Authenticator.authenticate at failed
  split at failed
  · cases failed
    rfl
  · exact Transaction.commit_error failed

theorem begin_moved {call : Call}
    (moved : begin services draw records call = (next, after, effect)) :
    Moved call.footprint records after effect := by
  cases call with
  | issueBootstrapToken | beginBootstrap | completeBootstrap
  | beginAuthentication | completeAuthentication | completeRegistration
  | beginInvite | completeInvite | designate | createAccount | login
  | changePassword | resetPassword | issueGrant =>
      exact proceed_moved moved
  | me | accountContext => exact answer_moved moved
  | revokeBootstrapTokens =>
      exact finish_moved moved
        (touches_updateBootstrapTokens List.mem_cons_self _ _ fun row =>
          ⟨rfl, fun _ => by simp [BootstrapTokenRow.ended]⟩)
  | beginRegistration principal =>
      exact finish_moved moved (touches_insertChallenge (by simp) _)
  | issueInvite principal input =>
      exact finish_moved moved (touches_issueInvite services _ _ _)
  | revokeInvite principal inviteId =>
      exact finish_moved moved (touches_revokeInvite services _ _ _)
  | recoverSession tenantSlug email recoveryCode =>
      exact finish_moved moved (touches_inAppliance
        (touchesIn_recoverSession _ (by simp) (by simp) (by simp) _ _ _ _))
  | revokeSession principal =>
      refine finish_moved moved (touches_inAppliance ?_)
      exact Follows.bind
        (touchesIn_revokeSessions (by simp) _ _)
        fun _ => Follows.pure _
  | createNetwork principal input =>
      exact finish_moved moved (touches_createNetwork services _ _ _)
  | updateNetwork principal input =>
      exact finish_moved moved (touches_updateNetwork services _ _ _)
  | adoptNamespace principal input =>
      exact finish_moved moved (touches_adoptNamespace services _ _ _)
  | updateMember principal input =>
      exact finish_moved moved (touches_updateMember services _ _ _)
  | updateAccount principal input =>
      exact finish_moved moved (touches_updateAccount services _ _ _)
  | logout token =>
      have follows : Follows (Touches [.endpointSessions])
          (logout services token) :=
        touches_deleteSessions List.mem_cons_self _
      rw [begin] at moved
      exact finish_moved moved follows
  | requestReset userName =>
      exact finish_moved moved (touches_requestReset services _ _)
  | enrollmentGrant token deviceId =>
      exact finish_moved moved (touches_enrollmentGrant services _ _ _)
  | claimGrant request =>
      exact finish_moved moved (touches_claimGrant services _ _)
  | revokeGrant tenantId tokenId =>
      exact finish_moved moved (touches_revokeGrant _ _ _)
  | revokeCredential tenantId deviceId credentialId =>
      exact finish_moved moved
        (touches_collectors (develops_statements.revokeCredential _ _ _ _))
  | revokeDevice tenantId deviceId =>
      exact finish_moved moved
        (touches_inAppliance (touchesIn_revokeDevice _ _ _))
  | initiateRotation principal deviceId lifetimeDays =>
      refine finish_moved moved (touches_inAppliance ?_)
      exact Follows.bind (Follows.ofExcept _)
        fun _ => touchesIn_collectors (List.Subset.refl _)
          (develops_statements.initiate _ _ _ _)
  | cancelRotation tenantId rotationId =>
      exact finish_moved moved
        (touches_collectors (develops_statements.cancel _ _ _))
  | collector request call =>
      simp only [begin, authenticateCollector] at moved
      split at moved
      · next authenticated =>
          cases moved
          have developed := (Devices.authenticate_ok authenticated).1
          exact ⟨touches_withCollectors developed,
            fun pending => absurd rfl (pending _)⟩
      · next failed =>
          cases moved
          rw [authenticate_failed failed]
          exact .refl _ _ _

/-- A step changes only the tables of its footprint, and nothing unless it
commits. -/
theorem resume_moved
    (moved : resume services draw point records = (next, after, effect)) :
    Moved point.footprint records after effect := by
  cases point with
  | idle =>
      cases moved
      exact .refl _ _ _
  | called call => exact begin_moved moved
  | bootstrapBegun | bootstrapMatched | bootstrapOpen | identified
  | assertionLoaded =>
      exact proceed_moved moved
  | tokenIssuable ttlSeconds =>
      exact finish_moved moved (touches_issueBootstrapToken services _ _)
  | bootstrapUnconfigured context =>
      exact finish_moved moved
        (touches_insertChallenge List.mem_cons_self _)
  | bootstrapVerified challengeId context verified =>
      exact finish_moved moved (touches_completeBootstrap services _ _ _ _)
  | challenged tenantId userId =>
      exact finish_moved moved
        (touches_insertChallenge List.mem_cons_self _)
  | assertionVerified challengeId tenantId userId credential verified =>
      exact finish_moved moved
        (touches_completeAuthentication services _ _ _ _ _ _)
  | registrationVerified principal challengeId label verified =>
      exact finish_moved moved (touches_completeRegistration _ _ _ _ _)
  | inviteRead invite =>
      exact finish_moved moved (touches_beginInvite services _ _)
  | invitationVerified invitation verified =>
      exact finish_moved moved (touches_completeInvite services _ _ _)
  | tenantsRead input tenants unverified =>
      cases unverified with
      | nil => exact finish_moved moved (touches_designate services _ _ _)
      | cons tenantId unverified => exact proceed_moved moved
  | accountChecked principal input encoded =>
      exact finish_moved moved (touches_createAccount services _ _ _ _)
  | loginRead account =>
      exact finish_moved moved (touches_login services _ _)
  | changeChecked token encoded =>
      exact finish_moved moved (touches_changePassword services _ _ _)
  | resetChecked principal requestId encoded =>
      exact finish_moved moved (touches_resetPassword services _ _ _ _)
  | grantChecked principal input =>
      exact finish_moved moved (touches_inAppliance
        (touchesIn_insertGrant List.mem_cons_self _))
  | deviceAuthenticated device call =>
      exact finish_moved moved (touches_inAppliance
        (touchesIn_collectorTransaction _ _ _ _))

end Steps

/-! ## The pool -/

abbrev Label : Type :=
  PoolLabel Draw Effect

@[simp] def eventsOf : Label → List Event
  | .resume _ _ effect => effect.events
  | .begin _ | .drop _ | .outside => []

/-- Only the steps of the calls report anything. -/
theorem eventsOf_unseen {label : Label}
    (unseen : ∀ index draw effect, label ≠ .resume index draw effect) :
    eventsOf label = [] := by
  cases label with
  | resume index draw effect => exact absurd rfl (unseen index draw effect)
  | _ => rfl

/-- What the calls of a run have reported, in order. -/
def reported (labels : List Label) : List Event :=
  labels.flatMap eventsOf

@[simp] theorem reported_nil : reported [] = [] := rfl

@[simp] theorem reported_snoc (labels : List Label) (label : Label) :
    reported (labels ++ [label]) = reported labels ++ eventsOf label := by
  simp [reported]

theorem reported_append (labels later : List Label) :
    reported (labels ++ later) = reported labels ++ reported later := by
  simp [reported]

/-- The services of the directory.  Responses, telemetry, cases and retention
change the records from outside. -/
def procedure (services : Services Log) :
    Procedure (Records Log) Point Draw Effect where
  idle := .idle
  starts point := ∃ call, point = .called call
  resume := resume services
  outside := Touches [.actions, .audit, .rest]

/-! ## A small appliance -/

/-- The text a response carries under a name. -/
def textOf (response : Dict) (name : String) : Option String :=
  match response.members.lookup name with
  | some (.str text) => some text
  | _ => none

/-- The counter a response carries. -/
def countOf (response : Dict) : Option Nat :=
  match response.members.lookup "count" with
  | some (.int count) => some count.toNat
  | _ => none

/-- An adapter that believes what a response says, and compares counters. -/
def samplePasskeys : PasskeyAdapter where
  verifyRegistration response _ :=
    (textOf response "id").map fun credentialId => ⟨credentialId, [], 0⟩
  responseCredentialId response := textOf response "id"
  verifyAuthentication response _ _ current := do
    let credentialId ← textOf response "id"
    let count ← countOf response
    if current < count ∨ current = 0 ∧ count = 0 then
      some ⟨credentialId, count⟩
    else none

def sampleServices : Services Unit where
  toDeployment := sampleDeployment
  passkeys := samplePasskeys
  challengeTtlSeconds := 300
  baseDomain := some "example.test"
  lower := id
  derivePassword password _ := password
  verifyPassword password encoded := password = encoded
  tokenHash token := token
  operatorId := "operator"
  challengeTtl := by decide

def drawAt (now : Timestamp) (id : String) : Draw where
  toDraw := { sampleDraw with now, id, token := "token-of-" ++ id }
  challenge := []
  salt := []
  operatorReady := true

/-- An appliance with two administrators, and nothing under way. -/
def sampleRecords : Records Unit where
  toAppliance := sampleAppliance
  bootstrapTokens := .empty
  passkeys := .empty
  namespaces := .empty
  accounts := .empty
  accountRevisions := []
  accountGrants := .empty
  resetRequests := .empty
  deviceProfiles := []
  initialCredentials := []

/-- Resumes of one call. -/
def resumes (index count : Nat) (draw : Draw) :
    List (Procedure.Command Point Draw) :=
  List.replicate count (.resume index draw)

end Directory

end ControlForge
