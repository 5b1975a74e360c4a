import ControlForge.Access.Authority
import ControlForge.Response.Deadlines

/-!
# No residual authority

A request may be overtaken at any of its points by the change of a member or by
the suspension of a network.  `Point.needs` is what a request goes on relying
on without another look; an operation that looks its authority up again inside
its transaction relies on nothing.
-/

namespace ControlForge

namespace Access

open Response (ActionRow)
open Transaction (Follows)

variable {Log : Type} {deployment : Deployment Log}

/-! ## Transactions -/

section Transactions

variable {principal : SessionPrincipal} {draw : Draw}
  {operation : Operation} {before after : Appliance Log}
  {change : Option AuthorityChange}

theorem run_unchanging {Value : Type} {program : Program Log Value}
    (ran : unchanging program before = .ok (change, after)) :
    change = none ∧ ∃ value, program before = .ok (value, after) := by
  obtain ⟨value, middle, first, returned⟩ := Transaction.run_bind_ok.mp ran
  cases returned
  exact ⟨rfl, value, first⟩

/-- The change of an operation that is not one of members or of networks. -/
theorem transaction_unchanged
    (notMember : ∀ input, operation ≠ .updateMember input)
    (notNetwork : ∀ input, operation ≠ .updateNetwork input)
    (ran : transaction deployment principal draw operation before =
      .ok (change, after)) : change = none := by
  cases operation with
  | updateMember input => exact absurd rfl (notMember input)
  | updateNetwork input => exact absurd rfl (notNetwork input)
  | issueHumanInvite input =>
      obtain ⟨_, _, -, issued⟩ := Transaction.run_bind_ok.mp ran
      exact (run_unchanging issued).1
  | _ => exact (run_unchanging ran).1

theorem transaction_enacts
    (ran : transaction deployment principal draw operation before =
      .ok (change, after)) : Enacts change before after := by
  by_cases isMember : ∃ input, operation = .updateMember input
  · obtain ⟨input, rfl⟩ := isMember
    exact (updateMember_enacts ran).2
  · by_cases isNetwork : ∃ input, operation = .updateNetwork input
    · obtain ⟨input, rfl⟩ := isNetwork
      exact (updateNetwork_enacts ran).2
    · have notMember := not_exists.mp isMember
      have notNetwork := not_exists.mp isNetwork
      rw [transaction_unchanged notMember notNetwork ran]
      apply Quiet.enacts
      exact quiet_transaction principal draw operation notMember notNetwork
        _ _ _ ran

/-- A response transaction that begins with the capability check. -/
theorem holds_of_inResponse {Value : Type} {capability : Capability}
    {now : Timestamp} {rest : Unit → Response.Program Log Value} {value : Value}
    (ran : inResponse
      (Response.requireCurrentCapability principal capability now >>= rest)
        before = .ok (value, after)) :
    holds before.identity
      ⟨principal.tenantId, principal.userId, capability⟩ = true := by
  unfold inResponse at ran
  split at ran
  · next inner =>
      obtain ⟨_, _, checked, -⟩ := Transaction.run_bind_ok.mp inner
      exact holds_of_current
        (Response.run_requireCurrentCapability.mp checked).1
  · cases ran

/-- An operation that rechecks commits only with its authority. -/
theorem transaction_holds (rechecks : operation.rechecks = true)
    (ran : transaction deployment principal draw operation before =
      .ok (change, after)) {authority : Authority}
    (needed : operation.authority principal = some authority) :
    holds before.identity authority = true := by
  cases operation with
  | issueHumanInvite input =>
      cases needed
      obtain ⟨_, _, normalized, issued⟩ := Transaction.run_bind_ok.mp ran
      obtain ⟨-, rfl⟩ := Transaction.run_ofExcept_eq_ok.mp normalized
      obtain ⟨_, inserted⟩ := (run_unchanging issued).2
      obtain ⟨_, _, checked, -⟩ := Transaction.run_bind_ok.mp inserted
      exact (holds_of_requireCurrentCapability checked).1
  | proposeResponse =>
      cases needed
      obtain ⟨_, proposed⟩ := (run_unchanging ran).2
      exact holds_of_inResponse proposed
  | approveResponse =>
      cases needed
      obtain ⟨_, approved⟩ := (run_unchanging ran).2
      exact holds_of_inResponse approved
  | rejectResponse =>
      cases needed
      obtain ⟨_, rejected⟩ := (run_unchanging ran).2
      exact holds_of_inResponse rejected
  | updateMember =>
      cases needed
      exact (updateMember_enacts ran).1
  | updateNetwork =>
      cases needed
      exact (updateNetwork_enacts ran).1
  | _ => cases rechecks

end Transactions

/-! ## Sign-ins and invitations -/

section SignIn

variable {draw : Draw} {before after : Appliance Log}

theorem holds_of_issueSession {tenantId userId : String} {value : Unit}
    (ran : issueSession deployment tenantId userId draw before =
      .ok (value, after)) :
    holds before.identity ⟨tenantId, userId, .view⟩ = true := by
  obtain ⟨_, _, read, afterRead⟩ := Transaction.run_bind_ok.mp ran
  cases read
  obtain ⟨_, _, allowed, -⟩ := Transaction.run_bind_ok.mp afterRead
  exact holds_of_signInAllowed (Transaction.run_require_ok.mp allowed).1

theorem holds_of_completeAuthentication {challengeId tenantId userId : String}
    {value : Unit}
    (ran : completeAuthentication deployment challengeId tenantId userId draw
      before = .ok (value, after)) :
    holds before.identity ⟨tenantId, userId, .view⟩ = true := by
  obtain ⟨_, _, verified, afterVerified⟩ := Transaction.run_bind_ok.mp ran
  obtain ⟨-, rfl⟩ := Transaction.run_require_ok.mp verified
  obtain ⟨_, _, consumed, afterConsumed⟩ :=
    Transaction.run_bind_ok.mp afterVerified
  cases consumed
  obtain ⟨_, _, once, issued⟩ := Transaction.run_bind_ok.mp afterConsumed
  obtain ⟨-, rfl⟩ := Transaction.run_require_ok.mp once
  have held := holds_of_issueSession issued
  exact held

theorem holds_of_recoverSession {tenantSlug email recoveryCode : String}
    {identity : String × String}
    (ran : recoverSession deployment tenantSlug email recoveryCode draw before =
      .ok (identity, after)) :
    holds before.identity ⟨identity.1, identity.2, .view⟩ = true := by
  obtain ⟨normalized, start, normalizing, afterEmail⟩ :=
    Transaction.run_bind_ok.mp ran
  obtain ⟨-, rfl⟩ := Transaction.run_ofExcept_eq_ok.mp normalizing
  obtain ⟨_, _, read, afterRead⟩ := Transaction.run_bind_ok.mp afterEmail
  cases read
  cases isFound : recoverable start tenantSlug normalized
      (deployment.recoveryHash recoveryCode) with
  | none =>
      rw [isFound] at afterRead
      cases afterRead
  | some code =>
      rw [isFound] at afterRead
      obtain ⟨_, _, used, afterUse⟩ := Transaction.run_bind_ok.mp afterRead
      cases used
      obtain ⟨_, _, issued, returned⟩ := Transaction.run_bind_ok.mp afterUse
      cases returned
      have held := holds_of_issueSession issued
      exact held

theorem holds_of_requireIssuer {tenantId inviteId issuer : String}
    (ran : requireIssuer tenantId inviteId before = .ok (issuer, after)) :
    holds before.identity ⟨tenantId, issuer, .manage⟩ = true := by
  obtain ⟨_, _, read, afterRead⟩ := Transaction.run_bind_ok.mp ran
  cases read
  cases isFound : before.invites.rows.find? fun row =>
      row.inviteId = inviteId with
  | none =>
      rw [isFound] at afterRead
      cases afterRead
  | some stored =>
      rw [isFound] at afterRead
      obtain ⟨_, _, admin, returned⟩ := Transaction.run_bind_ok.mp afterRead
      obtain ⟨isAdmin, rfl⟩ := Transaction.run_require_ok.mp admin
      cases returned
      exact holds_of_activeAdmin isAdmin

/-- An invitation is accepted on the authority its issuer still has. -/
theorem holds_of_completeHumanInvite {invitation : Invitation}
    {issuer : String}
    (ran : completeHumanInvite deployment invitation draw before =
      .ok (issuer, after)) :
    holds before.identity ⟨invitation.invite.tenantId, issuer, .manage⟩ =
      true := by
  obtain ⟨_, _, verified, afterVerified⟩ := Transaction.run_bind_ok.mp ran
  obtain ⟨-, rfl⟩ := Transaction.run_require_ok.mp verified
  obtain ⟨_, _, challenges, afterChallenges⟩ :=
    Transaction.run_bind_ok.mp afterVerified
  cases challenges
  obtain ⟨_, _, invites, afterInvites⟩ :=
    Transaction.run_bind_ok.mp afterChallenges
  have others := (closeInvites_rows invites).1
  obtain ⟨_, _, once, afterOnce⟩ := Transaction.run_bind_ok.mp afterInvites
  obtain ⟨-, rfl⟩ := Transaction.run_require_ok.mp once
  obtain ⟨_, _, required, afterRequired⟩ := Transaction.run_bind_ok.mp afterOnce
  have held := holds_of_requireIssuer required
  obtain ⟨_, _, -, afterUser⟩ := Transaction.run_bind_ok.mp afterRequired
  obtain ⟨_, _, -, afterCodes⟩ := Transaction.run_bind_ok.mp afterUser
  obtain ⟨_, _, -, afterAudit⟩ := Transaction.run_bind_ok.mp afterCodes
  obtain ⟨_, _, -, returned⟩ := Transaction.run_bind_ok.mp afterAudit
  cases returned
  rw [others] at held
  exact held

end SignIn

/-! ## The steps of a request -/

/-- The authority of an operation that does not recheck it, as far as the role
of the captured principal gives it. -/
def Operation.assumed (operation : Operation) (principal : SessionPrincipal) :
    Option Authority :=
  if operation.rechecks then none
  else (operation.authority principal).filter fun authority =>
    authority.capability ∈ principal.role.capabilities

namespace Point

/-- The authority a request has been found to hold and relies on from here.  A
request that selects another network is looked up there. -/
def needs : Point → Option Authority
  | .authenticated principal networkId operation =>
      if operation.scopes = false ∨ networkId = "" ∨
          networkId = principal.tenantId then operation.assumed principal
      else none
  | .scoped principal operation => operation.assumed principal
  | .permitted principal operation | .prepared principal operation =>
      if operation.rechecks then none else operation.authority principal
  | _ => none

/-- The next step looks the authority up in the transaction that uses it. -/
def rechecks : Point → Bool
  | .prepared _ operation => operation.rechecks
  | .challengeLoaded .. | .recovery .. | .invitationLoaded _ => true
  | _ => false

end Point

section Steps

variable {draw : Draw} {point next : Point} {appliance after : Appliance Log}
  {effect : Effect}

theorem proceed_cases {Value : Type} {verdict : Except AccessError Value}
    {onward : Value → Point}
    (moved : proceed appliance verdict onward = (next, after, effect)) :
    after = appliance ∧ effect = {} ∧
      ((∃ value, verdict = .ok value ∧ next = onward value) ∨ next = .idle) := by
  unfold proceed at moved
  split at moved
  · next value =>
      cases moved
      exact ⟨rfl, rfl, .inl ⟨value, rfl, rfl⟩⟩
  · cases moved
    exact ⟨rfl, rfl, .inr rfl⟩

theorem finish_cases {Value : Type} {program : Program Log Value}
    {effects : Value → Effect}
    (moved : finish appliance program effects = (next, after, effect)) :
    next = .idle ∧
      ((∃ value, program appliance = .ok (value, after) ∧
        effect = effects value) ∨ (after = appliance ∧ effect = {})) := by
  unfold finish at moved
  split at moved
  · next value _ committed =>
      cases moved
      exact ⟨rfl, .inl ⟨value, Transaction.commit_ok committed, rfl⟩⟩
  · next rolledBack =>
      cases moved
      exact ⟨rfl, .inr ⟨Transaction.commit_error rolledBack, rfl⟩⟩

theorem quiet_authenticateCollector
    {request : Devices.SignedCollectorRequest} {call : CollectorCall}
    {now : Timestamp}
    (moved : authenticateCollector deployment request call now appliance =
      (next, after, effect)) :
    Quiet appliance after ∧ effect = {} ∧ next.needs = none := by
  have sameRotations := authenticate_rotations
    deployment.rotations.authenticator request now appliance.collectors
  unfold authenticateCollector at moved
  split at moved
  · next authenticated =>
      rw [authenticated] at sameRotations
      cases moved
      exact ⟨quiet_same rfl rfl rfl rfl sameRotations rfl rfl, rfl, rfl⟩
  · next refused =>
      rw [refused] at sameRotations
      cases moved
      exact ⟨quiet_same rfl rfl rfl rfl sameRotations rfl rfl, rfl, rfl⟩

/-- A quiet last step. -/
theorem finish_enacts {Value : Type} {program : Program Log Value}
    {effects : Value → Effect} (quiet : Follows Quiet program)
    (unchanged : ∀ value, (effects value).change = none)
    (moved : finish appliance program effects = (next, after, effect)) :
    Enacts effect.change appliance after := by
  rcases (finish_cases moved).2 with ⟨value, ran, rfl⟩ | ⟨rfl, rfl⟩
  · rw [unchanged]
    exact Quiet.enacts (quiet _ _ _ ran)
  · exact Quiet.enacts (Std.Refl.refl _)

theorem proceed_enacts {Value : Type} {verdict : Except AccessError Value}
    {onward : Value → Point}
    (moved : proceed appliance verdict onward = (next, after, effect)) :
    Enacts effect.change appliance after := by
  obtain ⟨rfl, rfl, -⟩ := proceed_cases moved
  exact Quiet.enacts (Std.Refl.refl _)

/-- What any step of any request does to authorities and to what has been
issued. -/
theorem resume_enacts
    (moved : resume deployment draw point appliance = (next, after, effect)) :
    Enacts effect.change appliance after := by
  cases point with
  | idle =>
      cases moved
      exact Quiet.enacts (Std.Refl.refl _)
  | authenticated principal networkId operation =>
      unfold resume at moved
      dsimp only at moved
      split at moved
      · cases moved
        exact Quiet.enacts (Std.Refl.refl _)
      · exact proceed_enacts moved
  | arrived | ownerVerified | «scoped» | permitted | login | acceptance =>
      exact proceed_enacts moved
  | prepared principal operation =>
      rcases (finish_cases moved).2 with ⟨change, ran, rfl⟩ | ⟨rfl, rfl⟩
      · exact transaction_enacts ran
      · exact Quiet.enacts (Std.Refl.refl _)
  | challengeLoaded =>
      exact finish_enacts (quiet_completeAuthentication _ _ _ _) (fun _ => rfl)
        moved
  | recovery =>
      exact finish_enacts (quiet_recoverSession _ _ _ _) (fun _ => rfl) moved
  | invitationLoaded =>
      exact finish_enacts (quiet_completeHumanInvite _ _) (fun _ => rfl) moved
  | claim => exact finish_enacts (quiet_claimGrant _ _) (fun _ => rfl) moved
  | collector =>
      obtain ⟨quiet, rfl, -⟩ := quiet_authenticateCollector moved
      exact Quiet.enacts quiet
  | deviceAuthenticated =>
      exact finish_enacts (quiet_collectorTransaction _ _ _) (fun _ => rfl)
        moved

/-- The role of the captured principal gives what it assumes. -/
theorem assumed_eq_some {operation : Operation} {principal : SessionPrincipal}
    {authority : Authority}
    (assumed : operation.assumed principal = some authority) :
    ∃ capability, operation.capability = some capability ∧
      capability ∈ principal.role.capabilities ∧
      authority = ⟨principal.tenantId, principal.userId, capability⟩ := by
  unfold Operation.assumed at assumed
  split at assumed
  · cases assumed
  · obtain ⟨needed, given⟩ := Option.filter_eq_some_iff.mp assumed
    obtain ⟨capability, isCapability, rfl⟩ := Option.map_eq_some_iff.mp needed
    exact ⟨capability, isCapability, of_decide_eq_true given, rfl⟩

/-- The capability check leaves only operations whose authority the role
gives. -/
theorem assumed_of_checked {operation : Operation}
    {principal : SessionPrincipal} {authority : Authority}
    (checked : checkCapability principal operation = .ok ())
    (relies : operation.rechecks = false)
    (needed : operation.authority principal = some authority) :
    operation.assumed principal = some authority := by
  obtain ⟨capability, isCapability, rfl⟩ := Option.map_eq_some_iff.mp needed
  have given : capability ∈ principal.role.capabilities := by
    by_contra withheld
    have refused : checkCapability principal operation =
        requireCapability principal capability := by
      cases operation <;> cases isCapability <;> first | rfl | cases relies
    rw [refused] at checked
    simp [requireCapability, authorize, Identity.requireCapability, withheld,
      Except.mapError] at checked
  unfold Operation.assumed
  rw [if_neg (by simp [relies]), needed, Option.filter_some,
    if_pos (decide_eq_true given)]

/-- What the checks before a transaction find is so, or has been found. -/
theorem resume_needs
    (moved : resume deployment draw point appliance = (next, after, effect))
    (found : ∀ authority, point.needs = some authority →
      holds appliance.identity authority = true) {authority : Authority}
    (needed : next.needs = some authority) :
    holds after.identity authority = true := by
  cases point with
  | idle =>
      cases moved
      cases needed
  | arrived request =>
      obtain ⟨rfl, -, ⟨principal, isSignedIn, rfl⟩ | rfl⟩ := proceed_cases moved
      · obtain ⟨_, -, afterOrigin⟩ := bind_eq_ok.mp isSignedIn
        obtain ⟨⟨_, csrfHash⟩, authenticated, afterSession⟩ :=
          bind_eq_ok.mp afterOrigin
        obtain ⟨_, -, returned⟩ := bind_eq_ok.mp afterSession
        cases returned
        unfold Point.needs at needed
        dsimp only at needed
        split at needed
        · obtain ⟨_, -, given, rfl⟩ := assumed_eq_some needed
          exact holds_of_session authenticated given
        · cases needed
      · cases needed
  | authenticated principal networkId operation =>
      unfold resume at moved
      dsimp only at moved
      split at moved
      · next own =>
          cases moved
          apply found
          simp only [Point.needs, if_pos own]
          exact needed
      · obtain ⟨-, -, ⟨_, -, rfl⟩ | rfl⟩ := proceed_cases moved <;> cases needed
  | ownerVerified principal networkId operation =>
      obtain ⟨rfl, -, ⟨_, projects, rfl⟩ | rfl⟩ := proceed_cases moved
      · obtain ⟨_, -, -, rfl⟩ := assumed_eq_some needed
        apply @holds_of_hasProjection _ principal
        unfold refuseUnless at projects
        split at projects
        · assumption
        · cases projects
      · cases needed
  | «scoped» principal operation =>
      obtain ⟨rfl, -, ⟨_, checked, rfl⟩ | rfl⟩ := proceed_cases moved
      · apply found
        unfold Point.needs at needed
        dsimp only at needed
        split at needed
        · cases needed
        · next relies =>
            exact assumed_of_checked checked (Bool.eq_false_iff.mpr relies) needed
      · cases needed
  | permitted principal operation =>
      obtain ⟨rfl, -, ⟨_, -, rfl⟩ | rfl⟩ := proceed_cases moved
      · exact found _ needed
      · cases needed
  | login | acceptance =>
      obtain ⟨-, -, ⟨_, -, rfl⟩ | rfl⟩ := proceed_cases moved <;> cases needed
  | prepared | challengeLoaded | recovery | invitationLoaded | claim
  | deviceAuthenticated =>
      obtain ⟨rfl, -⟩ := finish_cases moved
      cases needed
  | collector =>
      obtain ⟨-, -, nothing⟩ := quiet_authenticateCollector moved
      rw [nothing] at needed
      cases needed

/-- Whatever a step commits on somebody's behalf, that person holds the
authority: it is looked up again, or it was relied on. -/
theorem resume_onBehalf
    (moved : resume deployment draw point appliance = (next, after, effect))
    {authority : Authority} (onBehalf : effect.onBehalf = some authority)
    (found : point.rechecks = true ∨
      ∀ needed, point.needs = some needed →
        holds appliance.identity needed = true) :
    holds appliance.identity authority = true := by
  cases point with
  | prepared principal operation =>
      rcases (finish_cases moved).2 with ⟨change, ran, rfl⟩ | ⟨-, rfl⟩
      · by_cases rechecks : operation.rechecks = true
        · exact transaction_holds rechecks ran onBehalf
        · rcases found with rechecked | relied
          · exact absurd rechecked rechecks
          · apply relied
            simp only [Point.needs, if_neg rechecks]
            exact onBehalf
      · cases onBehalf
  | challengeLoaded challengeId tenantId userId =>
      rcases (finish_cases moved).2 with ⟨_, ran, rfl⟩ | ⟨-, rfl⟩
      · cases onBehalf
        exact holds_of_completeAuthentication ran
      · cases onBehalf
  | recovery tenantSlug email recoveryCode =>
      rcases (finish_cases moved).2 with ⟨_, ran, rfl⟩ | ⟨-, rfl⟩
      · cases onBehalf
        exact holds_of_recoverSession ran
      · cases onBehalf
  | invitationLoaded invitation =>
      rcases (finish_cases moved).2 with ⟨_, ran, rfl⟩ | ⟨-, rfl⟩
      · cases onBehalf
        exact holds_of_completeHumanInvite ran
      · cases onBehalf
  | idle =>
      cases moved
      cases onBehalf
  | authenticated principal networkId operation =>
      unfold resume at moved
      dsimp only at moved
      split at moved
      · cases moved
        cases onBehalf
      · obtain ⟨-, rfl, -⟩ := proceed_cases moved
        cases onBehalf
  | arrived | ownerVerified | «scoped» | permitted | login | acceptance =>
      obtain ⟨-, rfl, -⟩ := proceed_cases moved
      cases onBehalf
  | claim | deviceAuthenticated =>
      rcases (finish_cases moved).2 with ⟨_, -, rfl⟩ | ⟨-, rfl⟩ <;>
        cases onBehalf
  | collector =>
      obtain ⟨-, rfl, -⟩ := quiet_authenticateCollector moved
      cases onBehalf

end Steps

/-! ## Runs -/

/-- What else happens to the database: people and networks are added, and other
services end what they have issued. -/
structure Elsewhere (before after : Appliance Log) : Prop where
  users : before.users.rows <+: after.users.rows
  tenants : before.tenants.rows <+: after.tenants.rows
  sessions : SessionsKept before.sessions.rows after.sessions.rows
  grants : GrantsKept before.grants.rows after.grants.rows
  invites : Evolves (fun _ => False)
    (Retains InviteRow.inviteId fun row => !row.isOpen)
    before.invites.rows after.invites.rows
  actions : Evolves (fun _ => False)
    (Retains (fun row : ActionRow => (row.tenantId, row.actionId))
      fun row => row.status.terminal)
    before.actions.rows after.actions.rows
  rotations : Evolves (fun _ => False)
    (Retains Devices.RotationRow.rotationId fun row => !row.status.live)
    before.rotations.rows after.rotations.rows

theorem Elsewhere.quiet {before after : Appliance Log}
    (elsewhere : Elsewhere before after) : Quiet before after where
  users := elsewhere.users
  tenants := elsewhere.tenants
  sessions := elsewhere.sessions
  grants := elsewhere.grants
  invites := elsewhere.invites.mono (fun _ _ => trivial) fun _ _ kept => kept
  actions := elsewhere.actions.mono (fun _ _ => trivial) fun _ _ kept => kept
  rotations := elsewhere.rotations.mono (fun _ _ => trivial) fun _ _ kept =>
    kept

/-- Any number of requests over one database. -/
def procedure (deployment : Deployment Log) :
    Procedure (Appliance Log) Point Draw Effect where
  idle := .idle
  starts := Point.isArrival
  resume := resume deployment
  outside := Elsewhere

abbrev Requests (Log : Type) := Pool (Appliance Log) Point

/-- No change of authority commits that withdraws what the process relies
on. -/
def Undisturbed (index : Nat) (requests : Requests Log) :
    PoolLabel Draw Effect → Prop
  | .resume _ _ effect => ∀ change authority, effect.change = some change →
      (requests.process index).needs = some authority →
      ¬ change.withdraws authority
  | _ => True

section Runs

variable {initial : Appliance Log → Prop} {requests next : Requests Log}
  {label : PoolLabel Draw Effect}

theorem step_settles
    (step : (procedure deployment).Step requests label next) :
    Settles requests.shared next.shared := by
  cases step with
  | begin | drop => exact .refl _
  | resume moved => exact (resume_enacts moved).toSettles
  | outside changed => exact (Elsewhere.quiet changed).toSettles

theorem run_settles {start finish : Requests Log}
    {labels : List (PoolLabel Draw Effect)}
    {condition : Requests Log → PoolLabel Draw Effect → Prop}
    (run : ((procedure deployment).system initial).RunWhere condition start
      labels finish) : Settles start.shared finish.shared := by
  induction run with
  | nil => exact .refl _
  | snoc _ _ step induction => exact induction.trans (step_settles step)

/-- The process holds what it relies on. -/
def Founded (index : Nat) (requests : Requests Log) : Prop :=
  ∀ authority, (requests.process index).needs = some authority →
    holds requests.shared.identity authority = true

/-- A point at which a request arrives relies on nothing. -/
theorem needs_of_isArrival {point : Point} (arrives : point.isArrival) :
    point.needs = none := by
  cases point <;> first | rfl | cases arrives

theorem step_founded {index : Nat} (founded : Founded index requests)
    (undisturbed : Undisturbed index requests label)
    (step : (procedure deployment).Step requests label next) :
    Founded index next := by
  intro authority needed
  cases step with
  | @begin started point free isStart =>
      by_cases own : index = started
      · cases own
        dsimp only at needed
        rw [Function.update_self, needs_of_isArrival isStart] at needed
        cases needed
      · dsimp only at needed
        rw [Function.update_of_ne own] at needed
        exact founded authority needed
  | @resume resumed input point shared effect moved =>
      by_cases own : index = resumed
      · cases own
        dsimp only at needed
        rw [Function.update_self] at needed
        exact resume_needs moved founded needed
      · dsimp only at needed
        rw [Function.update_of_ne own] at needed
        apply (resume_enacts moved).keeps
        · exact fun change committed =>
            undisturbed change authority committed needed
        · exact founded authority needed
  | drop dropped =>
      by_cases own : index = dropped
      · cases own
        dsimp only at needed
        rw [Function.update_self] at needed
        cases needed
      · dsimp only at needed
        rw [Function.update_of_ne own] at needed
        exact founded authority needed
  | outside changed =>
      exact (Elsewhere.quiet changed).holds (founded authority needed)

theorem run_founded {index : Nat} {start finish : Requests Log}
    {labels : List (PoolLabel Draw Effect)}
    (isInitial : ((procedure deployment).system initial).initial start)
    (run : ((procedure deployment).system initial).RunWhere
      (Undisturbed index) start labels finish) : Founded index finish := by
  refine run.invariant
    (fun founded undisturbed step => step_founded founded undisturbed step)
    fun authority needed => ?_
  rw [isInitial.2 index] at needed
  cases needed

/-- After a change of authority has committed, nothing that needs what somebody
no longer holds is committed on that person's behalf, unless the request relied
on it when a change withdrew it; and what the person had issued is not usable,
unless a collector has it. -/
theorem withdrawal_leaves_nothing {start pool finish : Requests Log}
    {before after : List (PoolLabel Draw Effect)} {index : Nat} {draw : Draw}
    {effect : Effect} {change : AuthorityChange}
    (isInitial : ((procedure deployment).system initial).initial start)
    (withdrawal : (procedure deployment).Step pool (.resume index draw effect)
      next)
    (committed : effect.change = some change)
    (later : ((procedure deployment).system initial).Run next after finish) :
    (∀ item, change.covers pool.shared item → ¬ Lingers pool.shared item →
      ¬ Usable finish.shared item) ∧
    ∀ other input onward last authority,
      (procedure deployment).Step finish (.resume other input onward) last →
      onward.onBehalf = some authority →
      ((finish.process other).rechecks = true ∨
        ((procedure deployment).system initial).RunWhere (Undisturbed other)
          start (before ++ .resume index draw effect :: after) finish) →
      holds finish.shared.identity authority = true := by
  constructor
  · intro item covered notLingering
    cases withdrawal with
    | resume moved =>
        have ended := (resume_enacts moved).ends change committed item covered
          notLingering
        exact ((run_settles later).ended ended).not_usable
  · intro other input onward last authority step onBehalf found
    cases step with
    | resume moved =>
        apply resume_onBehalf moved onBehalf
        exact found.imp_right fun undisturbed =>
          run_founded isInitial undisturbed

end Runs

/-! ### A request that a suspension overtakes -/

def sampleRotations : Devices.RotationService where
  authenticator := {
    resolve := fun _ _ _ => none
    sha256 := fun _ => ""
    hmac := fun _ text => text
    fromIsoFormat := fun _ => none
    maxClockSkewSeconds := 300
    admitted := Devices.defaultSkew_admitted }
  encrypt _ _ _ := ("", "")
  wrap _ _ _ _ := ("", "")
  unwrap _ _ _ _ := none

/-- A deployment without an audit log, whose hashes are the texts. -/
def sampleDeployment : Deployment Unit where
  expectedOrigin := "https://appliance"
  hash purpose value := purpose ++ ":" ++ value
  recoveryHash value := value
  sessionTtlSeconds := 3600
  cases := ⟨fun _ => pure (), ⟨id, id⟩⟩
  responses := ⟨fun _ => pure (), 3, by decide⟩
  rotations := sampleRotations
  verifyAudit _ _ := true

def sampleDraw : Draw where
  now := 1000
  id := "grant-2"
  secondId := "id-2"
  token := "token-2"
  recoveryCodes := []
  rotation := {
    rotationId := "00000000-0000-4000-8000-000000000000"
    replacementId := "00000000-0000-4000-8000-000000000001"
    replacementSecret := List.replicate 43 65
    iv := []
    rotationUuid := by decide +kernel
    replacementUuid := by decide +kernel
    secretLength := rfl }
  nonce := []
  verified := true
  accountActive := true

def sampleSession (tenantId userId sessionId : String) : SessionRecord where
  sessionId
  tenantId
  userId
  revokedAt := none
  expiresAt := 9000
  secretHash := "session:" ++ sessionId ++ ".secret"
  csrfHash := "csrf:guard"

/-- Ana manages a network of the platform owner, and has issued a grant. -/
def sampleAppliance : Appliance Unit where
  tenants := ⟨[⟨⟨"home", "active"⟩, "home", "Home"⟩,
    ⟨⟨"net", "active"⟩, "net", "Net"⟩], by decide⟩
  users := ⟨[⟨⟨"home", "omar", .admin, "active"⟩, "omar@home.example"⟩,
    ⟨⟨"net", "ana", .admin, "active"⟩, "ana@net.example"⟩], by decide⟩
  sessions := ⟨[sampleSession "home" "omar" "session-omar",
    sampleSession "net" "ana" "session-ana"], by decide⟩
  ownerMemberships := []
  platformOwners := [⟨"home", "omar"⟩]
  challenges := []
  recoveryCodes := []
  invites := .empty
  inviteChallenges := []
  grants := ⟨[⟨"grant-1", "net", "token-1", none, "ana", 0, 9000, none, none,
    none⟩], by decide⟩
  endpointSessions := []
  memberRevisions := []
  networkRevisions := []
  retentionPolicies := []
  retentionRuns := .empty
  devices := []
  credentials := .empty
  rotations := .empty
  nonces := .empty
  actions := .empty
  events := .empty
  jobs := .empty
  alerts := .empty
  cases := .empty
  caseAlerts := .empty
  activity := .empty
  dispositions := .empty
  audit := ()

def sampleRequest (sessionId : String) (operation : Operation) : Request where
  origin := "https://appliance"
  token := sessionId ++ ".secret"
  csrfToken := "guard"
  networkId := ""
  operation

/-- Ana's request for a grant has passed its checks; then the owner's request
to suspend the network has. -/
def overtakenSchedule : List (Procedure.Command Point Draw) :=
  [.begin 0 (.arrived (sampleRequest "session-ana"
      (.createEnrollmentGrant ⟨60, none⟩))),
    .resume 0 sampleDraw, .resume 0 sampleDraw, .resume 0 sampleDraw,
    .resume 0 sampleDraw,
    .begin 1 (.arrived (sampleRequest "session-omar"
      (.updateNetwork ⟨"net", "Net", "suspended", 1⟩))),
    .resume 1 sampleDraw, .resume 1 sampleDraw, .resume 1 sampleDraw,
    .resume 1 sampleDraw]

def sampleStart : Requests Unit := ⟨sampleAppliance, fun _ => .idle⟩

def overtaken : List (PoolLabel Draw Effect) × Requests Unit :=
  (procedure sampleDeployment).follow sampleStart overtakenSchedule

def suspended : PoolLabel Draw Effect × Requests Unit :=
  (procedure sampleDeployment).perform overtaken.2 (.resume 1 sampleDraw)

def granted : PoolLabel Draw Effect × Requests Unit :=
  (procedure sampleDeployment).perform suspended.2 (.resume 0 sampleDraw)

theorem run_overtaken :
    ((procedure sampleDeployment).system fun _ => True).Run sampleStart
      overtaken.1 overtaken.2 := by
  apply Procedure.run_follow
  refine ⟨⟨rfl, trivial⟩, trivial, ?_⟩
  iterate 4 refine ⟨trivial, trivial, ?_⟩
  refine ⟨⟨rfl, trivial⟩, trivial, ?_⟩
  iterate 4 refine ⟨trivial, trivial, ?_⟩
  trivial

def effectOf : PoolLabel Draw Effect → Effect
  | .resume _ _ effect => effect
  | _ => {}

/-- The request that was under way finishes: a grant is issued on behalf of
somebody who no longer holds any authority in the network. -/
theorem withdrawal_leaves_nothing_overtaken :
    ((procedure sampleDeployment).system fun _ => True).initial sampleStart ∧
    ((procedure sampleDeployment).system fun _ => True).Run sampleStart
      overtaken.1 overtaken.2 ∧
    (procedure sampleDeployment).Step overtaken.2 suspended.1 suspended.2 ∧
    (effectOf suspended.1).change = some (.suspension "net") ∧
    (procedure sampleDeployment).Step suspended.2 granted.1 granted.2 ∧
    (effectOf granted.1).onBehalf = some ⟨"net", "ana", .manage⟩ ∧
    holds suspended.2.shared.identity ⟨"net", "ana", .manage⟩ = false ∧
    ∃ row ∈ granted.2.shared.grants.rows, row.tokenId = "grant-2" ∧
      row.createdBy = "ana" ∧ row.revokedAt = none := by
  refine ⟨⟨trivial, fun _ => rfl⟩, run_overtaken,
    Procedure.step_perform trivial, ?_, Procedure.step_perform trivial, ?_, ?_,
    ?_⟩
  all_goals decide +kernel

/-- The grant that had been issued before is not usable. -/
theorem withdrawal_leaves_nothing_issued :
    ¬ Usable suspended.2.shared (.grant "grant-1") := by
  have isInitial : ((procedure sampleDeployment).system fun _ => True).initial
      sampleStart := ⟨trivial, fun _ => rfl⟩
  have withdrawal : (procedure sampleDeployment).Step overtaken.2 suspended.1
      suspended.2 := Procedure.step_perform trivial
  have committed : (effectOf suspended.1).change =
      some (.suspension "net") := by
    decide +kernel
  refine (@withdrawal_leaves_nothing Unit sampleDeployment (fun _ => True)
    suspended.2 sampleStart overtaken.2 suspended.2 overtaken.1 [] 1 sampleDraw
    _ _ isInitial withdrawal committed .nil).1 (.grant "grant-1") ?_ ?_
  · exact ⟨_, List.mem_singleton_self _, rfl, rfl⟩
  · exact id

end Access

end ControlForge
