import ControlForge.Devices.Authenticator
import ControlForge.Foundation.ReplayCache

/-!
# Acceptance of signed device requests over whole runs

The runs interleave calls of `authenticate`, on a clock that does not run
backwards, with arbitrary changes of everything but the stored nonces.  Every
run simulates a run of the replay cache whose retention is twice the skew, and
the exact condition for at-most-once acceptance is the one of the cache.
-/

namespace ControlForge

namespace Devices

open ReplayCache (Attempt)

/-- One call of `authenticate`, with the database it was made on. -/
structure Call where
  before : Database
  request : SignedCollectorRequest
  now : Timestamp
  verdict : Except CollectorError AuthenticatedDevice

def Call.accepted (call : Call) : Bool :=
  call.verdict.isOk

/-- Every check passes except, possibly, the one on the nonce. -/
def Call.authentic (authenticator : Authenticator) (call : Call) : Bool :=
  (authenticator.authorize call.before call.request call.now).isOk

/-- The credential and the nonce of the call. -/
def Call.key (call : Call) : String × String :=
  (call.request.credentialId, call.request.nonce)

inductive Event where
  | call (made : Call)
  | environment

def Event.call? : Event → Option Call
  | .call made => some made
  | .environment => none

/-- The calls of a trace, in order. -/
def calls (trace : List Event) : List Call :=
  trace.filterMap Event.call?

structure RunState where
  database : Database
  clock : Timestamp

inductive Step (authenticator : Authenticator) :
    RunState → Event → RunState → Prop
  | call {state : RunState} {request : SignedCollectorRequest}
      {now : Timestamp} {verdict : Except CollectorError AuthenticatedDevice}
      {database : Database} (later : state.clock ≤ now)
      (returns : authenticator.authenticate request now state.database =
        (verdict, database)) :
      Step authenticator state (.call ⟨state.database, request, now, verdict⟩)
        ⟨database, now⟩
  | environment {state : RunState} {database : Database}
      (sameNonces : database.nonces = state.database.nonces) :
      Step authenticator state .environment ⟨database, state.clock⟩

/-- The call of a request at a given time is a step. -/
theorem Step.made (authenticator : Authenticator) (state : RunState)
    (request : SignedCollectorRequest) {now : Timestamp}
    (later : state.clock ≤ now) :
    Step authenticator state
      (.call ⟨state.database, request, now,
        (authenticator.authenticate request now state.database).1⟩)
      ⟨(authenticator.authenticate request now state.database).2, now⟩ :=
  .call later rfl

def system (authenticator : Authenticator) :
    TransitionSystem RunState Event where
  initial state := state.database.nonces.rows = []
  step := Step authenticator

/-! ## One call -/

/-- How long a nonce is kept. -/
def Authenticator.retention (authenticator : Authenticator) : Int :=
  seconds (authenticator.maxClockSkewSeconds * 2)

theorem Authenticator.retention_pos (authenticator : Authenticator) :
    0 < authenticator.retention := by
  apply seconds_pos
  have atLeast := authenticator.admitted.1
  omega

def cacheEntries (nonces : Table NonceRow NonceRow.clash) :
    List ((String × String) × Int) :=
  nonces.rows.map fun row => ((row.credentialId, row.nonce), row.expiresAt)

theorem cacheEntries_purge (now : Timestamp)
    (nonces : Table NonceRow NonceRow.clash) :
    cacheEntries (Authenticator.purgeNonces now nonces) =
      ReplayCache.purge now (cacheEntries nonces) := by
  simp [cacheEntries, Authenticator.purgeNonces, ReplayCache.purge,
    List.filter_map, Function.comp_def]

/-- An insertion after the purge fails exactly when the key is present. -/
theorem purged_insert_eq_none {now expiry : Timestamp}
    {nonces : Table NonceRow NonceRow.clash} {credentialId nonce : String} :
    (Authenticator.purgeNonces now nonces).insert
        ⟨credentialId, nonce, expiry⟩ = none ↔
      ReplayCache.Present (cacheEntries nonces) (credentialId, nonce) now := by
  rw [Table.insert_eq_none]
  constructor
  · rintro ⟨stored, member, clashes⟩
    obtain ⟨kept, alive⟩ := List.mem_filter.mp member
    simp only [NonceRow.clash, decide_eq_true_eq] at clashes alive
    refine ⟨stored.expiresAt, List.mem_map.mpr ⟨stored, kept, ?_⟩, alive⟩
    rw [clashes.1, clashes.2]
  · rintro ⟨storedExpiry, member, alive⟩
    obtain ⟨stored, kept, same⟩ := List.mem_map.mp member
    simp only [Prod.mk.injEq] at same
    obtain ⟨⟨sameCredential, sameNonce⟩, rfl⟩ := same
    refine ⟨stored, List.mem_filter.mpr ⟨kept, by simpa using alive⟩, ?_⟩
    simp [NonceRow.clash, sameCredential, sameNonce]

theorem transaction_refused {authenticator : Authenticator}
    {request : SignedCollectorRequest} {now : Timestamp} {database : Database}
    {failure : CollectorError}
    (refused : authenticator.authorizedCredential database request now =
      .error failure) :
    authenticator.authenticateTransaction request now database =
      .error failure := by
  simp [Authenticator.authenticateTransaction, Transaction.run_bind, refused]

section Authorized

variable {authenticator : Authenticator} {request : SignedCollectorRequest}
  {now : Timestamp} {database : Database} {credential : CredentialRow}

theorem transaction_replayed
    (found : authenticator.authorizedCredential database request now =
      .ok credential)
    (present : ReplayCache.Present (cacheEntries database.nonces)
      (request.credentialId, request.nonce) now) :
    authenticator.authenticateTransaction request now database =
      .error (.replay "collector request nonce was replayed") := by
  simp [Authenticator.authenticateTransaction, Transaction.run_bind, found,
    Authenticator.consumeNonce, purged_insert_eq_none.mpr present]

theorem transaction_accepted
    (found : authenticator.authorizedCredential database request now =
      .ok credential)
    (absent : ¬ ReplayCache.Present (cacheEntries database.nonces)
      (request.credentialId, request.nonce) now) :
    ∃ device after,
      authenticator.authenticateTransaction request now database =
        .ok (device, after) ∧
      cacheEntries after.nonces =
        ReplayCache.purge now (cacheEntries database.nonces) ++
          [((request.credentialId, request.nonce),
            now + authenticator.retention)] := by
  cases inserted : (Authenticator.purgeNonces now database.nonces).insert
      ⟨request.credentialId, request.nonce, now + authenticator.retention⟩ with
  | none => exact absurd (purged_insert_eq_none.mp inserted) absent
  | some nonces =>
      have consumed : authenticator.consumeNonce request now database =
          .ok ((), { database with nonces }) := by
        unfold Authenticator.consumeNonce
        unfold Authenticator.retention at inserted
        rw [inserted]
      refine ⟨⟨credential.tenantId, credential.deviceId,
        credential.credentialId⟩, Authenticator.recordUse credential now
          { database with nonces }, ?_, ?_⟩
      · simp only [Authenticator.authenticateTransaction,
          Transaction.run_bind, Transaction.run_get, found,
          Transaction.run_ofExcept_ok, consumed, Transaction.run_modify,
          Transaction.run_pure]
      · rw [← cacheEntries_purge]
        simp [cacheEntries, Authenticator.recordUse,
          (Table.insert_eq_some.mp inserted).2]

end Authorized

theorem authorize_of_checked {authenticator : Authenticator}
    {request : SignedCollectorRequest} {now : Timestamp}
    (checked : authenticator.checkRequest request now = .ok ())
    (database : Database) :
    authenticator.authorize database request now =
      authenticator.authorizedCredential database request now := by
  unfold Authenticator.authorize
  rw [checked]
  rfl

/-- A call is refused by `authorize`, refused as a replay, or accepted. -/
theorem authenticate_cases (authenticator : Authenticator)
    (request : SignedCollectorRequest) (now : Timestamp)
    (database : Database) :
    ((authenticator.authorize database request now).isOk = false ∧
      ∃ failure, authenticator.authenticate request now database =
        (.error failure, database)) ∨
    ((authenticator.authorize database request now).isOk = true ∧
      ReplayCache.Present (cacheEntries database.nonces)
        (request.credentialId, request.nonce) now ∧
      ∃ failure, authenticator.authenticate request now database =
        (.error failure, database)) ∨
    ((authenticator.authorize database request now).isOk = true ∧
      ¬ ReplayCache.Present (cacheEntries database.nonces)
        (request.credentialId, request.nonce) now ∧
      ∃ device after, authenticator.authenticate request now database =
          (.ok device, after) ∧
        cacheEntries after.nonces =
          ReplayCache.purge now (cacheEntries database.nonces) ++
            [((request.credentialId, request.nonce),
              now + authenticator.retention)]) := by
  cases shape : authenticator.checkRequest request now with
  | error failure =>
      left
      simp [Authenticator.authorize, Authenticator.authenticate, shape, bind,
        Except.bind]
  | ok _ =>
      rw [authorize_of_checked shape]
      unfold Authenticator.authenticate
      rw [shape]
      cases found :
          authenticator.authorizedCredential database request now with
      | error failure =>
          left
          exact ⟨rfl, failure, by
            simp [Transaction.commit, transaction_refused found]⟩
      | ok credential =>
          right
          by_cases present : ReplayCache.Present
              (cacheEntries database.nonces)
              (request.credentialId, request.nonce) now
          · left
            refine ⟨rfl, present,
              .replay "collector request nonce was replayed", ?_⟩
            simp [Transaction.commit, transaction_replayed found present]
          · right
            obtain ⟨device, after, ran, entries⟩ :=
              transaction_accepted found present
            exact ⟨rfl, present, device, after,
              by simp [Transaction.commit, ran], entries⟩

/-! ## Simulation of the cache -/

/-- The call as the cache sees it. -/
def Call.attempt (authenticator : Authenticator) (call : Call) :
    Attempt (String × String) where
  key := call.key
  time := call.now
  authentic := call.authentic authenticator
  admitted := call.accepted

def cacheState (state : RunState) : ReplayCache.State (String × String) where
  entries := cacheEntries state.database.nonces
  clock := state.clock

/-- A call is one step of the cache. -/
theorem step_simulates {authenticator : Authenticator}
    {state next : RunState} {made : Call}
    (step : Step authenticator state (.call made) next) :
    ReplayCache.Step authenticator.retention (cacheState state)
      (made.attempt authenticator) (cacheState next) := by
  cases step with
  | @call request now verdict after later returns =>
      rcases authenticate_cases authenticator request now state.database with
        ⟨refused, failure, result⟩ | ⟨authorized, present, failure, result⟩ |
        ⟨authorized, absent, device, _, result, entries⟩
      · cases returns.symm.trans result
        have sameAttempt : Call.attempt authenticator
            ⟨state.database, request, now, .error failure⟩ =
            ⟨(request.credentialId, request.nonce), now, false, false⟩ := by
          simp [Call.attempt, Call.key, Call.authentic, Call.accepted, refused]
        rw [sameAttempt]
        exact .refused later
      · cases returns.symm.trans result
        have sameAttempt : Call.attempt authenticator
            ⟨state.database, request, now, .error failure⟩ =
            ⟨(request.credentialId, request.nonce), now, true, false⟩ := by
          simp [Call.attempt, Call.key, Call.authentic, Call.accepted,
            authorized]
        rw [sameAttempt]
        exact .replayed later present
      · cases returns.symm.trans result
        have sameAttempt : Call.attempt authenticator
            ⟨state.database, request, now, .ok device⟩ =
            ⟨(request.credentialId, request.nonce), now, true, true⟩ := by
          simp [Call.attempt, Call.key, Call.authentic, Call.accepted,
            authorized]
        have sameState : cacheState ⟨after, now⟩ =
            ⟨ReplayCache.purge now (cacheEntries state.database.nonces) ++
              [((request.credentialId, request.nonce),
                now + authenticator.retention)], now⟩ := by
          rw [← entries]
          rfl
        rw [sameAttempt, sameState]
        exact .admitted later absent

theorem run_simulates {authenticator : Authenticator}
    {start finish : RunState} {trace : List Event}
    (run : (system authenticator).Run start trace finish) :
    (ReplayCache.system authenticator.retention).Run (cacheState start)
      ((calls trace).map (Call.attempt authenticator)) (cacheState finish) := by
  induction run with
  | nil => exact .nil
  | @snoc trace middle finish event _ _ step induction =>
      rw [calls, List.filterMap_append, List.map_append]
      cases event with
      | environment =>
          cases step with
          | @environment database sameNonces =>
              simp only [List.filterMap_cons, Event.call?, List.filterMap_nil,
                List.map_nil, List.append_nil]
              have sameState : cacheState ⟨database, middle.clock⟩ =
                  cacheState middle := by
                simp only [cacheState, cacheEntries, sameNonces]
              rw [sameState]
              exact induction
      | call made =>
          exact .snoc induction trivial (step_simulates step)

/-! ## At-most-once acceptance -/

/-- No two accepted calls carry the same credential and the same nonce. -/
def AcceptedAtMostOnce (trace : List Event) : Prop :=
  (calls trace).Pairwise fun earlier later =>
    ¬ (earlier.accepted = true ∧ later.accepted = true ∧
      earlier.key = later.key)

/-- Calls with one credential and one nonce that pass every other check are
made less than twice the skew apart. -/
def NoncesRetained (authenticator : Authenticator) (trace : List Event) :
    Prop :=
  (calls trace).Pairwise fun earlier later =>
    earlier.authentic authenticator = true →
    later.authentic authenticator = true → earlier.key = later.key →
    later.now < earlier.now + 2 * authenticator.skew

theorem retention_eq (authenticator : Authenticator) :
    authenticator.retention = 2 * authenticator.skew := by
  unfold Authenticator.retention Authenticator.skew seconds
  omega

/-- Acceptance is at most once exactly on the runs in which no nonce is used
again, with otherwise valid requests, twice the skew later or after that. -/
theorem acceptedAtMostOnce_iff (authenticator : Authenticator)
    {start finish : RunState} {trace : List Event}
    (empty : start.database.nonces.rows = [])
    (run : (system authenticator).Run start trace finish) :
    AcceptedAtMostOnce trace ↔ NoncesRetained authenticator trace := by
  have emptyCache : (cacheState start).entries = [] := by
    simp [cacheState, cacheEntries, empty]
  have exactly := ReplayCache.admittedOnce_iff authenticator.retention_pos
    emptyCache (run_simulates run)
  rw [List.pairwise_map, List.pairwise_map] at exactly
  unfold AcceptedAtMostOnce NoncesRetained
  rw [← retention_eq]
  exact exactly

/-! ## How late a captured request is accepted again -/

theorem raiseUnless_eq_ok {condition : Bool} {message : String} {result : Unit} :
    Authenticator.raiseUnless condition message = .ok result ↔
      condition = true := by
  cases condition <;> simp [Authenticator.raiseUnless]

theorem checkRequest_window {authenticator : Authenticator}
    {request : SignedCollectorRequest} {now : Timestamp}
    (checked : authenticator.checkRequest request now = .ok ()) :
    ∃ time, authenticator.parseTimestamp request.timestamp = .ok time ∧
      (now - time).natAbs ≤ authenticator.skew := by
  unfold Authenticator.checkRequest at checked
  obtain ⟨_, -, checked⟩ := bind_eq_ok.mp checked
  obtain ⟨_, -, checked⟩ := bind_eq_ok.mp checked
  obtain ⟨_, -, checked⟩ := bind_eq_ok.mp checked
  obtain ⟨_, -, checked⟩ := bind_eq_ok.mp checked
  obtain ⟨time, parsed, checked⟩ := bind_eq_ok.mp checked
  have inside := raiseUnless_eq_ok.mp checked
  exact ⟨time, parsed, of_decide_eq_true inside⟩

/-- A call that passes the checks is within the skew of its timestamp. -/
theorem authentic_window {authenticator : Authenticator} {call : Call}
    (authentic : call.authentic authenticator = true) :
    ∃ time, authenticator.parseTimestamp call.request.timestamp = .ok time ∧
      (call.now - time).natAbs ≤ authenticator.skew := by
  apply checkRequest_window
  unfold Call.authentic Authenticator.authorize at authentic
  cases shape : authenticator.checkRequest call.request call.now with
  | error failure =>
      rw [shape] at authentic
      cases authentic
  | ok result => rfl

/-- If one request is accepted twice, the second time is exactly twice the
skew after the first: the instant at which its window ends. -/
theorem accepted_again_at_windowEnd (authenticator : Authenticator)
    {start finish : RunState} {trace : List Event}
    (empty : start.database.nonces.rows = [])
    (run : (system authenticator).Run start trace finish) :
    (calls trace).Pairwise fun earlier later =>
      earlier.accepted = true → later.accepted = true →
      earlier.request = later.request →
      later.now = earlier.now + 2 * authenticator.skew := by
  have emptyCache : (cacheState start).entries = [] := by
    simp [cacheState, cacheEntries, empty]
  have invariant := ReplayCache.invariant_run authenticator.retention_pos
    emptyCache (run_simulates run)
  have spaced := List.pairwise_map.mp invariant.spaced
  rw [List.pairwise_iff_forall_sublist] at spaced ⊢
  intro earlier later sublist earlierAccepted laterAccepted sameRequest
  have apart := spaced sublist earlierAccepted laterAccepted
    (by simp [Call.attempt, Call.key, sameRequest])
  have authenticOf : ∀ call ∈ calls trace, call.accepted = true →
      call.authentic authenticator = true := by
    intro call member accepted
    exact invariant.authentic _ (List.mem_map_of_mem member) accepted
  obtain ⟨time, parsed, earlierNear⟩ := authentic_window
    (authenticOf earlier (sublist.subset (by simp)) earlierAccepted)
  obtain ⟨time', parsed', laterNear⟩ := authentic_window
    (authenticOf later (sublist.subset (by simp)) laterAccepted)
  have sameTime : time = time' := by
    rw [sameRequest, parsed'] at parsed
    exact (Except.ok.inj parsed).symm
  rw [retention_eq] at apart
  simp only [Call.attempt] at apart
  rw [← sameTime] at laterNear
  omega

/-! ## A replay at the end of the window -/

/-- A poll whose timestamp is ahead of the server's clock by the whole skew. -/
def capturedPoll : SignedCollectorRequest where
  method := "GET"
  path := actionPollPath
  body := []
  credentialId := "credential"
  timestamp := "2026-01-01T00:05:00+00:00"
  nonce := "nonce-0123456789"
  signature :=
    "ea5eece5ffc4715b3c77f63c18a466697ee5104c9e403e0153a31401a24568b8"

/-- An authenticator with the default skew; its parameters answer as the real
functions do on the captured poll. -/
def defaultAuthenticator : Authenticator where
  resolve _ _ _ := some (List.replicate 32 107)
  sha256 _ :=
    "e3b0c44298fc1c149afbf4c8996fb92427ae41e4649b934ca495991b7852b855"
  hmac _ _ :=
    "ea5eece5ffc4715b3c77f63c18a466697ee5104c9e403e0153a31401a24568b8"
  fromIsoFormat text :=
    if text = "2026-01-01T00:05:00+00:00" then some (some 1767225900000000)
    else none
  maxClockSkewSeconds := 300
  admitted := by decide

/-- One active device with one active credential. -/
def oneCredential : Database where
  tenants := [⟨"tenant", "active"⟩]
  devices := [⟨"tenant", "device", "active", none⟩]
  credentials := ⟨[⟨"credential", "tenant", "device", "ciphertext", "iv", 0,
    2000000000000000, none, none, some 0⟩], List.pairwise_singleton _ _⟩
  rotations := .empty
  nonces := .empty

/-- The first instant at which the poll passes the timestamp check. -/
def windowStart : Timestamp :=
  1767225900000000 - seconds 300

/-- The captured poll, and the same poll again twice the skew later. -/
def replayTrace : List Event :=
  let first := defaultAuthenticator.authenticate capturedPoll windowStart
    oneCredential
  let second := defaultAuthenticator.authenticate capturedPoll
    (windowStart + seconds 600) first.2
  [.call ⟨oneCredential, capturedPoll, windowStart, first.1⟩,
    .call ⟨first.2, capturedPoll, windowStart + seconds 600, second.1⟩]

theorem run_replayTrace :
    ∃ finish, (system defaultAuthenticator).Run ⟨oneCredential, windowStart⟩
      replayTrace finish := by
  have first := Step.made defaultAuthenticator
    ⟨oneCredential, windowStart⟩ capturedPoll (Int.le_refl windowStart)
  have second := Step.made defaultAuthenticator
    ⟨(defaultAuthenticator.authenticate capturedPoll windowStart
      oneCredential).2, windowStart⟩ capturedPoll
    (show windowStart ≤ windowStart + seconds 600 by decide)
  have run : (system defaultAuthenticator).Run ⟨oneCredential, windowStart⟩
      ([] ++ [_] ++ [_]) _ :=
    .snoc (.snoc .nil trivial first) trivial second
  exact ⟨_, run⟩

theorem acceptedAtMostOnce_iff_replayTrace :
    AcceptedAtMostOnce replayTrace ↔
      NoncesRetained defaultAuthenticator replayTrace := by
  obtain ⟨finish, run⟩ := run_replayTrace
  exact acceptedAtMostOnce_iff defaultAuthenticator rfl run

/-- A request that was accepted is accepted again at the end of its window,
where the stored nonce has just been purged. -/
theorem replay_accepted :
    oneCredential.nonces.rows = [] ∧
      (∃ finish, (system defaultAuthenticator).Run
        ⟨oneCredential, windowStart⟩ replayTrace finish) ∧
      ¬ AcceptedAtMostOnce replayTrace := by
  refine ⟨rfl, run_replayTrace, ?_⟩
  intro once
  have first := (List.pairwise_cons.mp once).1
  apply first _ (List.mem_singleton_self _)
  exact ⟨by decide, by decide, rfl⟩

end Devices

end ControlForge
