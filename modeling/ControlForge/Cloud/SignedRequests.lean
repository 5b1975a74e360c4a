import ControlForge.Clock
import ControlForge.Foundation.Interleaving
import ControlForge.Foundation.Table

/-!
# Signed requests of the cloud runtime

`requireCollector` checks the timestamp of a request, looks the credential up,
verifies the signature and consumes the nonce; the scheduled handler purges the
nonces that have expired.  All of them are suspended between any two statements
and readings of the clock, which never runs backwards.  What the signature
proves is a parameter.
-/

namespace ControlForge

namespace Cloud

namespace SignedRequests

/-! ## Data -/

/-- The columns of a credential and of its tenant that are looked up. -/
structure Credential where
  credentialId : String
  tenantId : String
  deviceId : Option String
  secretCiphertext : String
  secretIv : String
  expiresAt : Timestamp
  revokedAt : Option Timestamp
  tenantStatus : String
deriving DecidableEq

/-- A row of `ingestion_nonces`. -/
structure NonceRow where
  credentialId : String
  nonce : String
  expiresAt : Timestamp
deriving DecidableEq

def NonceRow.hasKey (credentialId nonce : String) (row : NonceRow) : Bool :=
  row.credentialId = credentialId ∧ row.nonce = nonce

def NonceRow.clash (left right : NonceRow) : Bool :=
  left.hasKey right.credentialId right.nonce

structure Database where
  credentials : List Credential
  nonces : Table NonceRow NonceRow.clash
  clock : Timestamp

/-- A request with its signature headers. -/
structure Request where
  credentialId : String
  /-- The header, where `Date.parse` gives a finite number. -/
  timestamp : Option Timestamp
  timestampText : String
  nonce : String
  signature : String
  method : String
  pathname : String
  body : String
deriving DecidableEq

/-- The signature is that of the request under the secret of the credential. -/
abbrev Verifier : Type := Credential → Request → Bool

/-- `MAX_CLOCK_SKEW_SECONDS`. -/
def maxClockSkew : Timestamp := seconds 300

/-- How long a nonce is kept. -/
def nonceLifetime : Timestamp := seconds 600

/-- `NONCE_PATTERN`. -/
def noncePattern (nonce : String) : Bool :=
  decide (16 ≤ nonce.length ∧ nonce.length ≤ 128) &&
    nonce.toList.all fun character =>
      character.isAlphanum || ['_', '-'].contains character

def signaturePattern (signature : String) : Bool :=
  decide (signature.length = 64) && signature.toList.all fun character =>
    character.isDigit || ('a' ≤ character ∧ character ≤ 'f' : Bool)

/-- `signatureHeaders` accepts them. -/
def Request.hasHeaders (request : Request) : Bool :=
  !decide (request.credentialId = "") &&
    !decide (request.timestampText = "") && noncePattern request.nonce &&
    signaturePattern request.signature

structure Principal where
  credentialId : String
  tenantId : String
  deviceId : String
deriving DecidableEq

/-- One execution of the statement that consumes a nonce: what it was read and
when it ran. -/
structure Try where
  credentialId : String
  nonce : String
  timestamp : Timestamp
  /-- The clock from which the lifetime of the nonce is counted. -/
  reading : Timestamp
  time : Timestamp
  /-- The nonce is new: from here on the request is accepted. -/
  consumed : Bool
deriving DecidableEq

inductive Effect where
  | none
  | tried (attempt : Try)
  | accepted (principal : Principal)
  /-- An `AuthenticationError`. -/
  | rejected (message : String)
deriving DecidableEq

/-! ## `requireCollector` -/

inductive Point where
  | headers
  | lookup (timestamp : Timestamp)
  | check (timestamp : Timestamp) (credential : Option Credential)
  | verify (timestamp : Timestamp) (credential : Credential)
  | stamp (timestamp : Timestamp) (credential : Credential)
  | insert (timestamp : Timestamp) (credential : Credential)
      (reading : Timestamp)
  | touch (credential : Credential)
  | finished

/-- The condition under which a credential is active; `some ""` is false. -/
def Credential.active (credential : Credential) (now : Timestamp) : Bool :=
  (credential.deviceId.getD "" ≠ "" : Bool) && credential.revokedAt.isNone &&
    (credential.tenantStatus = "active" : Bool) &&
    (now < credential.expiresAt : Bool)

def Request.resume (verifies : Verifier) (request : Request) (point : Point)
    (database : Database) : Point × Database × Effect :=
  match point with
  | .headers =>
      if request.hasHeaders then
        match request.timestamp with
        | none =>
            (.finished, database, .rejected "collector timestamp is invalid")
        | some timestamp =>
            if database.clock - timestamp ≤ maxClockSkew ∧
                timestamp - database.clock ≤ maxClockSkew then
              (.lookup timestamp, database, .none)
            else
              (.finished, database, .rejected "collector timestamp is stale")
      else
        (.finished, database,
          .rejected "collector signature headers are invalid")
  | .lookup timestamp =>
      (.check timestamp (database.credentials.find? fun credential =>
        credential.credentialId = request.credentialId), database, .none)
  | .check timestamp (some credential) =>
      if credential.active database.clock then
        (.verify timestamp credential, database, .none)
      else
        (.finished, database, .rejected "collector credential is not active")
  | .check _ none =>
      (.finished, database, .rejected "collector credential is not active")
  | .verify timestamp credential =>
      if verifies credential request then
        (.stamp timestamp credential, database, .none)
      else
        (.finished, database,
          .rejected "collector signature verification failed")
  | .stamp timestamp credential =>
      (.insert timestamp credential database.clock, database, .none)
  | .insert timestamp credential reading =>
      let row : NonceRow :=
        ⟨credential.credentialId, request.nonce, reading + nonceLifetime⟩
      let attempt (consumed : Bool) : Effect :=
        .tried ⟨credential.credentialId, request.nonce, timestamp, reading,
          database.clock, consumed⟩
      match database.nonces.insert row with
      | some nonces => (.touch credential, { database with nonces }, attempt true)
      | none => (.finished, database, attempt false)
  | .touch credential =>
      (.finished, database, .accepted ⟨credential.credentialId,
        credential.tenantId, credential.deviceId.getD ""⟩)
  | .finished => (.finished, database, .none)

/-! ## The purge of the scheduled handler -/

inductive PurgePoint where
  | read
  /-- The recovery of events runs in between. -/
  | delete (now : Timestamp)
  | finished

def purge (now : Timestamp) (database : Database) : Database :=
  { database with
    nonces := database.nonces.deleteWhere fun row => row.expiresAt < now }

def PurgePoint.resume (point : PurgePoint) (database : Database) :
    PurgePoint × Database :=
  match point with
  | .read => (.delete database.clock, database)
  | .delete now => (.finished, purge now database)
  | .finished => (.finished, database)

/-! ## The runtime -/

inductive Process where
  | idle
  | call (request : Request) (point : Point)
  | scheduled (point : PurgePoint)

inductive Process.Starts : Process → Prop
  | call (request : Request) : Starts (.call request .headers)
  | scheduled : Starts (.scheduled .read)

def Process.resume (verifies : Verifier) (process : Process)
    (database : Database) : Process × Database × Effect :=
  match process with
  | .idle => (.idle, database, .none)
  | .call request point =>
      let (next, database, effect) := request.resume verifies point database
      (.call request next, database, effect)
  | .scheduled point =>
      let (next, database) := point.resume database
      (.scheduled next, database, .none)

inductive Outside (database : Database) : Database → Prop
  /-- Time passes. -/
  | tick {clock : Timestamp} (later : database.clock ≤ clock) :
      Outside database { database with clock }
  /-- Credentials are created, used, revoked; tenants are suspended. -/
  | administered (credentials : List Credential) :
      Outside database { database with credentials }

def procedure (verifies : Verifier) :
    Procedure Database Process Unit Effect where
  idle := .idle
  starts := Process.Starts
  resume _ := Process.resume verifies
  outside := Outside

/-- No nonce has been consumed yet. -/
def system (verifies : Verifier) :
    TransitionSystem (Pool Database Process) (PoolLabel Unit Effect) :=
  (procedure verifies).system fun database => database.nonces.rows = []

/-! ## The claim -/

def triedOf : PoolLabel Unit Effect → Option Try
  | .resume _ _ (.tried attempt) => some attempt
  | _ => none

def tries (labels : List (PoolLabel Unit Effect)) : List Try :=
  labels.filterMap triedOf

def Try.SameNonce (first second : Try) : Prop :=
  first.credentialId = second.credentialId ∧ first.nonce = second.nonce

instance (first second : Try) : Decidable (first.SameNonce second) :=
  inferInstanceAs (Decidable (_ ∧ _))

/-- No two accepted calls carry the same credential and the same nonce. -/
def AcceptedOnce (labels : List (PoolLabel Unit Effect)) : Prop :=
  (tries labels).Pairwise fun first second =>
    first.SameNonce second → ¬ (first.consumed ∧ second.consumed)

/-- No call consumes a nonce later than the lifetime of the nonce after another
one has read the clock for it. -/
def Spaced (labels : List (PoolLabel Unit Effect)) : Prop :=
  (tries labels).Pairwise fun first second =>
    first.SameNonce second → second.time ≤ first.reading + nonceLifetime

instance (labels : List (PoolLabel Unit Effect)) : Decidable (Spaced labels) :=
  inferInstanceAs (Decidable (List.Pairwise _ _))

instance (labels : List (PoolLabel Unit Effect)) :
    Decidable (AcceptedOnce labels) :=
  inferInstanceAs (Decidable (List.Pairwise _ _))

/-! ## What a resumption does -/

/-- The timestamp of a call that has been checked and not yet stamped. -/
def Process.pending : Process → Option Timestamp
  | .call _ (.lookup timestamp) | .call _ (.check timestamp _)
  | .call _ (.verify timestamp _) | .call _ (.stamp timestamp _) =>
      some timestamp
  | _ => none

/-- The points that no assertion is about. -/
def Process.plain : Process → Bool
  | .idle | .call _ .headers | .call _ (.touch _) | .call _ .finished
  | .scheduled .read | .scheduled .finished => true
  | _ => false

inductive Resumed (database : Database) :
    Process → Process → Database → Effect → Prop
  | quiet {process next : Process} {effect : Effect}
      (isPlain : next.plain = true)
      (untried : ∀ attempt, effect ≠ .tried attempt) :
      Resumed database process next database effect
  | began {request : Request} {timestamp : Timestamp}
      (fresh : timestamp - maxClockSkew ≤ database.clock) :
      Resumed database (.call request .headers)
        (.call request (.lookup timestamp)) database .none
  | moved {process next : Process} {timestamp : Timestamp}
      (before : process.pending = some timestamp)
      (after : next.pending = some timestamp) :
      Resumed database process next database .none
  | stamped {request : Request} {timestamp : Timestamp}
      {credential : Credential} :
      Resumed database (.call request (.stamp timestamp credential))
        (.call request (.insert timestamp credential database.clock)) database
        .none
  | consumed {request : Request} {timestamp reading : Timestamp}
      {credential : Credential} {nonces : Table NonceRow NonceRow.clash}
      (inserted : database.nonces.insert
        ⟨credential.credentialId, request.nonce, reading + nonceLifetime⟩ =
          some nonces) :
      Resumed database (.call request (.insert timestamp credential reading))
        (.call request (.touch credential)) { database with nonces }
        (.tried ⟨credential.credentialId, request.nonce, timestamp, reading,
          database.clock, true⟩)
  | replayed {request : Request} {timestamp reading : Timestamp}
      {credential : Credential} :
      Resumed database (.call request (.insert timestamp credential reading))
        (.call request .finished) database
        (.tried ⟨credential.credentialId, request.nonce, timestamp, reading,
          database.clock, false⟩)
  | read : Resumed database (.scheduled .read)
      (.scheduled (.delete database.clock)) database .none
  | purged {now : Timestamp} : Resumed database (.scheduled (.delete now))
      (.scheduled .finished) (purge now database) .none

theorem resumed (verifies : Verifier) (process : Process)
    (database : Database) :
    Resumed database process (process.resume verifies database).1
      (process.resume verifies database).2.1
      (process.resume verifies database).2.2 := by
  cases process with
  | idle => exact .quiet rfl nofun
  | scheduled point =>
      cases point with
      | read => exact .read
      | delete now => exact .purged
      | finished => exact .quiet rfl nofun
  | call request point =>
      cases point with
      | headers =>
          simp only [Process.resume, Request.resume]
          split
          · split
            · exact .quiet rfl nofun
            · split
              · next timestamp fresh =>
                  apply Resumed.began
                  exact sub_le_comm.mp fresh.2
              · exact .quiet rfl nofun
          · exact .quiet rfl nofun
      | lookup timestamp => exact .moved rfl rfl
      | check timestamp credential =>
          cases credential with
          | none => exact .quiet rfl nofun
          | some credential =>
              simp only [Process.resume, Request.resume]
              split
              · exact .moved rfl rfl
              · exact .quiet rfl nofun
      | verify timestamp credential =>
          simp only [Process.resume, Request.resume]
          split
          · exact .moved rfl rfl
          · exact .quiet rfl nofun
      | stamp timestamp credential => exact .stamped
      | insert timestamp credential reading =>
          simp only [Process.resume, Request.resume]
          split
          · next nonces inserted => exact .consumed inserted
          · exact .replayed
      | touch credential => exact .quiet rfl nofun
      | finished => exact .quiet rfl nofun

/-! ## The invariant -/

/-- A consumed nonce is stored until its lifetime has passed. -/
structure Consumed (labels : List (PoolLabel Unit Effect))
    (database : Database) : Prop where
  kept : ∀ attempt ∈ tries labels, attempt.consumed = true →
    (∃ row ∈ database.nonces.rows,
      row.hasKey attempt.credentialId attempt.nonce = true ∧
        attempt.reading + nonceLifetime ≤ row.expiresAt) ∨
      attempt.reading + nonceLifetime < database.clock
  apart : (tries labels).Pairwise fun first second =>
    first.SameNonce second → first.consumed = true → second.consumed = true →
      first.reading + nonceLifetime < second.time
  fresh : ∀ attempt ∈ tries labels,
    attempt.timestamp - maxClockSkew ≤ attempt.reading

structure Suspended (database : Database) (process : Process) : Prop where
  pending : ∀ timestamp, process.pending = some timestamp →
    timestamp - maxClockSkew ≤ database.clock
  insert : ∀ request timestamp credential reading,
    process = .call request (.insert timestamp credential reading) →
    timestamp - maxClockSkew ≤ reading
  delete : ∀ now, process = .scheduled (.delete now) → now ≤ database.clock

theorem suspended_of_plain {database : Database} {process : Process}
    (isPlain : process.plain = true) : Suspended database process := by
  refine ⟨?_, ?_, ?_⟩
  · intro timestamp isPending
    cases process with
    | idle => cases isPending
    | scheduled point => cases isPending
    | call request point =>
        cases point <;> first | (cases isPlain; done) | cases isPending
  · rintro request timestamp credential reading rfl
    cases isPlain
  · rintro now rfl
    cases isPlain

theorem suspended_stable {database next : Database} {process : Process}
    (later : database.clock ≤ next.clock)
    (suspended : Suspended database process) : Suspended next process where
  pending timestamp isPending :=
    le_trans (suspended.pending timestamp isPending) later
  insert := suspended.insert
  delete now isDelete := le_trans (suspended.delete now isDelete) later

def assertions : Procedure.Assertions Database Process
    (PoolLabel Unit Effect) where
  shared := Consumed
  process := Suspended
  pair _ _ _ := True

theorem tries_concat (labels : List (PoolLabel Unit Effect))
    (label : PoolLabel Unit Effect) :
    tries (labels ++ [label]) = tries labels ++ (triedOf label).toList := by
  rw [tries, List.filterMap_append]
  cases tried : triedOf label with
  | none => simp [tries, tried]
  | some attempt => simp [tries, tried]

section Consumption

variable {labels : List (PoolLabel Unit Effect)} {database next : Database}
  {label : PoolLabel Unit Effect}

theorem tries_untried (untried : triedOf label = none) :
    tries (labels ++ [label]) = tries labels := by
  rw [tries_concat, untried]
  simp

/-- What consumes nothing and keeps every nonce that is alive. -/
theorem Consumed.untried {more : List (PoolLabel Unit Effect)}
    (consumed : Consumed labels database) (same : tries more = tries labels)
    (keeps : ∀ row ∈ database.nonces.rows, row ∈ next.nonces.rows ∨
      row.expiresAt < next.clock)
    (later : database.clock ≤ next.clock) : Consumed more next := by
  refine ⟨?_, ?_, ?_⟩
  · rw [same]
    intro attempt member isConsumed
    rcases consumed.kept attempt member isConsumed with
      ⟨row, stored, hasKey, lives⟩ | passed
    · rcases keeps row stored with kept | expired
      · exact .inl ⟨row, kept, hasKey, lives⟩
      · exact .inr (lt_of_le_of_lt lives expired)
    · exact .inr (lt_of_lt_of_le passed later)
  · rw [same]
    exact consumed.apart
  · rw [same]
    exact consumed.fresh

theorem Consumed.refl (consumed : Consumed labels database)
    (untried : triedOf label = none) :
    Consumed (labels ++ [label]) database :=
  consumed.untried (tries_untried untried) (fun _ stored => .inl stored)
    (le_refl _)

/-- The statement finds the nonce, and refuses the request. -/
theorem Consumed.replayed {attempt : Try}
    (consumed : Consumed labels database)
    (tried : triedOf label = some attempt)
    (refused : attempt.consumed = false)
    (fresh : attempt.timestamp - maxClockSkew ≤ attempt.reading) :
    Consumed (labels ++ [label]) database := by
  have all : tries (labels ++ [label]) = tries labels ++ [attempt] := by
    rw [tries_concat, tried]
    rfl
  refine ⟨?_, ?_, ?_⟩
  · rw [all]
    intro other member isConsumed
    rcases List.mem_append.mp member with earlier | now
    · exact consumed.kept other earlier isConsumed
    · rw [List.mem_singleton.mp now, refused] at isConsumed
      cases isConsumed
  · rw [all, List.pairwise_append]
    refine ⟨consumed.apart, List.pairwise_singleton _ _, ?_⟩
    intro first _ second now _ _ isConsumed
    rw [List.mem_singleton.mp now, refused] at isConsumed
    cases isConsumed
  · rw [all]
    intro other member
    rcases List.mem_append.mp member with earlier | now
    · exact consumed.fresh other earlier
    · rw [List.mem_singleton.mp now]
      exact fresh

/-- The statement stores a nonce, and no earlier row of it is alive. -/
theorem Consumed.insert {attempt : Try}
    {nonces : Table NonceRow NonceRow.clash}
    (consumed : Consumed labels database)
    (tried : triedOf label = some attempt)
    (atTime : attempt.time = database.clock)
    (fresh : attempt.timestamp - maxClockSkew ≤ attempt.reading)
    (inserted : database.nonces.insert ⟨attempt.credentialId, attempt.nonce,
      attempt.reading + nonceLifetime⟩ = some nonces) :
    Consumed (labels ++ [label]) { database with nonces } := by
  obtain ⟨free, rows⟩ := Table.insert_eq_some.mp inserted
  have all : tries (labels ++ [label]) = tries labels ++ [attempt] := by
    rw [tries_concat, tried]
    rfl
  refine ⟨?_, ?_, ?_⟩
  · rw [all]
    intro other member isConsumed
    change (∃ row ∈ nonces.rows, _) ∨ _
    rw [rows]
    rcases List.mem_append.mp member with earlier | now
    · rcases consumed.kept other earlier isConsumed with
        ⟨row, stored, kept⟩ | passed
      · exact .inl ⟨row, List.mem_append_left _ stored, kept⟩
      · exact .inr passed
    · rw [List.mem_singleton.mp now]
      left
      refine ⟨_, List.mem_append_right _ (List.mem_singleton_self _), ?_,
        le_refl _⟩
      simp [NonceRow.hasKey]
  · rw [all, List.pairwise_append]
    refine ⟨consumed.apart, List.pairwise_singleton _ _, ?_⟩
    intro first earlier second now sameNonce isConsumed _
    rw [List.mem_singleton.mp now] at sameNonce ⊢
    rw [atTime]
    rcases consumed.kept first earlier isConsumed with
      ⟨row, stored, hasKey, -⟩ | passed
    · -- The row of the first call would have clashed.
      have clash : row.clash ⟨attempt.credentialId, attempt.nonce,
          attempt.reading + nonceLifetime⟩ = true := by
        rw [NonceRow.clash, ← sameNonce.1, ← sameNonce.2]
        exact hasKey
      rw [free row stored] at clash
      cases clash
    · exact passed
  · rw [all]
    intro other member
    rcases List.mem_append.mp member with earlier | now
    · exact consumed.fresh other earlier
    · rw [List.mem_singleton.mp now]
      exact fresh

end Consumption

theorem owner {labels : List (PoolLabel Unit Effect)} {index : Nat}
    {input : Unit} {database next : Database} {process point : Process}
    {effect : Effect} (consumed : Consumed labels database)
    (suspended : Suspended database process)
    (moved : Resumed database process point next effect) :
    Consumed (labels ++ [.resume index input effect]) next ∧
      Suspended next point ∧ database.clock ≤ next.clock := by
  cases moved with
  | quiet isPlain untried =>
      refine ⟨consumed.refl ?_, suspended_of_plain isPlain, le_refl _⟩
      cases effect with
      | tried attempt => exact absurd rfl (untried attempt)
      | _ => rfl
  | began fresh =>
      refine ⟨consumed.refl rfl, ⟨?_, nofun, nofun⟩, le_refl _⟩
      intro timestamp isPending
      cases isPending
      exact fresh
  | @moved _ _ timestamp before after =>
      refine ⟨consumed.refl rfl, ⟨?_, ?_, ?_⟩, le_refl _⟩
      · intro other isPending
        rw [after] at isPending
        cases isPending
        exact suspended.pending timestamp before
      · rintro request other credential reading rfl
        cases after
      · rintro now rfl
        cases after
  | @stamped request timestamp credential =>
      refine ⟨consumed.refl rfl, ⟨nofun, ?_, nofun⟩, le_refl _⟩
      intro other stamp found reading isInsert
      cases isInsert
      exact suspended.pending timestamp rfl
  | @consumed request timestamp reading credential nonces inserted =>
      have fresh := suspended.insert _ _ _ _ rfl
      refine ⟨consumed.insert rfl rfl fresh inserted,
        suspended_of_plain rfl, le_refl _⟩
  | replayed =>
      have fresh := suspended.insert _ _ _ _ rfl
      exact ⟨consumed.replayed rfl rfl fresh, suspended_of_plain rfl, le_refl _⟩
  | read =>
      refine ⟨consumed.refl rfl, ⟨nofun, nofun, ?_⟩, le_refl _⟩
      intro now isDelete
      cases isDelete
      exact le_refl _
  | @purged now =>
      have read := suspended.delete now rfl
      refine ⟨consumed.untried (tries_untried rfl) ?_ (le_refl _), suspended_of_plain rfl,
        le_refl _⟩
      intro row stored
      by_cases expired : row.expiresAt < now
      · exact .inr (lt_of_lt_of_le expired read)
      · left
        apply Table.mem_deleteWhere.mpr
        exact ⟨stored, decide_eq_false expired⟩

theorem sound (verifies : Verifier) :
    assertions.Sound (procedure verifies) (fun _ _ => True)
      (fun database next _ => database.clock ≤ next.clock) where
  symm _ := trivial
  idle _ := suspended_of_plain rfl
  idlePair _ _ := trivial
  starts shared point isStart := by
    refine ⟨?_, fun _ => trivial⟩
    cases isStart with
    | call request => exact suspended_of_plain rfl
    | scheduled => exact suspended_of_plain rfl
  unseen {_ _ label} consumed unresumed := by
    apply Consumed.refl consumed
    cases label with
    | resume index input effect =>
        exact absurd rfl (unresumed index input effect)
    | _ => rfl
  owner := by
    intro labels pool index input point shared effect holds _ moved
    have resumption := resumed verifies (pool.process index) pool.shared
    change (pool.process index).resume verifies pool.shared = _ at moved
    rw [moved] at resumption
    obtain ⟨consumed, suspended, later⟩ :=
      @owner labels index input _ _ _ _ _ holds.shared (holds.process index)
        resumption
    exact ⟨consumed, suspended, fun _ _ => ⟨later, trivial⟩⟩
  outside consumed changed := by
    cases changed with
    | tick later =>
        exact ⟨consumed.untried rfl (fun _ stored => .inl stored) later,
          fun _ => later⟩
    | administered credentials =>
        exact ⟨consumed.untried rfl (fun _ stored => .inl stored) (le_refl _),
          fun _ => le_refl _⟩
  refl _ _ := le_refl _
  stable := suspended_stable
  stablePair _ _ _ := trivial

/-! ## The claim about every run -/

section Runs

variable {verifies : Verifier} {start pool : Pool Database Process}
  {labels : List (PoolLabel Unit Effect)}
  (isInitial : (system verifies).initial start)
  (run : (system verifies).Run start labels pool)

include isInitial run

theorem consumed_of_run : Consumed labels pool.shared := by
  have holds : assertions.Hold labels pool := by
    refine Procedure.Assertions.Hold.run (sound verifies)
      (fun shared isEmpty => ?_) isInitial run
    exact ⟨nofun, List.Pairwise.nil, nofun⟩
  exact holds.shared

/-- A request is accepted at most once, as long as no call is suspended until
the nonce of another one has expired. -/
theorem accepted_at_most_once (spaced : Spaced labels) :
    AcceptedOnce labels := by
  have consumed := consumed_of_run isInitial run
  apply List.Pairwise.imp _ (consumed.apart.and spaced)
  rintro first second ⟨apart, inTime⟩ sameNonce ⟨isFirst, isSecond⟩
  have late := apart sameNonce isFirst isSecond
  exact absurd late (not_lt_of_ge (inTime sameNonce))

/-- It suffices that a nonce is signed for one timestamp only, and consumed
while that is fresh. -/
theorem spaced_of_timely
    (timely : ∀ attempt ∈ tries labels,
      attempt.time ≤ attempt.timestamp + maxClockSkew)
    (signedOnce : (tries labels).Pairwise fun first second =>
      first.SameNonce second → first.timestamp = second.timestamp) :
    Spaced labels := by
  have fresh := (consumed_of_run isInitial run).fresh
  apply List.Pairwise.imp_of_mem _ signedOnce
  intro first second isFirst isSecond same sameNonce
  have bounded := timely second isSecond
  have begun := fresh first isFirst
  rw [← same sameNonce] at bounded
  have lifetime : nonceLifetime = maxClockSkew + maxClockSkew := rfl
  calc
    second.time ≤ first.timestamp + maxClockSkew := bounded
    _ ≤ first.reading + maxClockSkew + maxClockSkew :=
      Int.add_le_add_right (sub_le_iff_le_add.mp begun) _
    _ = first.reading + nonceLifetime := by rw [lifetime, Int.add_assoc]

end Runs

/-! ### A replay, and one that overtakes the purge -/

def sampleCredential : Credential where
  credentialId := "collector-1"
  tenantId := "acme"
  deviceId := some "laptop"
  secretCiphertext := "ciphertext"
  secretIv := "iv"
  expiresAt := seconds 86400
  revokedAt := none
  tenantStatus := "active"

/-- A request signed 300 seconds ahead of the clock. -/
def sampleRequest : Request where
  credentialId := "collector-1"
  timestamp := some (seconds 300)
  timestampText := "1970-01-01T00:05:00.000Z"
  nonce := "0123456789abcdef"
  signature := String.ofList (List.replicate 64 'a')
  method := "GET"
  pathname := "/v1/agent/actions"
  body := ""

/-- Its signature is genuine. -/
def sampleVerifier : Verifier := fun _ request => request = sampleRequest

def sampleStart : Pool Database Process where
  shared := ⟨[sampleCredential], .empty, 0⟩
  process _ := .idle

theorem sampleStart_initial : (system sampleVerifier).initial sampleStart :=
  ⟨rfl, fun _ => rfl⟩

def resumeAt (index : Nat) : Procedure.Command Process Unit :=
  .resume index ()

/-- The call up to the statement that consumes its nonce. -/
def callAt (index : Nat) : List (Procedure.Command Process Unit) :=
  [.begin index (.call sampleRequest .headers), resumeAt index, resumeAt index,
    resumeAt index, resumeAt index, resumeAt index]

/-- One call consumes the nonce, and the replay finds it. -/
def replaySchedule : List (Procedure.Command Process Unit) :=
  callAt 0 ++ [resumeAt 0, resumeAt 0] ++ callAt 1 ++ [resumeAt 1]

theorem accepted_at_most_once_replay :
    AcceptedOnce ((procedure sampleVerifier).follow sampleStart
      replaySchedule).1 := by
  apply accepted_at_most_once sampleStart_initial
  · apply Procedure.run_follow
    refine ⟨⟨rfl, .call _⟩, trivial, ?_⟩
    iterate 7 refine ⟨trivial, trivial, ?_⟩
    refine ⟨⟨rfl, .call _⟩, trivial, ?_⟩
    iterate 6 refine ⟨trivial, trivial, ?_⟩
    trivial
  · decide +kernel

/-- The first call. -/
def firstCall : List (PoolLabel Unit Effect) × Pool Database Process :=
  (procedure sampleVerifier).follow sampleStart
    (callAt 0 ++ [resumeAt 0, resumeAt 0])

/-- Time passes. -/
def ticked (clock : Timestamp) (pool : Pool Database Process) :
    Pool Database Process :=
  { pool with shared := { pool.shared with clock } }

/-- The replay, 300 seconds after the timestamp, up to its last statement. -/
def secondCall : List (PoolLabel Unit Effect) × Pool Database Process :=
  (procedure sampleVerifier).follow (ticked (seconds 600) firstCall.2)
    (callAt 1)

/-- A moment later the nonce is purged, and the replay goes on. -/
def purgedCall : List (PoolLabel Unit Effect) × Pool Database Process :=
  (procedure sampleVerifier).follow (ticked (seconds 601) secondCall.2)
    [.begin 2 (.scheduled .read), resumeAt 2, resumeAt 2, resumeAt 1, resumeAt 1]

theorem accepted_twice :
    ∃ verifies start labels pool,
      (system verifies).initial start ∧
      (system verifies).Run start labels pool ∧
      ¬ AcceptedOnce labels := by
  have first : (system sampleVerifier).Run sampleStart firstCall.1
      firstCall.2 := by
    apply Procedure.run_follow
    refine ⟨⟨rfl, .call _⟩, trivial, ?_⟩
    iterate 7 refine ⟨trivial, trivial, ?_⟩
    trivial
  have firstTick : (system sampleVerifier).Run firstCall.2 [.outside]
      (ticked (seconds 600) firstCall.2) :=
    .snoc .nil trivial (.outside (.tick (by decide +kernel)))
  have second : (system sampleVerifier).Run (ticked (seconds 600) firstCall.2)
      secondCall.1 secondCall.2 := by
    apply Procedure.run_follow
    refine ⟨⟨rfl, .call _⟩, trivial, ?_⟩
    iterate 5 refine ⟨trivial, trivial, ?_⟩
    trivial
  have secondTick : (system sampleVerifier).Run secondCall.2 [.outside]
      (ticked (seconds 601) secondCall.2) :=
    .snoc .nil trivial (.outside (.tick (by decide +kernel)))
  have third : (system sampleVerifier).Run (ticked (seconds 601) secondCall.2)
      purgedCall.1 purgedCall.2 := by
    apply Procedure.run_follow
    refine ⟨⟨rfl, .scheduled⟩, trivial, ?_⟩
    iterate 4 refine ⟨trivial, trivial, ?_⟩
    trivial
  refine ⟨sampleVerifier, sampleStart, _, purgedCall.2, sampleStart_initial,
    (((first.append firstTick).append second).append secondTick).append third,
    ?_⟩
  decide +kernel

end SignedRequests

end Cloud

end ControlForge
