import ControlForge.Directory.Origins
import ControlForge.Directory.Writes

/-!
# The signature counters of passkeys

An authentication reads the counter of its passkey, has the assertion verified
against it, and writes the new counter later, without a look at what is stored
by then.  Where the stored counter has not been overtaken, the counters rise.
-/

namespace ControlForge

namespace Directory

namespace Counters

open Access
open Procedure (Assertions)

variable {Log : Type} {services : Services Log}

/-! ## The property -/

/-- The verifier accepts a counter that is greater than the one it is given, or
both are zero. -/
def Verifies (passkeys : PasskeyAdapter) : Prop :=
  ∀ response challenge publicKey current verified,
    passkeys.verifyAuthentication response challenge publicKey current =
      some verified →
    current < verified.newSignCount ∨
      current = 0 ∧ verified.newSignCount = 0

/-- The counter of an event that accepts a counter of the passkey, but zero. -/
def counterOf (tenantId credentialId : String) : Event → Option Nat
  | .asserted tenant credential signCount =>
      if tenant = tenantId ∧ credential = credentialId ∧ signCount ≠ 0 then
        some signCount
      else none
  | _ => none

/-- The counters of the passkey that were accepted, in order. -/
def accepted (tenantId credentialId : String) (events : List Event) :
    List Nat :=
  events.filterMap (counterOf tenantId credentialId)

@[simp] theorem accepted_append (tenantId credentialId : String)
    (events later : List Event) :
    accepted tenantId credentialId (events ++ later) =
      accepted tenantId credentialId events ++
        accepted tenantId credentialId later :=
  List.filterMap_append

/-- No stored counter is lower than before. -/
def Rise (before after : Records Log) : Prop :=
  ∀ row ∈ before.passkeys.rows, ∃ next ∈ after.passkeys.rows,
    next.hasKey row.tenantId row.credentialId = true ∧
      next.revokedAt = row.revokedAt ∧ row.signCount ≤ next.signCount

/-- No counter but zero is accepted twice. -/
def AcceptedOnce (events : List Event) : Prop :=
  ∀ tenantId credentialId, (accepted tenantId credentialId events).Nodup

/-! ## The condition -/

/-- The transaction of an authentication is not refused. -/
def authenticates (records : Records Log) (challengeId tenantId userId : String)
    (now : Timestamp) : Bool :=
  records.challenges.any (openChallenge challengeId now) &&
    signInAllowed records.identity tenantId userId

/-- The stored counter is the one the assertion was verified against, or is
lower than the new one. -/
def InTime (records : Records Log) (tenantId : String)
    (credential : PasskeyRow) (newSignCount : Nat) : Prop :=
  ∀ stored ∈ records.passkeys.rows,
    stored.hasKey tenantId credential.credentialId = true →
    stored.revokedAt = none →
    stored.signCount = credential.signCount ∨ stored.signCount < newSignCount

instance (records : Records Log) (tenantId : String) (credential : PasskeyRow)
    (newSignCount : Nat) :
    Decidable (InTime records tenantId credential newSignCount) :=
  inferInstanceAs (Decidable (∀ _ ∈ _, _))

/-- The authentication at a point, if it goes through, is in time. -/
def timely (records : Records Log) (now : Timestamp) : Point → Bool
  | .assertionVerified challengeId tenantId userId credential verified =>
      authenticates records challengeId tenantId userId now →
        InTime records tenantId credential verified.newSignCount
  | _ => true

/-- No authentication that goes through has been overtaken. -/
def NotOvertaken (pool : Pool (Records Log) Point) : Label → Prop
  | .resume index draw _ =>
      timely pool.shared draw.now (pool.process index) = true
  | .begin _ | .drop _ | .outside => True

/-! ## The transaction -/

/-- What an authentication that goes through has found, and has written. -/
theorem completeAuthentication_ok
    {challengeId tenantId userId credentialId : String} {newSignCount : Nat}
    {draw : Draw} {records after : Records Log}
    (ran : completeAuthentication services challengeId tenantId userId
      credentialId newSignCount draw records = .ok ((), after)) :
    authenticates records challengeId tenantId userId draw.now = true ∧
      after.passkeys.rows = records.passkeys.rows.map (Table.applyWhere
        (PasskeyRow.isLive tenantId credentialId)
        (PasskeyRow.counted newSignCount draw.now)) := by
  obtain ⟨_, first, consumed, rest⟩ := Transaction.run_bind_ok.mp ran
  obtain ⟨count, second, recorded, issued⟩ := Transaction.run_bind_ok.mp rest
  have consuming : Touches [.challenges] records first :=
    touches_consumeChallenge List.mem_cons_self _ _ _ _ _ consumed
  have recording : Touches [.passkeys, .counters] first second :=
    touches_updatePasskeys (by simp) (by simp) _ _ _ _ _ recorded
  have issuing : Touches [.sessions, .sessionIds] second after :=
    touches_issueSession services (by simp) (by simp) _ _ _ _ _ _ issued
  have allowed := (issueSession_ok issued).1
  have sameIdentity : signInAllowed second.identity tenantId userId =
      signInAllowed records.identity tenantId userId := by
    apply signInAllowed_congr
    · exact (consuming .users (by simp)).trans (recording .users (by simp))
    · exact (consuming .tenants (by simp)).trans (recording .tenants (by simp))
    · exact (consuming .ownerMemberships (by simp)).trans
        (recording .ownerMemberships (by simp))
  constructor
  · rw [authenticates, Bool.and_eq_true, ← sameIdentity]
    exact ⟨(consumeChallenge_ok consumed).1, allowed⟩
  · have same : first.passkeys = records.passkeys :=
      consuming .passkeys (by simp)
    have kept : after.passkeys = second.passkeys :=
      issuing .passkeys (by simp)
    rw [kept, recordAssertion_ok recorded, same]

/-! ## Steps -/

theorem hasKey_iff {tenantId credentialId : String} {row : PasskeyRow} :
    row.hasKey tenantId credentialId = true ↔
      row.tenantId = tenantId ∧ row.credentialId = credentialId := by
  simp [PasskeyRow.hasKey]

theorem Rise.refl (records : Records Log) : Rise records records := by
  intro row member
  exact ⟨row, member, hasKey_iff.mpr ⟨rfl, rfl⟩, rfl, Nat.le_refl _⟩

theorem Rise.trans {first second third : Records Log}
    (left : Rise first second) (right : Rise second third) :
    Rise first third := by
  intro row member
  obtain ⟨middle, middleMember, middleKey, middleRevoked, middleLe⟩ :=
    left row member
  obtain ⟨last, lastMember, lastKey, lastRevoked, lastLe⟩ :=
    right middle middleMember
  obtain ⟨sameTenant, sameCredential⟩ := hasKey_iff.mp middleKey
  rw [sameTenant, sameCredential] at lastKey
  exact ⟨last, lastMember, lastKey, lastRevoked.trans middleRevoked,
    middleLe.trans lastLe⟩

/-- A step that writes no counter keeps every passkey as it is. -/
theorem Rise.of_lasts {before after : Records Log}
    (lasts : Lasts (fun rows row => row ∈ rows) before.passkeys.rows
      after.passkeys.rows) : Rise before after := by
  intro row member
  exact ⟨row, lasts row member, hasKey_iff.mpr ⟨rfl, rfl⟩, rfl, Nat.le_refl _⟩

/-- The assertion a call is about to record was accepted, for a passkey that is
stored and not revoked. -/
def Fits (records : Records Log) : Point → Prop
  | .assertionVerified _ tenantId _ credential verified =>
      (credential.signCount < verified.newSignCount ∨
          credential.signCount = 0 ∧ verified.newSignCount = 0) ∧
        ∃ stored ∈ records.passkeys.rows,
          stored.hasKey tenantId credential.credentialId = true ∧
            stored.revokedAt = none
  | _ => True

/-- The accepted counters rise, up to the one that is stored. -/
def Recorded (events : List Event) (records : Records Log) : Prop :=
  ∀ tenantId credentialId,
    (accepted tenantId credentialId events).Pairwise (· < ·) ∧
      ∀ count ∈ accepted tenantId credentialId events,
        ∃ row ∈ records.passkeys.rows,
          row.hasKey tenantId credentialId = true ∧ row.revokedAt = none ∧
            count ≤ row.signCount

theorem Fits.stable {before after : Records Log} {point : Point}
    (rise : Rise before after) (fits : Fits before point) :
    Fits after point := by
  cases point with
  | assertionVerified challengeId tenantId userId credential verified =>
      obtain ⟨greater, stored, member, isKey, notRevoked⟩ := fits
      obtain ⟨next, nextMember, nextKey, nextRevoked, -⟩ := rise stored member
      obtain ⟨sameTenant, sameCredential⟩ := hasKey_iff.mp isKey
      rw [sameTenant, sameCredential] at nextKey
      exact ⟨greater, next, nextMember, nextKey, nextRevoked.trans notRevoked⟩
  | _ => trivial

theorem Recorded.stable {before after : Records Log} {events : List Event}
    (rise : Rise before after) (recorded : Recorded events before) :
    Recorded events after := by
  intro tenantId credentialId
  obtain ⟨rising, stored⟩ := recorded tenantId credentialId
  refine ⟨rising, fun count member => ?_⟩
  obtain ⟨row, rowMember, isKey, notRevoked, le⟩ := stored count member
  obtain ⟨next, nextMember, nextKey, nextRevoked, nextLe⟩ := rise row rowMember
  obtain ⟨sameTenant, sameCredential⟩ := hasKey_iff.mp isKey
  rw [sameTenant, sameCredential] at nextKey
  exact ⟨next, nextMember, nextKey, nextRevoked.trans notRevoked,
    le.trans nextLe⟩

/-- An authentication in time raises the counter, or leaves it at zero. -/
theorem rise_assertion {records after : Records Log}
    {challengeId tenantId userId : String} {credential : PasskeyRow}
    {verified : AuthenticationVerification} {draw : Draw}
    (fits : Fits records (.assertionVerified challengeId tenantId userId
      credential verified))
    (inTime : InTime records tenantId credential verified.newSignCount)
    (ran : completeAuthentication services challengeId tenantId userId
      credential.credentialId verified.newSignCount draw records =
      .ok ((), after)) :
    Rise records after ∧
      ∀ stored ∈ records.passkeys.rows,
        stored.hasKey tenantId credential.credentialId = true →
        stored.revokedAt = none → verified.newSignCount ≠ 0 →
        stored.signCount < verified.newSignCount := by
  have written := (completeAuthentication_ok ran).2
  have lower : ∀ stored ∈ records.passkeys.rows,
      stored.hasKey tenantId credential.credentialId = true →
      stored.revokedAt = none → stored.signCount < verified.newSignCount ∨
        stored.signCount = 0 ∧ verified.newSignCount = 0 := by
    intro stored member isKey notRevoked
    rcases inTime stored member isKey notRevoked with same | less
    · rw [same]
      exact fits.1
    · exact .inl less
  constructor
  · intro row member
    refine ⟨_, written ▸ List.mem_map_of_mem member, ?_⟩
    cases isSelected : row.isLive tenantId credential.credentialId with
    | false =>
        rw [Table.applyWhere_unselected isSelected]
        exact ⟨hasKey_iff.mpr ⟨rfl, rfl⟩, rfl, Nat.le_refl _⟩
    | true =>
        rw [Table.applyWhere_selected isSelected]
        obtain ⟨isKey, notRevoked⟩ := Bool.and_eq_true_iff.mp isSelected
        have least := lower row member isKey
          (Option.isNone_iff_eq_none.mp notRevoked)
        refine ⟨hasKey_iff.mpr ⟨rfl, rfl⟩, rfl, ?_⟩
        change row.signCount ≤ verified.newSignCount
        omega
  · intro stored member isKey notRevoked positive
    have least := lower stored member isKey notRevoked
    omega

/-- The counter an authentication has written. -/
theorem stored_assertion {records after : Records Log}
    {challengeId tenantId userId : String} {credential : PasskeyRow}
    {verified : AuthenticationVerification} {draw : Draw}
    (fits : Fits records (.assertionVerified challengeId tenantId userId
      credential verified))
    (ran : completeAuthentication services challengeId tenantId userId
      credential.credentialId verified.newSignCount draw records =
      .ok ((), after)) :
    ∃ row ∈ after.passkeys.rows,
      row.hasKey tenantId credential.credentialId = true ∧
        row.revokedAt = none ∧ row.signCount = verified.newSignCount := by
  obtain ⟨-, stored, member, isKey, notRevoked⟩ := fits
  have isSelected : stored.isLive tenantId credential.credentialId = true := by
    simp [PasskeyRow.isLive, isKey, notRevoked]
  refine ⟨_, (completeAuthentication_ok ran).2 ▸ List.mem_map_of_mem member,
    ?_⟩
  rw [Table.applyWhere_selected isSelected]
  exact ⟨isKey, notRevoked, rfl⟩

/-- Only the recording of an assertion accepts a counter. -/
theorem accepted_eq_nil {records after : Records Log} {draw : Draw}
    {point next : Point} {effect : Effect}
    (moved : resume services draw point records = (next, after, effect))
    (otherwise : ∀ challengeId tenantId userId credential verified,
      point ≠ .assertionVerified challengeId tenantId userId credential
        verified)
    (tenantId credentialId : String) :
    accepted tenantId credentialId effect.events = [] := by
  rw [accepted, List.filterMap_eq_nil_iff]
  intro event member
  have origin := resume_origin moved member
  cases event with
  | asserted tenant credential signCount =>
      obtain ⟨challengeId, userId, row, verified, isPoint, -⟩ := origin
      exact absurd isPoint (otherwise _ _ _ _ _)
  | _ => rfl

/-- The counter of an accepted assertion is higher than every earlier one. -/
theorem recorded_assertion {records after : Records Log} {events : List Event}
    {challengeId tenantId userId sessionId : String} {secrets : List Secret}
    {credential : PasskeyRow} {verified : AuthenticationVerification}
    {draw : Draw} (recorded : Recorded events records)
    (fits : Fits records (.assertionVerified challengeId tenantId userId
      credential verified))
    (inTime : InTime records tenantId credential verified.newSignCount)
    (ran : completeAuthentication services challengeId tenantId userId
      credential.credentialId verified.newSignCount draw records =
      .ok ((), after)) :
    Recorded (events ++ [
      .asserted tenantId credential.credentialId verified.newSignCount,
      .signedIn secrets sessionId]) after := by
  obtain ⟨rise, higher⟩ := rise_assertion fits inTime ran
  intro tenant credentialId
  have before := recorded tenant credentialId
  have later := recorded.stable rise tenant credentialId
  rw [accepted_append]
  by_cases isCounter : tenantId = tenant ∧
      credential.credentialId = credentialId ∧ verified.newSignCount ≠ 0
  · obtain ⟨rfl, rfl, positive⟩ := isCounter
    have added : accepted tenantId credential.credentialId [
        .asserted tenantId credential.credentialId verified.newSignCount,
        .signedIn secrets sessionId] = [verified.newSignCount] := by
      simp [accepted, counterOf, positive]
    rw [added]
    constructor
    · refine List.pairwise_append.mpr ⟨before.1, List.pairwise_singleton _ _,
        ?_⟩
      intro count member other isNew
      rw [List.mem_singleton.mp isNew]
      obtain ⟨row, rowMember, isKey, notRevoked, le⟩ := before.2 count member
      exact Nat.lt_of_le_of_lt le
        (higher row rowMember isKey notRevoked positive)
    · intro count member
      rcases List.mem_append.mp member with old | isNew
      · exact later.2 count old
      · rw [List.mem_singleton.mp isNew]
        obtain ⟨row, rowMember, isKey, notRevoked, same⟩ :=
          stored_assertion fits ran
        exact ⟨row, rowMember, isKey, notRevoked, same.ge⟩
  · have nothing : accepted tenant credentialId [
        .asserted tenantId credential.credentialId verified.newSignCount,
        .signedIn secrets sessionId] = [] := by
      simp [accepted, counterOf, isCounter]
    rw [nothing, List.append_nil]
    exact later

/-! ## Runs -/

def assertions : Assertions (Records Log) Point Label where
  shared labels := Recorded (reported labels)
  process := Fits
  pair _ _ _ := True

/-- A call reads the counter of a passkey that is stored, and gets its verdict
from the verifier. -/
theorem fits_read {records : Records Log} {challenge : ChallengeRow}
    {tenantId userId credentialId : String} {response : Dict}
    {credential : PasskeyRow} {verified : AuthenticationVerification}
    (verifies : Verifies services.passkeys)
    (read : readAssertion services records challenge tenantId userId
      credentialId response = .ok (credential, verified)) :
    Fits records (.assertionVerified challenge.challengeId tenantId userId
      credential verified) := by
  obtain ⟨_, isRead, verdict⟩ := bind_eq_ok.mp read
  obtain ⟨_, isVerified, same⟩ := bind_eq_ok.mp verdict
  cases same
  have isFound := found_eq_ok.mp isRead
  have member := List.mem_of_find?_eq_some isFound
  have selected := List.find?_some isFound
  simp only [PasskeyRow.usableBy, Bool.and_eq_true, decide_eq_true_eq,
    Option.isNone_iff_eq_none] at selected
  constructor
  · unfold verifyAssertion at isVerified
    split at isVerified
    · cases isVerified
    · next accepted =>
        split at isVerified
        · cases isVerified
          exact verifies _ _ _ _ _ accepted
        · cases isVerified
  · exact ⟨credential, member, hasKey_iff.mpr ⟨selected.1.1.1, rfl⟩,
      selected.1.2⟩

theorem fits_next {records after : Records Log} {draw : Draw}
    {point next : Point} {effect : Effect}
    (verifies : Verifies services.passkeys)
    (moved : resume services draw point records = (next, after, effect)) :
    Fits records next := by
  have reads := resume_readAt moved
  cases next with
  | assertionVerified challengeId tenantId userId credential verified =>
      obtain ⟨challenge, credentialId, response, -, rfl, isRead⟩ := reads
      exact fits_read verifies isRead
  | _ => trivial

/-- A step that records no assertion writes no counter. -/
theorem rise_otherwise {records after : Records Log} {draw : Draw}
    {point next : Point} {effect : Effect}
    (moved : resume services draw point records = (next, after, effect))
    (otherwise : ∀ challengeId tenantId userId credential verified,
      point ≠ .assertionVerified challengeId tenantId userId credential
        verified) : Rise records after := by
  apply Rise.of_lasts
  refine (resume_moved moved).touches .counters ?_
  cases point with
  | assertionVerified => exact absurd rfl (otherwise _ _ _ _ _)
  | called call => cases call <;> simp
  | _ => simp

theorem sound (verifies : Verifies services.passkeys) :
    (@assertions Log).Sound (procedure services) NotOvertaken
      fun before after _ => Rise before after where
  symm := fun _ => trivial
  idle _ := trivial
  idlePair _ _ := trivial
  starts _ := by
    rintro _ ⟨call, rfl⟩
    exact ⟨trivial, fun _ => trivial⟩
  unseen {labels records label} holds unseen := by
    change Recorded (reported (labels ++ [label])) records
    rw [reported_snoc, eventsOf_unseen unseen, List.append_nil]
    exact holds
  owner {labels pool index draw next after effect} holds inTime moved := by
    change Recorded (reported (labels ++ [_])) after ∧ Fits after next ∧ _
    rw [reported_snoc]
    have fitsNext := fits_next verifies moved
    have fits := holds.process index
    by_cases isAssertion : ∃ challengeId tenantId userId credential verified,
        pool.process index = .assertionVerified challengeId tenantId userId
          credential verified
    · obtain ⟨challengeId, tenantId, userId, credential, verified, isPoint⟩ :=
        isAssertion
      change Fits pool.shared (pool.process index) at fits
      change timely pool.shared draw.now (pool.process index) = true at inTime
      rw [isPoint] at moved fits inTime
      obtain ⟨rfl, outcome⟩ := finish_eq moved
      rcases outcome with ⟨_, ran, rfl⟩ | ⟨rfl, rfl⟩
      · have current := of_decide_eq_true inTime (completeAuthentication_ok ran).1
        have rise := (rise_assertion fits current ran).1
        exact ⟨recorded_assertion holds.shared fits current ran, trivial,
          fun other _ => ⟨rise, trivial⟩⟩
      · rw [eventsOf, Effect.events, List.append_nil]
        exact ⟨holds.shared, trivial, fun other _ => ⟨.refl _, trivial⟩⟩
    · have otherwise : ∀ challengeId tenantId userId credential verified,
          pool.process index ≠ .assertionVerified challengeId tenantId userId
            credential verified := by
        intro challengeId tenantId userId credential verified isPoint
        exact isAssertion ⟨_, _, _, _, _, isPoint⟩
      have rise := rise_otherwise moved otherwise
      refine ⟨fun tenantId credentialId => ?_, fitsNext.stable rise,
        fun other _ => ⟨rise, trivial⟩⟩
      rw [accepted_append, eventsOf,
        accepted_eq_nil moved otherwise, List.append_nil]
      exact Recorded.stable rise holds.shared tenantId credentialId
  outside {labels records after} holds changed := by
    have rise : Rise records after :=
      Rise.of_lasts (changed .counters (by decide))
    exact ⟨Recorded.stable rise holds, fun _ => rise⟩
  refl _ _ := .refl _
  stable rise fits := fits.stable rise
  stablePair _ _ _ := trivial

/-- A step in time lowers no counter. -/
theorem rise_step {labels : List Label} {pool next : Pool (Records Log) Point}
    {label : Label} (verifies : Verifies services.passkeys)
    (holds : assertions.Hold labels pool)
    (inTime : NotOvertaken pool label)
    (step : (procedure services).Step pool label next) :
    Rise pool.shared next.shared := by
  cases step with
  | begin free isStart => exact .refl _
  | @resume index draw point records effect moved =>
      obtain ⟨-, -, others⟩ := (sound verifies).owner holds inTime moved
      exact (others (index + 1) (Nat.succ_ne_self index)).1
  | drop index => exact .refl _
  | outside changed => exact Rise.of_lasts (changed .counters (by decide))

theorem run_hold {start pool : Pool (Records Log) Point} {labels : List Label}
    (verifies : Verifies services.passkeys)
    (isInitial : ((procedure services).system fun _ => True).initial start)
    (run : ((procedure services).system fun _ => True).RunWhere NotOvertaken
      start labels pool) : assertions.Hold labels pool := by
  refine Assertions.Hold.run (sound verifies) (fun records _ => ?_) isInitial
    run
  intro tenantId credentialId
  exact ⟨.nil, nofun⟩

/-- Every assertion that is about to be recorded fits. -/
def Held (pool : Pool (Records Log) Point) : Prop :=
  ∃ labels, assertions.Hold labels pool

/-- While no authentication is overtaken, stored counters never fall, and no
counter but zero is accepted twice. -/
theorem counters_rise {start middle finish : Pool (Records Log) Point}
    {labels later : List Label} (verifies : Verifies services.passkeys)
    (isInitial : ((procedure services).system fun _ => True).initial start)
    (before : ((procedure services).system fun _ => True).RunWhere NotOvertaken
      start labels middle)
    (after : ((procedure services).system fun _ => True).RunWhere NotOvertaken
      middle later finish) :
    Rise middle.shared finish.shared ∧
      AcceptedOnce (reported (labels ++ later)) := by
  constructor
  · have held : Held middle := ⟨labels, run_hold verifies isInitial before⟩
    refine @TransitionSystem.RunWhere.related _ _ _ _ Held
      (fun first second => Rise first.shared second.shared)
      (fun _ => .refl _) Rise.trans ?_ ?_ _ _ _ after held
    · rintro pool label next ⟨earlier, holds⟩ inTime step
      exact ⟨_, holds.step (sound verifies) inTime step⟩
    · rintro pool label next ⟨earlier, holds⟩ inTime step
      exact rise_step verifies holds inTime step
  · intro tenantId credentialId
    have holds := run_hold verifies isInitial (before.append after)
    exact (holds.shared tenantId credentialId).1.imp Nat.ne_of_lt

/-! ### A run, and one in which an authentication is overtaken -/

theorem verifies_sample : Verifies sampleServices.passkeys := by
  intro response challenge publicKey current verified accepted
  change samplePasskeys.verifyAuthentication response challenge publicKey
    current = some verified at accepted
  simp only [samplePasskeys, Option.bind_eq_bind, Option.bind_eq_some_iff]
    at accepted
  obtain ⟨credentialId, -, count, -, passed⟩ := accepted
  split at passed
  · next holds =>
      cases passed
      exact holds
  · cases passed

def anasPasskey : PasskeyRow where
  tenantId := "net"
  userId := "ana"
  credentialId := "key"
  publicKey := []
  signCount := 5
  label := "Ana"
  createdAt := 0
  lastUsedAt := none
  revokedAt := none

def anasChallenge (challengeId : String) : ChallengeRow where
  challengeId
  tenantId := some "net"
  userId := some "ana"
  purpose := .authentication
  challenge := []
  context := none
  expiresAt := 9000
  consumedAt := none

/-- Ana has a passkey, and three challenges to use it with. -/
def challengedRecords : Records Unit :=
  { sampleRecords with
    passkeys := ⟨[anasPasskey], by decide⟩
    challenges := [anasChallenge "first", anasChallenge "second",
      anasChallenge "third"] }

def challengedPool : Pool (Records Unit) Point :=
  ⟨challengedRecords, fun _ => .idle⟩

def assertion (count : Int) : Dict where
  members := [("id", .str "key"), ("count", .int count)]

/-- A call begins with an assertion and reads what it needs. -/
def present (index : Nat) (challengeId : String) (count : Int) :
    List (Procedure.Command Point Draw) :=
  .begin index (.called (.completeAuthentication challengeId
    (assertion count))) :: resumes index 2 (drawAt 1000 challengeId)

/-- The transaction of the call. -/
def commitAt (index : Nat) (challengeId : String) :
    List (Procedure.Command Point Draw) :=
  resumes index 1 (drawAt 1000 challengeId)

/-- Two authentications read the counter `5`; that with `7` is recorded. -/
def overlapping : List Label × Pool (Records Unit) Point :=
  (procedure sampleServices).follow challengedPool
    (present 0 "first" 7 ++ present 1 "second" 6 ++ commitAt 0 "first")

/-- That with `6` is recorded over it. -/
def overtaken : List Label × Pool (Records Unit) Point :=
  (procedure sampleServices).follow overlapping.2 (commitAt 1 "second")

/-- A clone presents `7` again. -/
def replayed : List Label × Pool (Records Unit) Point :=
  (procedure sampleServices).follow overtaken.2
    (present 2 "third" 7 ++ commitAt 2 "third")

def countersIn (pool : Pool (Records Unit) Point) : List Nat :=
  pool.shared.passkeys.rows.map (·.signCount)

/-- The stored counter falls, and the counter of a clone is accepted. -/
theorem counters_rise_overtaken :
    Verifies sampleServices.passkeys ∧
    ((procedure sampleServices).system fun _ => True).initial challengedPool ∧
    ((procedure sampleServices).system fun _ => True).Run challengedPool
      overlapping.1 overlapping.2 ∧
    ((procedure sampleServices).system fun _ => True).Run overlapping.2
      overtaken.1 overtaken.2 ∧
    ((procedure sampleServices).system fun _ => True).Run overtaken.2
      replayed.1 replayed.2 ∧
    ¬ Rise overlapping.2.shared overtaken.2.shared ∧
    ¬ AcceptedOnce
      (reported (overlapping.1 ++ (overtaken.1 ++ replayed.1))) := by
  refine ⟨verifies_sample, ⟨trivial, fun _ => rfl⟩, ?_, ?_, ?_, ?_, ?_⟩
  · apply Procedure.run_follow
    refine ⟨⟨rfl, _, rfl⟩, trivial, trivial, trivial, trivial, trivial,
      ⟨rfl, _, rfl⟩, trivial, trivial, trivial, trivial, trivial, trivial,
      trivial, trivial⟩
  · apply Procedure.run_follow
    exact ⟨trivial, trivial, trivial⟩
  · apply Procedure.run_follow
    refine ⟨⟨rfl, _, rfl⟩, trivial, trivial, trivial, trivial, trivial,
      trivial, trivial, trivial⟩
  · intro rise
    have stored : countersIn overlapping.2 = [7] := by decide +kernel
    have fallen : countersIn overtaken.2 = [6] := by decide +kernel
    obtain ⟨row, member, isSeven⟩ := List.mem_map.mp
      (stored ▸ List.mem_singleton_self 7)
    obtain ⟨next, nextMember, -, -, le⟩ := rise row member
    have isSix : next.signCount ∈ countersIn overtaken.2 :=
      List.mem_map_of_mem nextMember
    rw [fallen, List.mem_singleton] at isSix
    omega
  · intro once
    have twice : accepted "net" "key"
        (reported (overlapping.1 ++ (overtaken.1 ++ replayed.1))) =
        [7, 6, 7] := by
      decide +kernel
    have distinct := once "net" "key"
    rw [twice] at distinct
    revert distinct
    decide

/-- One authentication after the other. -/
def firstSignIn : List Label × Pool (Records Unit) Point :=
  (procedure sampleServices).follow challengedPool
    (present 0 "first" 7 ++ commitAt 0 "first")

def secondSignIn : List Label × Pool (Records Unit) Point :=
  (procedure sampleServices).follow firstSignIn.2
    (present 1 "second" 8 ++ commitAt 1 "second")

theorem counters_rise_inTurn :
    Rise firstSignIn.2.shared secondSignIn.2.shared ∧
      AcceptedOnce (reported (firstSignIn.1 ++ secondSignIn.1)) ∧
      accepted "net" "key" (reported (firstSignIn.1 ++ secondSignIn.1)) =
        [7, 8] := by
  have isInitial : ((procedure sampleServices).system fun _ => True).initial
      challengedPool := ⟨trivial, fun _ => rfl⟩
  have before : ((procedure sampleServices).system fun _ => True).RunWhere
      NotOvertaken challengedPool firstSignIn.1 firstSignIn.2 := by
    apply Procedure.run_follow
    refine ⟨⟨rfl, _, rfl⟩, trivial, trivial, ?_, trivial, ?_, trivial, ?_,
      trivial⟩
    all_goals change timely _ _ _ = true
    all_goals decide +kernel
  have after : ((procedure sampleServices).system fun _ => True).RunWhere
      NotOvertaken firstSignIn.2 secondSignIn.1 secondSignIn.2 := by
    apply Procedure.run_follow
    refine ⟨⟨rfl, _, rfl⟩, trivial, trivial, ?_, trivial, ?_, trivial, ?_,
      trivial⟩
    all_goals change timely _ _ _ = true
    all_goals decide +kernel
  have rises := counters_rise verifies_sample isInitial before after
  exact ⟨rises.1, rises.2, by decide +kernel⟩

end Counters

end Directory

end ControlForge
