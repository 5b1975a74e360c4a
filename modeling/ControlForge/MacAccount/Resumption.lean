import ControlForge.Foundation.Transition
import ControlForge.MacAccount.Attempts

/-!
# An enrollment can be resumed

However the calls of an attempt end, the Mac it leaves is one from which the
enrollment can be finished or started again, as long as no attempt stops
between the keychain taking the credential pair and the receipt being in place.
A credential pair of another scope is never stored.
-/

namespace ControlForge

namespace MacAccount

open Effect (Ensures)

/-! ## Attempts -/

inductive Operation where
  | configureServer (host : String) (port : Nat)
  | enroll (uid : Nat)
  | finishActivation (uid : Nat)

structure Attempt where
  surroundings : Surroundings
  operation : Operation

/-- The Mac after an attempt. -/
def Attempt.after (attempt : Attempt) (mac : Mac) : Mac :=
  match attempt.operation with
  | .configureServer host port =>
      (configureServer attempt.surroundings host port mac).2
  | .enroll uid => (enroll attempt.surroundings uid mac).2
  | .finishActivation uid =>
      (finishActivation attempt.surroundings uid mac).2

/-- Attempts one after the other: the lock admits one at a time.  The collector
has been installed with the current helper, and nothing is enrolled yet. -/
def enrollments : TransitionSystem Mac Attempt where
  initial mac := mac.profile = none ∧ mac.receipt = none ∧
    mac.keychain = none ∧
    mac.config.keychainService = "com.controlforge.collector.v2"
  step mac attempt next := next = attempt.after mac

/-- An enrollment does not stop between the pair and its receipt. -/
def Attempt.Uncut (attempt : Attempt) : Prop :=
  ∀ uid, attempt.operation = .enroll uid → attempt.surroundings.Whole

/-! ## What may be left -/

/-- All calls end well. -/
structure Surroundings.Working (surroundings : Surroundings) : Prop where
  done : ∀ site, surroundings.answer site = .done
  darwin : surroundings.system = "Darwin"
  root : surroundings.euid = 0

/-- There is a receipt, and its user can finish the activation with it. -/
def FinishCompletes (mac : Mac) : Prop :=
  ∃ receipt, mac.receipt = some receipt ∧
    ∀ surroundings : Surroundings, surroundings.Working →
      (finishActivation surroundings receipt.localUid mac).1 =
        .ok { receipt with activationState := .reporting }

/-- A user, a request for this Mac and an answer of the server to it. -/
structure Granted (surroundings : Surroundings) (uid : Nat)
    (profile : AccountServerProfile) (request : AccountEnrollmentRequest)
    (result : AccountEndpointEnrollmentResult) (now : Timestamp) : Prop where
  user : 500 ≤ uid ∧ uid ≤ 2 ^ 31 - 1
  isNow : surroundings.now = some now
  isRequest : surroundings.request = some request
  isResponse : surroundings.response = some result
  sameDevice : request.expectedDeviceId = profile.deviceId
  name : Text.strip request.displayName ≠ "" ∧
    (Text.strip request.displayName).length ≤ 100
  grant : 32 ≤ request.grant.length ∧ request.grant.length ≤ 128
  matching : result.matchesRequest request profile now = true
  credentialId : isCredentialId result.credentialId = true
  credentialSecret : 32 ≤ result.credentialSecret.length

/-- Enrolling can be started again: once a server has been configured, a
granted request completes. -/
structure EnrollStarts (mac : Mac) : Prop where
  configures : mac.profile = none →
    ∀ (surroundings : Surroundings) (host : String) (port : Nat),
      surroundings.Working →
      (⟨host, port, surroundings.newDeviceId⟩ : AccountServerProfile).valid =
        true →
      configureServer surroundings host port mac =
        (.ok ⟨host, port, surroundings.newDeviceId⟩,
          { mac with profile := some ⟨host, port, surroundings.newDeviceId⟩ })
  enrolls : ∀ profile, mac.profile = some profile →
    ∀ (surroundings : Surroundings) (uid : Nat)
      (request : AccountEnrollmentRequest)
      (result : AccountEndpointEnrollmentResult) (now : Timestamp),
      surroundings.Working →
      Granted surroundings uid profile request result now →
      (enroll surroundings uid mac).1 =
        .ok { receiptFor profile result uid now with
          activationState := .reporting }

/-- Whoever comes next can finish, or start again. -/
def Resumable (mac : Mac) : Prop :=
  (mac.keychain.isSome = true → FinishCompletes mac) ∧
    (mac.keychain = none → EnrollStarts mac)

/-- The pair of a result whose scope is the one that was requested. -/
def WithinScope (surroundings : Surroundings) (mac : Mac)
    (credentials : Credentials) : Prop :=
  ∃ profile request result now, mac.profile = some profile ∧
    surroundings.request = some request ∧
    surroundings.response = some result ∧ surroundings.now = some now ∧
    request.expectedDeviceId = profile.deviceId ∧
    result.matchesRequest request profile now = true ∧
    credentials = ⟨result.credentialId, result.credentialSecret⟩

def StoresWithinScope (mac : Mac) (attempt : Attempt) : Prop :=
  (attempt.after mac).keychain = mac.keychain ∨
    ∃ credentials, WithinScope attempt.surroundings mac credentials ∧
      (attempt.after mac).keychain = some credentials

/-! ## What holds between attempts -/

/-- A receipt with which the activation can be finished. -/
structure Pending (mac : Mac) (profile : AccountServerProfile)
    (receipt : NetworkMembershipReceipt) : Prop where
  isProfile : mac.profile = some profile
  isReceipt : mac.receipt = some receipt
  user : 500 ≤ receipt.localUid ∧ receipt.localUid ≤ 2 ^ 31 - 1
  matching : receipt.isPending profile = true
  installed : mac.config.isInstalled profile = true

structure Sound (mac : Mac) : Prop where
  helper : mac.config.keychainService = "com.controlforge.collector.v2"
  valid : ∀ profile, mac.profile = some profile → profile.valid = true
  clear : mac.keychain = none → mac.receipt = none
  pending : mac.keychain.isSome = true →
    ∃ profile receipt, Pending mac profile receipt

theorem sound_of_initial {mac : Mac} (initial : enrollments.initial mac) :
    Sound mac := by
  obtain ⟨noProfile, noReceipt, noKeychain, helper⟩ := initial
  exact {
    helper
    valid := by simp [noProfile]
    clear := fun _ => noReceipt
    pending := by simp [noKeychain] }

theorem helper_of_isInstalled {definition : CollectorDefinition}
    {profile : AccountServerProfile}
    (installed : definition.isInstalled profile = true) :
    definition.keychainService = "com.controlforge.collector.v2" := by
  simp only [CollectorDefinition.isInstalled, Bool.and_eq_true,
    decide_eq_true_eq] at installed
  exact installed.2

theorem isPending_receiptFor {request : AccountEnrollmentRequest}
    {profile : AccountServerProfile} {result : AccountEndpointEnrollmentResult}
    {now : Timestamp} {uid : Nat}
    (matching : result.matchesRequest request profile now = true) :
    (receiptFor profile result uid now).isPending profile = true := by
  simp only [AccountEndpointEnrollmentResult.matchesRequest, Bool.and_eq_true,
    decide_eq_true_eq] at matching
  simp [NetworkMembershipReceipt.isPending, receiptFor, matching.1.2]

namespace Sound

variable {mac : Mac} (sound : Sound mac)

include sound

theorem configured {profile : AccountServerProfile}
    (valid : profile.valid = true) (empty : mac.keychain = none) :
    Sound { mac with profile := some profile } where
  helper := sound.helper
  valid := by
    rintro other ⟨⟩
    exact valid
  clear := sound.clear
  pending := by simp [empty]

theorem reporting {receipt : NetworkMembershipReceipt}
    (isReceipt : mac.receipt = some receipt) :
    Sound { mac with
      receipt := some { receipt with activationState := .reporting } } where
  helper := sound.helper
  valid := sound.valid
  clear := fun empty => by simp [sound.clear empty] at isReceipt
  pending := by
    intro stored
    obtain ⟨profile, known, pending⟩ := sound.pending stored
    obtain rfl := Option.some.inj (pending.isReceipt.symm.trans isReceipt)
    exact ⟨profile, _, {
      isProfile := pending.isProfile
      isReceipt := rfl
      user := pending.user
      matching := pending.matching
      installed := pending.installed }⟩

theorem enrolled {surroundings : Surroundings} {uid : Nat} {after : Mac}
    (whole : surroundings.Whole) (leaves : EnrollLeaves surroundings uid mac after) :
    Sound after := by
  cases leaves with
  | unchanged => exact sound
  | configured clear =>
      exact {
        helper := helper_of_isInstalled clear.installed
        valid := sound.valid
        clear := fun _ => clear.noReceipt
        pending := by simp [clear.noKeychain] }
  | cut _ _ notWhole => exact absurd whole notWhole
  | @received request profile definition result now clear fits state =>
      have matching : (receiptFor profile result uid now).isPending profile =
          true := isPending_receiptFor fits.matching
      exact {
        helper := helper_of_isInstalled clear.installed
        valid := sound.valid
        clear := nofun
        pending := fun _ => ⟨_, _, {
          isProfile := clear.isProfile
          isReceipt := rfl
          user := clear.user
          matching
          installed := clear.installed }⟩ }

theorem after {attempt : Attempt} (uncut : attempt.Uncut) :
    Sound (attempt.after mac) := by
  obtain ⟨surroundings, operation⟩ := attempt
  cases operation with
  | configureServer host port =>
      have leaves : Ensures (· = mac) (configureServer surroundings host port)
        _ := configureServer_leaves
      change Sound (configureServer surroundings host port mac).2
      rcases leaves.ends mac rfl with same | ⟨empty, _, profile, valid, same⟩
      · rwa [same]
      · rw [same]
        exact sound.configured valid empty
  | enroll uid =>
      exact sound.enrolled (uncut uid rfl) (enroll_leaves.ends mac rfl)
  | finishActivation uid =>
      have leaves : Ensures (· = mac) (finishActivation surroundings uid) _ :=
        finishActivation_leaves
      change Sound (finishActivation surroundings uid mac).2
      rcases leaves.ends mac rfl with same | ⟨receipt, isReceipt, same⟩
      · rwa [same]
      · rw [same]
        exact sound.reporting isReceipt

end Sound

/-! ## Attempts whose calls end well -/

theorem raiseIf_of_not {condition : Prop} [Decidable condition]
    {failure : Failure} {mac : Mac} (holds : ¬ condition) :
    raiseIf condition failure mac = (.ok (), mac) := by
  simp only [raiseIf, if_neg holds]
  rfl

theorem validatedDefinition_of_valid {profile : AccountServerProfile}
    {current : CollectorDefinition} {mac : Mac} (valid : profile.valid = true)
    (helper : current.keychainService = "com.controlforge.collector.v2") :
    ∃ definition,
      validatedDefinition profile current mac = (.ok definition, mac) := by
  simp only [validatedDefinition, Effect.bind_apply,
    raiseIf_of_not (not_not.mpr helper), raiseIf_of_not (not_not.mpr valid),
    Effect.pure_apply]
  exact ⟨_, rfl⟩

namespace Surroundings.Working

variable {surroundings : Surroundings} (working : surroundings.Working)
  {failure : Failure} {mac : Mac}

include working

theorem call {site : Call} {effect : Mac → Mac} :
    MacAccount.call surroundings site failure effect mac =
      (.ok (), effect mac) := by
  simp [MacAccount.call, working.done, Answer.applied]

theorem check {site : Call} :
    MacAccount.check surroundings site failure mac = (.ok (), mac) :=
  working.call

theorem replaceFile {file : WrittenFile} {effect : Mac → Mac} :
    MacAccount.replaceFile surroundings file failure effect mac =
      (.ok (), effect mac) := by
  simp only [MacAccount.replaceFile, Effect.bind_apply, working.check,
    working.call]

theorem exclusive {Value : Type} {body : Program Value} :
    MacAccount.exclusive surroundings body mac = body mac := by
  have isAdministrator :
      ¬ (surroundings.system ≠ "Darwin" ∨ surroundings.euid ≠ 0) := by
    simp [working.darwin, working.root]
  simp only [MacAccount.exclusive, Effect.bind_apply,
    raiseIf_of_not isAdministrator, working.check]

theorem checkConfig :
    MacAccount.checkConfig surroundings mac = (.ok (), mac) := by
  simp only [MacAccount.checkConfig, Effect.bind_apply, working.check]

theorem loadConfig :
    MacAccount.loadConfig surroundings mac = (.ok mac.config, mac) := by
  simp only [MacAccount.loadConfig, Effect.bind_apply, working.check,
    Effect.gets_apply]

theorem requireInitialEmpty (empty : mac.keychain = none) :
    MacAccount.requireInitialEmpty surroundings mac = (.ok (), mac) := by
  have isEmpty : ¬ mac.keychain.isSome = true := by simp [empty]
  simp only [MacAccount.requireInitialEmpty, Effect.bind_apply, working.check,
    Effect.gets_apply, raiseIf_of_not isEmpty]

theorem readAccountProfile {profile : AccountServerProfile}
    (isProfile : mac.profile = some profile) (valid : profile.valid = true) :
    MacAccount.readAccountProfile surroundings mac = (.ok profile, mac) := by
  simp only [MacAccount.readAccountProfile, Effect.bind_apply, working.check,
    Effect.gets_apply, isProfile, raiseIf_of_not (not_not.mpr valid),
    Effect.pure_apply]

theorem report {failed : Failure → Failure}
    {receipt : NetworkMembershipReceipt} :
    MacAccount.report surroundings failed receipt mac =
      (.ok { receipt with activationState := .reporting }, { mac with
        receipt := some { receipt with activationState := .reporting } }) := by
  simp only [MacAccount.report, Effect.bind_apply, Effect.tryCatch_apply,
    working.check, writeReceipt, working.replaceFile, Effect.pure_apply]

theorem finishActivation {profile : AccountServerProfile}
    {receipt : NetworkMembershipReceipt}
    (pending : Pending mac profile receipt) (valid : profile.valid = true) :
    MacAccount.finishActivation surroundings receipt.localUid mac =
      (.ok { receipt with activationState := .reporting }, { mac with
        receipt := some { receipt with activationState := .reporting } }) := by
  have inRange :
      ¬ (receipt.localUid < 500 ∨ 2 ^ 31 - 1 < receipt.localUid) := by
    have user := pending.user
    omega
  have owned :
      ¬ (receipt.localUid ≠ receipt.localUid ∨ ¬ receipt.isPending profile) := by
    simp [pending.matching]
  simp only [MacAccount.finishActivation, working.exclusive, Effect.bind_apply,
    raiseIf_of_not inRange, working.readAccountProfile pending.isProfile valid,
    working.check, Effect.gets_apply, pending.isReceipt, raiseIf_of_not owned,
    working.checkConfig, working.loadConfig,
    raiseIf_of_not (not_not.mpr pending.installed), working.report]

theorem configureServer {host : String} {port : Nat} (sound : Sound mac)
    (empty : mac.keychain = none) (noProfile : mac.profile = none)
    (valid : (⟨host, port, surroundings.newDeviceId⟩ :
      AccountServerProfile).valid = true) :
    MacAccount.configureServer surroundings host port mac =
      (.ok ⟨host, port, surroundings.newDeviceId⟩,
        { mac with profile := some ⟨host, port, surroundings.newDeviceId⟩ }) := by
  have bounded := (Bool.and_eq_true _ _ ▸ valid).1
  obtain ⟨definition, validated⟩ : ∃ definition,
      validatedDefinition _ mac.config mac = (.ok definition, mac) :=
    validatedDefinition_of_valid valid sound.helper
  simp only [MacAccount.configureServer, working.exclusive, Effect.bind_apply,
    working.requireInitialEmpty empty, working.checkConfig, working.loadConfig,
    raiseIf_of_not (not_not.mpr bounded), validated, working.check,
    Effect.gets_apply, noProfile, working.replaceFile, Effect.pure_apply]

variable {uid : Nat} {profile : AccountServerProfile}
  {request : AccountEnrollmentRequest} {result : AccountEndpointEnrollmentResult}
  {now : Timestamp} (granted : Granted surroundings uid profile request result now)

include granted

theorem claim :
    MacAccount.claim surroundings profile request mac = (.ok result, mac) := by
  have isNamed : ¬ (Text.strip request.displayName = "" ∨
      100 < (Text.strip request.displayName).length) := by
    simpa using granted.name
  have isGrant : ¬ (request.grant.length < 32 ∨ 128 < request.grant.length) := by
    simpa using granted.grant
  have sameDevice := granted.matching
  simp only [AccountEndpointEnrollmentResult.matchesRequest, Bool.and_eq_true,
    decide_eq_true_eq] at sameDevice
  simp only [MacAccount.claim, Effect.bind_apply, raiseIf_of_not isNamed,
    raiseIf_of_not isGrant, working.check, granted.isResponse,
    raiseIf_of_not (not_not.mpr sameDevice.1.2), Effect.pure_apply]

theorem storeInitial (empty : mac.keychain = none) :
    MacAccount.storeInitial surroundings
      ⟨result.credentialId, result.credentialSecret⟩ mac =
        (.ok (), { mac with
          keychain := some ⟨result.credentialId, result.credentialSecret⟩ }) := by
  have isLong := Nat.not_lt.mpr granted.credentialSecret
  simp only [MacAccount.storeInitial, Effect.bind_apply,
    raiseIf_of_not (not_not.mpr granted.credentialId), raiseIf_of_not isLong,
    Effect.gets_apply, empty, working.call]

theorem enrollPreflight (sound : Sound mac) (isProfile : mac.profile = some profile)
    (empty : mac.keychain = none) :
    ∃ definition, MacAccount.enrollPreflight surroundings uid mac =
      (.ok (request, profile, definition), mac) := by
  have valid := sound.valid profile isProfile
  have isUser :
      ¬ (uid < 500 ∨ 2 ^ 31 - 1 < uid ∨ surroundings.now = none) := by
    have user := granted.user
    simp only [granted.isNow, reduceCtorEq, or_false]
    omega
  have sameDevice : ¬ profile.deviceId ≠ request.expectedDeviceId :=
    not_not.mpr granted.sameDevice.symm
  have noReceipt : ¬ mac.receipt.isSome = true := by simp [sound.clear empty]
  obtain ⟨definition, validated⟩ : ∃ definition,
      validatedDefinition profile mac.config mac = (.ok definition, mac) :=
    validatedDefinition_of_valid valid sound.helper
  refine ⟨definition, ?_⟩
  simp only [MacAccount.enrollPreflight, readAccountRequest, Effect.bind_apply,
    raiseIf_of_not isUser, working.check, granted.isRequest, Effect.pure_apply,
    working.readAccountProfile isProfile valid, raiseIf_of_not sameDevice,
    working.checkConfig, Effect.gets_apply, raiseIf_of_not noReceipt,
    working.loadConfig, validated, working.requireInitialEmpty empty]

theorem enroll (sound : Sound mac) (isProfile : mac.profile = some profile)
    (empty : mac.keychain = none) :
    (MacAccount.enroll surroundings uid mac).1 =
      .ok { receiptFor profile result uid now with
        activationState := .reporting } := by
  obtain ⟨definition, cleared⟩ :=
    working.enrollPreflight granted sound isProfile empty
  simp only [MacAccount.enroll, working.exclusive, Effect.bind_apply, cleared,
    working.replaceFile, working.claim granted, granted.isNow,
    raiseIf_of_not (not_not.mpr granted.matching), keepResult,
    working.storeInitial granted, empty, writeReceipt, Effect.pure_apply,
    working.report]

end Surroundings.Working

/-! ## Runs -/

theorem resumable_of_sound {mac : Mac} (sound : Sound mac) : Resumable mac := by
  constructor
  · intro stored
    obtain ⟨profile, receipt, pending⟩ := sound.pending stored
    have valid := sound.valid profile pending.isProfile
    refine ⟨receipt, pending.isReceipt, fun surroundings working => ?_⟩
    rw [working.finishActivation pending valid]
  · intro empty
    exact {
      configures := fun noProfile _ _ _ working valid =>
        working.configureServer sound empty noProfile valid
      enrolls := fun _ isProfile _ _ _ _ _ working granted =>
        working.enroll granted sound isProfile empty }

theorem withinScope_of_fits {surroundings : Surroundings} {uid : Nat} {mac : Mac}
    {request : AccountEnrollmentRequest} {profile : AccountServerProfile}
    {definition : CollectorDefinition} {result : AccountEndpointEnrollmentResult}
    {now : Timestamp}
    (clear : Clear surroundings uid mac request profile definition)
    (fits : Fits surroundings request profile result now) :
    WithinScope surroundings mac ⟨result.credentialId, result.credentialSecret⟩ :=
  ⟨profile, request, result, now, clear.isProfile, clear.isRequest,
    fits.isResponse, fits.isNow, clear.sameDevice, fits.matching, rfl⟩

/-- Whatever fails, the pair of another scope is not stored. -/
theorem storesWithinScope (mac : Mac) (attempt : Attempt) :
    StoresWithinScope mac attempt := by
  obtain ⟨surroundings, operation⟩ := attempt
  cases operation with
  | configureServer host port =>
      have leaves : Ensures (· = mac) (configureServer surroundings host port)
        _ := configureServer_leaves
      left
      change (configureServer surroundings host port mac).2.keychain = _
      rcases leaves.ends mac rfl with same | ⟨_, _, _, _, same⟩ <;> rw [same]
  | enroll uid =>
      have leaves : EnrollLeaves surroundings uid mac
          (Attempt.after ⟨surroundings, .enroll uid⟩ mac) :=
        enroll_leaves.ends mac rfl
      unfold StoresWithinScope
      generalize Attempt.after ⟨surroundings, .enroll uid⟩ mac = after at *
      cases leaves with
      | unchanged => exact .inl rfl
      | configured clear => exact .inl rfl
      | cut clear fits _ => exact .inr ⟨_, withinScope_of_fits clear fits, rfl⟩
      | received clear fits state =>
          exact .inr ⟨_, withinScope_of_fits clear fits, rfl⟩
  | finishActivation uid =>
      have leaves : Ensures (· = mac) (finishActivation surroundings uid) _ :=
        finishActivation_leaves
      left
      change (finishActivation surroundings uid mac).2.keychain = _
      rcases leaves.ends mac rfl with same | ⟨_, _, same⟩ <;> rw [same]

/-- A collector that has been installed, and not enrolled. -/
def installedMac : Mac where
  profile := none
  config := {
    apiHost := "localhost"
    apiPort := 8000
    deviceId := "mac-1"
    credentialSource := .environment
    accessProxyRequired := true
    actionPollingEnabled := false
    credentialRotationEnabled := false
    keychainService := "com.controlforge.collector.v2" }
  receipt := none
  keychain := none

/-- The process dies when the keychain has taken the pair. -/
def diesAfterPair : Surroundings where
  answer site := if site = .storeInitial then .died true else .done
  system := "Darwin"
  euid := 0
  newDeviceId := "mac-1"
  now := some 0
  request := some {
    grant := "0123456789abcdef0123456789abcdef"
    expectedAccountId := "account-1"
    expectedTenantId := "tenant-1"
    expectedDeviceId := "mac-1"
    displayName := "Mac" }
  response := some {
    tenantId := "tenant-1"
    deviceId := "mac-1"
    credentialId := "01234567-89ab-cdef-0123-456789abcdef"
    credentialSecret := "0123456789abcdef0123456789abcdef"
    expiresAt := 1
    accountId := "account-1"
    networkName := "Home" }

def cutAttempts : List Attempt :=
  [⟨diesAfterPair, .configureServer "localhost" 8000⟩, ⟨diesAfterPair, .enroll 501⟩]

end MacAccount

end ControlForge
