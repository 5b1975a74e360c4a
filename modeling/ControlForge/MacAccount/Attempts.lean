import ControlForge.MacAccount.Enrollment

/-!
# What an attempt can leave

Every operation of an enrollment either looks, or makes one of a few changes
that stay.  The lemmas say which, however its calls end.
-/

namespace ControlForge

namespace MacAccount

open Effect (Ensures Finds)

/-- The keychain takes no pair without its receipt being put in place. -/
def Surroundings.Whole (surroundings : Surroundings) : Prop :=
  (surroundings.answer .storeInitial).applied = true →
    surroundings.answer .storeInitial = .done ∧
    surroundings.answer (.write (.receipt .configured) .prepare) = .done ∧
    (surroundings.answer
      (.write (.receipt .configured) .replace)).applied = true

/-! ## Calls -/

section Calls

variable {surroundings : Surroundings} {mac : Mac} {failure : Failure}

theorem call_ends {site : Call} {effect : Mac → Mac} :
    Ensures (· = mac) (call surroundings site failure effect)
      fun outcome after =>
        (outcome = .ok () ↔ surroundings.answer site = .done) ∧
          after = if (surroundings.answer site).applied then effect mac
            else mac := by
  refine ⟨?_⟩
  rintro reached rfl
  unfold call
  cases surroundings.answer site <;> simp

theorem check_ends {site : Call} :
    Ensures (· = mac) (check surroundings site failure) fun outcome after =>
      (outcome = .ok () ↔ surroundings.answer site = .done) ∧ after = mac := by
  apply call_ends.implies
  rintro outcome after ⟨returned, rfl⟩
  exact ⟨returned, ite_self _⟩

theorem finds_check {site : Call} :
    Finds mac (check surroundings site failure) fun _ => True :=
  ⟨(check_ends.ends mac rfl).2, fun _ _ => trivial⟩

theorem finds_raiseIf {condition : Prop} [Decidable condition] :
    Finds mac (raiseIf condition failure) fun _ => ¬ condition := by
  unfold raiseIf
  split_ifs with holds
  · exact .throws
  · exact .returns holds

/-- A write leaves the file as it was or new; it returns in the latter case
only. -/
theorem replaceFile_ends {file : WrittenFile} {effect : Mac → Mac} :
    Ensures (· = mac) (replaceFile surroundings file failure effect)
      fun outcome after =>
        (after = effect mac ∨ after = mac ∧ outcome ≠ .ok ()) ∧
          (surroundings.answer (.write file .prepare) = .done →
            (surroundings.answer (.write file .replace)).applied = true →
              after = effect mac) := by
  unfold replaceFile
  apply check_ends.bind
  · intro _
    refine Ensures.given fun prepared => ?_
    apply call_ends.bind
    · intro _
      refine Ensures.given fun replaced => ?_
      have isReplaced := replaced.mp rfl
      simp only [isReplaced, Answer.applied, if_true]
      apply check_ends.implies
      rintro outcome after ⟨_, rfl⟩
      exact ⟨.inl rfl, fun _ _ => rfl⟩
    · rintro raised after ⟨_, rfl⟩
      split_ifs with applied
      · exact ⟨.inl rfl, fun _ _ => rfl⟩
      · exact ⟨.inr ⟨rfl, nofun⟩, fun _ isApplied => absurd isApplied applied⟩
  · rintro raised after ⟨notDone, rfl⟩
    refine ⟨.inr ⟨rfl, nofun⟩, fun done => ?_⟩
    exact absurd (notDone.mpr done) nofun

/-- What follows a write starts from the new file. -/
theorem replaceFile_then {Value : Type} {file : WrittenFile} {effect : Mac → Mac}
    {rest : Unit → Program Value} {after : Except Failure Value → Mac → Prop}
    (written : Ensures (· = effect mac) (rest ()) after)
    (raised : ∀ failure reached, reached = effect mac ∨ reached = mac →
      (surroundings.answer (.write file .prepare) = .done →
        (surroundings.answer (.write file .replace)).applied = true →
          reached = effect mac) → after (.error failure) reached) :
    Ensures (· = mac)
      (replaceFile surroundings file failure effect >>= rest) after := by
  apply replaceFile_ends.bind
  · intro _
    apply written.narrows
    rintro reached ⟨isNew | ⟨_, notOk⟩, _⟩
    · exact isNew
    · exact absurd rfl notOk
  · rintro failure reached ⟨isEither, whole⟩
    exact raised failure reached (isEither.imp_right And.left) whole

/-! ## What an attempt finds -/

theorem finds_requireInitialEmpty :
    Finds mac (requireInitialEmpty surroundings) fun _ => mac.keychain = none := by
  apply finds_check.bind
  intro _ _
  apply Finds.reads.bind
  rintro keychain rfl
  apply finds_raiseIf.weaken
  intro _ empty
  simpa using empty

theorem finds_checkConfig :
    Finds mac (checkConfig surroundings) fun _ => True := by
  apply finds_check.bind
  intro _ _
  exact finds_check

theorem finds_loadConfig :
    Finds mac (loadConfig surroundings) (· = mac.config) := by
  apply finds_check.bind
  intro _ _
  exact .reads

theorem finds_validatedDefinition {profile : AccountServerProfile}
    {current : CollectorDefinition} :
    Finds mac (validatedDefinition profile current) fun definition =>
      definition.isInstalled profile = true ∧ profile.valid = true := by
  apply finds_raiseIf.bind
  intro _ helper
  apply finds_raiseIf.bind
  intro _ valid
  refine .returns ⟨?_, not_not.mp valid⟩
  simpa [CollectorDefinition.isInstalled] using helper

theorem finds_readAccountProfile :
    Finds mac (readAccountProfile surroundings) fun profile =>
      mac.profile = some profile ∧ profile.valid = true := by
  apply finds_check.bind
  intro _ _
  apply Finds.reads.bind
  rintro stored rfl
  cases isProfile : mac.profile with
  | none => exact .throws
  | some profile =>
      apply finds_raiseIf.bind
      intro _ valid
      exact .returns ⟨rfl, not_not.mp valid⟩

theorem finds_readAccountRequest {uid : Nat} :
    Finds mac (readAccountRequest surroundings uid) fun request =>
      (500 ≤ uid ∧ uid ≤ 2 ^ 31 - 1) ∧ surroundings.request = some request := by
  apply finds_raiseIf.bind
  intro _ inRange
  apply finds_check.bind
  intro _ _
  cases isRequest : surroundings.request with
  | none => exact .throws
  | some request => exact .returns ⟨by omega, rfl⟩

theorem finds_claim {profile : AccountServerProfile}
    {request : AccountEnrollmentRequest} :
    Finds mac (claim surroundings profile request) fun result =>
      surroundings.response = some result ∧
        result.deviceId = profile.deviceId := by
  apply finds_raiseIf.bind
  intro _ _
  apply finds_raiseIf.bind
  intro _ _
  apply finds_check.bind
  intro _ _
  cases isResponse : surroundings.response with
  | none => exact .throws
  | some result =>
      apply finds_raiseIf.bind
      intro _ same
      exact .returns ⟨rfl, not_not.mp same⟩

/-- What an enrollment has found before it changes anything. -/
structure Clear (surroundings : Surroundings) (uid : Nat) (mac : Mac)
    (request : AccountEnrollmentRequest) (profile : AccountServerProfile)
    (definition : CollectorDefinition) : Prop where
  user : 500 ≤ uid ∧ uid ≤ 2 ^ 31 - 1
  isRequest : surroundings.request = some request
  isProfile : mac.profile = some profile
  valid : profile.valid = true
  sameDevice : request.expectedDeviceId = profile.deviceId
  noReceipt : mac.receipt = none
  noKeychain : mac.keychain = none
  installed : definition.isInstalled profile = true

theorem finds_enrollPreflight {uid : Nat} :
    Finds mac (enrollPreflight surroundings uid) fun found =>
      Clear surroundings uid mac found.1 found.2.1 found.2.2 := by
  apply finds_readAccountRequest.bind
  rintro request ⟨user, isRequest⟩
  apply finds_readAccountProfile.bind
  rintro profile ⟨isProfile, valid⟩
  apply finds_raiseIf.bind
  intro _ sameDevice
  apply finds_checkConfig.bind
  intro _ _
  apply finds_check.bind
  intro _ _
  apply finds_check.bind
  intro _ _
  apply Finds.reads.bind
  rintro receipt rfl
  apply finds_raiseIf.bind
  intro _ noReceipt
  apply finds_loadConfig.bind
  rintro current rfl
  apply finds_validatedDefinition.bind
  rintro definition ⟨installed, _⟩
  apply finds_requireInitialEmpty.bind
  intro _ noKeychain
  exact .returns ⟨user, isRequest, isProfile, valid,
    (not_not.mp sameDevice).symm, by simpa using noReceipt, noKeychain,
    installed⟩

/-! ## What an attempt leaves -/

/-- The result is for this request. -/
structure Fits (surroundings : Surroundings) (request : AccountEnrollmentRequest)
    (profile : AccountServerProfile) (result : AccountEndpointEnrollmentResult)
    (now : Timestamp) : Prop where
  isNow : surroundings.now = some now
  isResponse : surroundings.response = some result
  matching : result.matchesRequest request profile now = true

/-- Everything that an enrollment can leave. -/
inductive EnrollLeaves (surroundings : Surroundings) (uid : Nat) (mac : Mac) :
    Mac → Prop
  | unchanged : EnrollLeaves surroundings uid mac mac
  | configured {request profile definition}
      (clear : Clear surroundings uid mac request profile definition) :
      EnrollLeaves surroundings uid mac { mac with config := definition }
  | cut {request profile definition result now}
      (clear : Clear surroundings uid mac request profile definition)
      (fits : Fits surroundings request profile result now)
      (notWhole : ¬ surroundings.Whole) :
      EnrollLeaves surroundings uid mac { mac with
        config := definition
        keychain := some ⟨result.credentialId, result.credentialSecret⟩ }
  | received {request profile definition result now}
      (clear : Clear surroundings uid mac request profile definition)
      (fits : Fits surroundings request profile result now)
      (state : ActivationState) :
      EnrollLeaves surroundings uid mac { mac with
        config := definition
        keychain := some ⟨result.credentialId, result.credentialSecret⟩
        receipt := some { receiptFor profile result uid now with
          activationState := state } }

theorem exclusive_ends {Value : Type} {body : Program Value}
    {after : Except Failure Value → Mac → Prop}
    (ends : Ensures (· = mac) body after)
    (raised : ∀ failure, after (.error failure) mac) :
    Ensures (· = mac) (exclusive surroundings body) after := by
  apply finds_raiseIf.followed _ raised
  intro _ _
  apply finds_check.followed _ raised
  intro _ _
  apply finds_check.followed _ raised
  intro _ _
  apply finds_check.followed _ raised
  intro _ _
  apply finds_check.followed _ raised
  intro _ _
  exact ends

/-- The keychain takes the pair where it holds none. -/
theorem storeInitial_then {Value : Type} {credentials : Credentials}
    {rest : Unit → Program Value} {after : Except Failure Value → Mac → Prop}
    (empty : mac.keychain = none)
    (stored : (surroundings.answer .storeInitial).applied = true →
      Ensures (· = { mac with keychain := some credentials }) (rest ()) after)
    (raised : ∀ failure, after (.error failure) mac)
    (cut : ¬ surroundings.Whole → ∀ failure,
      after (.error failure) { mac with keychain := some credentials }) :
    Ensures (· = mac) (storeInitial surroundings credentials >>= rest) after := by
  have ends : Ensures (· = mac) (storeInitial surroundings credentials)
      fun outcome reached =>
        outcome ≠ .ok () ∧ reached = mac ∨
          reached = { mac with keychain := some credentials } ∧
            (surroundings.answer .storeInitial).applied = true ∧
            (outcome = .ok () ∨ ¬ surroundings.Whole) := by
    apply finds_raiseIf.followed _ fun _ => .inl ⟨nofun, rfl⟩
    intro _ _
    apply finds_raiseIf.followed _ fun _ => .inl ⟨nofun, rfl⟩
    intro _ _
    apply Finds.reads.followed _ fun _ => .inl ⟨nofun, rfl⟩
    rintro keychain rfl
    simp only [empty]
    apply call_ends.implies
    rintro outcome reached ⟨returned, rfl⟩
    split_ifs with applied
    · refine .inr ⟨rfl, applied, ?_⟩
      apply or_iff_not_imp_left.mpr
      exact fun notOk whole => notOk (returned.mpr (whole applied).1)
    · refine .inl ⟨fun isOk => applied ?_, rfl⟩
      simp [returned.mp isOk, Answer.applied]
  apply ends.bind
  · intro _
    refine ⟨?_⟩
    rintro reached (⟨notOk, _⟩ | ⟨rfl, applied, _⟩)
    · exact absurd rfl notOk
    · exact (stored applied).ends _ rfl
  · rintro failure reached (⟨_, rfl⟩ | ⟨rfl, _, isOk | notWhole⟩)
    · exact raised failure
    · cases isOk
    · exact cut notWhole failure

theorem writeReceipt_ends {receipt : NetworkMembershipReceipt} :
    Ensures (· = mac) (writeReceipt surroundings receipt) fun outcome after =>
      (after = { mac with receipt := some receipt } ∨
        after = mac ∧ outcome ≠ .ok ()) ∧
        (surroundings.answer
          (.write (.receipt receipt.activationState) .prepare) = .done →
          (surroundings.answer
            (.write (.receipt receipt.activationState) .replace)).applied =
            true →
            after = { mac with receipt := some receipt }) :=
  replaceFile_ends

/-- The receipt is what it was, or says that the Mac reports. -/
theorem activated_ends {failed : Failure → Failure} :
    Ensures (· = mac)
      (tryCatch (check surroundings .activate .activation) fun failure =>
        match failure with
        | .died => throw .died
        | other => throw (failed other) : Program Unit)
      fun _ after => after = mac := by
  have checked : Ensures (· = mac)
      (check surroundings .activate .activation) fun _ after => after = mac :=
    check_ends.implies fun _ _ ended => ended.2
  apply checked.catches
  · exact fun _ _ same => same
  · intro failure
    cases failure <;> exact .throws fun _ same => same

theorem report_ends {failed : Failure → Failure}
    {receipt : NetworkMembershipReceipt} :
    Ensures (· = mac) (report surroundings failed receipt) fun _ after =>
      after = mac ∨
        after = { mac with
          receipt := some { receipt with activationState := .reporting } } := by
  apply activated_ends.bind
  · intro _
    apply writeReceipt_ends.bind
    · intro _
      exact .returns fun _ ended => ended.1.elim .inr fun same => .inl same.1
    · exact fun _ _ ended => ended.1.elim .inr fun same => .inl same.1
  · exact fun _ _ same => .inl same

theorem configureServer_leaves {host : String} {port : Nat} :
    Ensures (· = mac) (configureServer surroundings host port) fun _ after =>
      after = mac ∨ mac.keychain = none ∧ mac.profile = none ∧
        ∃ profile : AccountServerProfile, profile.valid = true ∧
          after = { mac with profile := some profile } := by
  refine exclusive_ends ?_ fun _ => .inl rfl
  apply finds_requireInitialEmpty.followed _ fun _ => .inl rfl
  intro _ empty
  apply finds_checkConfig.followed _ fun _ => .inl rfl
  intro _ _
  apply finds_loadConfig.followed _ fun _ => .inl rfl
  rintro current rfl
  apply finds_raiseIf.followed _ fun _ => .inl rfl
  intro _ _
  apply finds_validatedDefinition.followed _ fun _ => .inl rfl
  rintro _ ⟨_, valid⟩
  apply finds_check.followed _ fun _ => .inl rfl
  intro _ _
  apply Finds.reads.followed _ fun _ => .inl rfl
  rintro stored rfl
  cases isStored : mac.profile with
  | some _ =>
      apply finds_readAccountProfile.followed _ fun _ => .inl rfl
      intro previous _
      split_ifs
      · exact .returns fun _ same => .inl same
      · exact .throws fun _ same => .inl same
  | none =>
      refine replaceFile_then (.returns ?_) ?_
      · rintro _ rfl
        exact .inr ⟨empty, rfl, _, valid, rfl⟩
      · rintro failure after (rfl | rfl) _
        · exact .inr ⟨empty, rfl, _, valid, rfl⟩
        · exact .inl rfl

theorem finishActivation_leaves {uid : Nat} :
    Ensures (· = mac) (finishActivation surroundings uid) fun _ after =>
      after = mac ∨ ∃ receipt, mac.receipt = some receipt ∧
        after = { mac with
          receipt := some { receipt with activationState := .reporting } } := by
  refine exclusive_ends ?_ fun _ => .inl rfl
  apply finds_raiseIf.followed _ fun _ => .inl rfl
  intro _ _
  apply finds_readAccountProfile.followed _ fun _ => .inl rfl
  intro profile _
  apply finds_check.followed _ fun _ => .inl rfl
  intro _ _
  apply finds_check.followed _ fun _ => .inl rfl
  intro _ _
  apply Finds.reads.followed _ fun _ => .inl rfl
  rintro stored rfl
  cases isStored : mac.receipt with
  | none => exact .throws fun _ same => .inl same
  | some receipt =>
      apply finds_raiseIf.followed _ fun _ => .inl rfl
      intro _ _
      apply finds_checkConfig.followed _ fun _ => .inl rfl
      intro _ _
      apply finds_loadConfig.followed _ fun _ => .inl rfl
      intro definition _
      apply finds_raiseIf.followed _ fun _ => .inl rfl
      intro _ _
      apply report_ends.implies
      rintro _ after (rfl | rfl)
      · exact .inl rfl
      · exact .inr ⟨receipt, rfl, rfl⟩

/-- From the pair on. -/
theorem keepResult_leaves {uid : Nat} {request : AccountEnrollmentRequest}
    {profile : AccountServerProfile} {definition : CollectorDefinition}
    {result : AccountEndpointEnrollmentResult} {now : Timestamp}
    (clear : Clear surroundings uid mac request profile definition)
    (fits : Fits surroundings request profile result now) :
    Ensures (· = { mac with config := definition })
      (keepResult surroundings profile result uid now) fun outcome after =>
        EnrollLeaves surroundings uid mac after ∧
          ∀ receipt, outcome = .ok receipt →
            receipt = receiptFor profile result uid now ∧ after = { mac with
              config := definition
              keychain := some ⟨result.credentialId, result.credentialSecret⟩
              receipt := some receipt } := by
  have received (state : ActivationState) :=
    EnrollLeaves.received clear fits state
  refine storeInitial_then clear.noKeychain ?_ ?_ ?_
  · intro applied
    refine replaceFile_then (.returns ?_) ?_
    · rintro _ rfl
      refine ⟨received .configured, ?_⟩
      rintro receipt ⟨⟩
      exact ⟨rfl, rfl⟩
    · rintro failure reached (rfl | rfl) written
      · exact ⟨received .configured, nofun⟩
      · refine ⟨.cut clear fits fun whole => ?_, nofun⟩
        have replaced := written (whole applied).2.1 (whole applied).2.2
        simp [clear.noReceipt] at replaced
  · exact fun failure => ⟨.configured clear, nofun⟩
  · exact fun notWhole failure => ⟨.cut clear fits notWhole, nofun⟩

/-- Everything that an enrollment does is one of these. -/
theorem enroll_leaves {uid : Nat} :
    Ensures (· = mac) (enroll surroundings uid) fun _ after =>
      EnrollLeaves surroundings uid mac after := by
  refine exclusive_ends ?_ fun _ => .unchanged
  apply finds_enrollPreflight.followed _ fun _ => .unchanged
  rintro ⟨request, profile, definition⟩ clear
  dsimp only at clear ⊢
  refine replaceFile_then ?_ ?_
  · apply finds_claim.followed _ fun _ => .configured clear
    rintro result ⟨isResponse, _⟩
    cases isNow : surroundings.now with
    | none => exact .throws fun _ same => same ▸ .configured clear
    | some now =>
        apply finds_raiseIf.followed _ fun _ => .configured clear
        intro _ matching
        have fits : Fits surroundings request profile result now :=
          ⟨isNow, isResponse, not_not.mp matching⟩
        apply (keepResult_leaves clear fits).bind
        · intro receipt
          refine ⟨?_⟩
          rintro reached ⟨left, kept⟩
          obtain ⟨rfl, rfl⟩ := kept receipt rfl
          rcases report_ends.ends _ rfl with same | same
          · rw [same]
            exact left
          · rw [same]
            exact .received clear fits .reporting
        · exact fun _ _ left => left.1
  · rintro failure after (rfl | rfl) _
    · exact .configured clear
    · exact .unchanged

end Calls

end MacAccount

end ControlForge
