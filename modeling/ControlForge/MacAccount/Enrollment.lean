import ControlForge.Clock
import ControlForge.Foundation.Effect
import ControlForge.Foundation.Text

/-!
# Enrollment of a Mac account

`MacAccountEnrollment` joins a Mac to a network in steps that each stay: the
server profile, the collector configuration, the credential pair in the
keychain and the membership receipt.  Every call of an attempt may fail, with
or without its effect, and the process may die there.
-/

namespace ControlForge

namespace MacAccount

/-! ## Names -/

def isLabelCharacter (character : Char) : Bool :=
  character.isDigit || ('a' ≤ character && character ≤ 'z') || character = '-'

/-- `[a-z0-9](?:[a-z0-9-]{0,61}[a-z0-9])?`. -/
def isLabel (label : List Char) : Bool :=
  1 ≤ label.length && label.length ≤ 63 && label.all isLabelCharacter &&
    label.head? ≠ some '-' && label.getLast? ≠ some '-'

def isTopLevel (label : List Char) : Bool :=
  2 ≤ label.length && label.length ≤ 63 &&
    label.all fun character => 'a' ≤ character && character ≤ 'z'

/-- The pattern and the bounds of `api_host`. -/
def isApiHost (host : String) : Bool :=
  let labels := host.toList.splitOn '.'
  4 ≤ host.length && host.length ≤ 253 &&
    (host = "localhost" ||
      (2 ≤ labels.length && labels.dropLast.all isLabel &&
        labels.getLast?.any isTopLevel))

/-- The pattern and the bounds of `device_id`. -/
def isDeviceId (device : String) : Bool :=
  1 ≤ device.length && device.length ≤ 128 &&
    device.toList.all fun character =>
      character.isAlphanum || "._:-".toList.contains character

/-- `_CREDENTIAL_ID`. -/
def isCredentialId (identifier : String) : Bool :=
  identifier.length = 36 && identifier.toList.all fun character =>
    character.isDigit || ('a' ≤ character && character ≤ 'f') ||
      ('A' ≤ character && character ≤ 'F') || character = '-'

/-! ## Records -/

inductive CredentialSource where
  | environment
  | macosSystemKeychain
deriving DecidableEq

/-- The part of `CollectorDefinition` that an enrollment sets or looks at. -/
structure CollectorDefinition where
  apiHost : String
  apiPort : Nat
  deviceId : String
  credentialSource : CredentialSource
  accessProxyRequired : Bool
  actionPollingEnabled : Bool
  credentialRotationEnabled : Bool
  keychainService : String
deriving DecidableEq

structure AccountServerProfile where
  apiHost : String
  apiPort : Nat
  deviceId : String
deriving DecidableEq

/-- The bounds of the fields of a profile. -/
def AccountServerProfile.bounded (profile : AccountServerProfile) : Bool :=
  1 ≤ profile.apiHost.length && profile.apiHost.length ≤ 253 &&
    1 ≤ profile.apiPort && profile.apiPort ≤ 65535 &&
    isDeviceId profile.deviceId

/-- The values of a profile are those of a collector definition. -/
def AccountServerProfile.valid (profile : AccountServerProfile) : Bool :=
  profile.bounded && isApiHost profile.apiHost

structure AccountEnrollmentRequest where
  grant : String
  expectedAccountId : String
  expectedTenantId : String
  expectedDeviceId : String
  displayName : String

/-- What the server returns for a grant. -/
structure AccountEndpointEnrollmentResult where
  tenantId : String
  deviceId : String
  credentialId : String
  credentialSecret : String
  expiresAt : Timestamp
  accountId : String
  networkName : String

inductive ActivationState where
  | configured
  | reporting
deriving DecidableEq

structure NetworkMembershipReceipt where
  apiHost : String
  apiPort : Nat
  deviceId : String
  tenantId : String
  accountId : String
  networkName : String
  localUid : Nat
  enrolledAt : Timestamp
  activationState : ActivationState
deriving DecidableEq

structure Credentials where
  credentialId : String
  credentialSecret : String
deriving DecidableEq

/-- What stays on the Mac between two attempts. -/
structure Mac where
  profile : Option AccountServerProfile
  config : CollectorDefinition
  receipt : Option NetworkMembershipReceipt
  keychain : Option Credentials
deriving DecidableEq

/-! ## Calls of an attempt -/

/-- What an attempt raises, or that it died. -/
inductive Failure where
  | account (message : String)
  | enrollment (message : String)
  | value (message : String)
  | os
  | activation
  | died
deriving DecidableEq

/-- How a call ends; one that does not return may have had its effect. -/
inductive Answer where
  | done
  | raised (applied : Bool)
  | died (applied : Bool)
deriving DecidableEq

def Answer.applied : Answer → Bool
  | .done => true
  | .raised applied => applied
  | .died applied => applied

/-- The files that are written through a temporary file that replaces them. -/
inductive WrittenFile where
  | profile
  | config
  | receipt (state : ActivationState)
deriving DecidableEq

/-- A write: what comes before the replacement, the replacement, and the
synchronization of the directory. -/
inductive WritePart where
  | prepare
  | replace
  | sync
deriving DecidableEq

inductive Call where
  | trustDirectory
  | openLock
  | checkLock
  | takeLock
  | requireInitialEmpty
  | readConfig
  | loadConfig
  | readRequest
  | readProfile
  | profileExists
  | trustReceiptDirectory
  | receiptExists
  | readReceipt
  | write (file : WrittenFile) (part : WritePart)
  | claim
  | storeInitial
  | activate
deriving DecidableEq

/-- What an attempt meets: how its calls end, and what they return. -/
structure Surroundings where
  answer : Call → Answer
  system : String
  euid : Nat
  /-- `uuid.uuid4()`. -/
  newDeviceId : String
  /-- The instant of an aware clock. -/
  now : Option Timestamp
  /-- The request of the user and digest of the attempt, if it is a fresh one. -/
  request : Option AccountEnrollmentRequest
  /-- The validated body of a response with status 201. -/
  response : Option AccountEndpointEnrollmentResult

abbrev Program := Effect Mac Failure

/-- `if …: raise …`. -/
def raiseIf (condition : Prop) [Decidable condition] (failure : Failure) :
    Program Unit :=
  if condition then throw failure else pure ()

section Calls

variable (surroundings : Surroundings)

def call (site : Call) (failure : Failure) (effect : Mac → Mac) : Program Unit :=
  fun mac =>
    let after := if (surroundings.answer site).applied then effect mac else mac
    match surroundings.answer site with
    | .done => (.ok (), after)
    | .raised _ => (.error failure, after)
    | .died _ => (.error .died, after)

/-- A call that changes nothing which stays. -/
def check (site : Call) (failure : Failure) : Program Unit :=
  call surroundings site failure id

/-- `_write_public_json`, or `install_collector_definition`. -/
def replaceFile (file : WrittenFile) (failure : Failure) (effect : Mac → Mac) :
    Program Unit := do
  check surroundings (.write file .prepare) failure
  call surroundings (.write file .replace) failure effect
  check surroundings (.write file .sync) failure

/-- `_exclusive`.  Giving the lock back changes nothing which stays. -/
def exclusive {Value : Type} (body : Program Value) : Program Value := do
  raiseIf (surroundings.system ≠ "Darwin" ∨ surroundings.euid ≠ 0)
    (.account "account configuration requires a macOS administrator")
  check surroundings .trustDirectory
    (.account "account configuration directory is not trusted")
  check surroundings .openLock .os
  check surroundings .checkLock (.account "account enrollment lock is not trusted")
  check surroundings .takeLock
    (.account "another account enrollment is already running")
  body

/-- `require_initial_empty`. -/
def requireInitialEmpty : Program Unit := do
  let failure := Failure.value
    "collector credentials already exist or Keychain preflight failed"
  check surroundings .requireInitialEmpty failure
  let keychain ← Effect.gets (·.keychain)
  raiseIf (keychain.isSome = true) failure

/-- `_trusted_directory` and `_read_owned_file` of the configuration. -/
def checkConfig : Program Unit := do
  check surroundings .trustDirectory
    (.account "account configuration directory is not trusted")
  check surroundings .readConfig
    (.account "account configuration file is not trusted")

/-- `load_collector_definition`. -/
def loadConfig : Program CollectorDefinition := do
  check surroundings .loadConfig .os
  Effect.gets (·.config)

/-- `AccountServerProfile.validated_definition`. -/
def validatedDefinition (profile : AccountServerProfile)
    (current : CollectorDefinition) : Program CollectorDefinition := do
  raiseIf (current.keychainService ≠ "com.controlforge.collector.v2")
    (.account "the installed collector needs the current signed Keychain helper")
  raiseIf (¬ profile.valid) (.value "validation error")
  return {
    apiHost := profile.apiHost
    apiPort := profile.apiPort
    deviceId := profile.deviceId
    credentialSource := .macosSystemKeychain
    accessProxyRequired := false
    actionPollingEnabled := true
    credentialRotationEnabled := true
    keychainService := current.keychainService }

/-- `read_account_profile`. -/
def readAccountProfile : Program AccountServerProfile := do
  let failure := Failure.account "account server profile is missing or invalid"
  check surroundings .readProfile failure
  match ← Effect.gets (·.profile) with
  | none => throw failure
  | some profile =>
      raiseIf (¬ profile.valid) failure
      return profile

/-- `read_account_request`. -/
def readAccountRequest (uid : Nat) : Program AccountEnrollmentRequest := do
  raiseIf (uid < 500 ∨ 2 ^ 31 - 1 < uid ∨ surroundings.now = none)
    (.account "account enrollment handoff identity is invalid")
  let failure := Failure.account
    "account enrollment request is unavailable or invalid"
  check surroundings .readRequest failure
  match surroundings.request with
  | none => throw failure
  | some request => return request

/-! ## Operations -/

/-- `_configure_server`. -/
def configureServer (host : String) (port : Nat) :
    Program AccountServerProfile :=
  exclusive surroundings do
    requireInitialEmpty surroundings
    checkConfig surroundings
    let current ← loadConfig surroundings
    let profile : AccountServerProfile := ⟨host, port, surroundings.newDeviceId⟩
    raiseIf (¬ profile.bounded) (.value "validation error")
    let _ ← validatedDefinition profile current
    check surroundings .profileExists .os
    match ← Effect.gets (·.profile) with
    | some _ =>
        let previous ← readAccountProfile surroundings
        if previous.apiHost = host ∧ previous.apiPort = port then
          return previous
        else
          throw (.account
            "a server profile already exists; explicit migration is required")
    | none =>
        replaceFile surroundings .profile .os fun mac =>
          { mac with profile := some profile }
        return profile

/-- `StandaloneEndpointEnrollmentClient.claim`. -/
def claim (profile : AccountServerProfile) (request : AccountEnrollmentRequest) :
    Program AccountEndpointEnrollmentResult := do
  let name := Text.strip request.displayName
  raiseIf (name = "" ∨ 100 < name.length)
    (.value "device display name must contain between 1 and 100 characters")
  raiseIf (request.grant.length < 32 ∨ 128 < request.grant.length)
    (.enrollment "enrollment grant is invalid")
  check surroundings .claim
    (.enrollment "standalone appliance enrollment request failed")
  match surroundings.response with
  | none =>
      throw (.enrollment "standalone appliance returned invalid credentials")
  | some result =>
      raiseIf (result.deviceId ≠ profile.deviceId)
        (.enrollment "standalone appliance returned a different device identity")
      return result

/-- `store_initial`.  The helper stores a pair only where there is none. -/
def storeInitial (credentials : Credentials) : Program Unit := do
  raiseIf (¬ isCredentialId credentials.credentialId)
    (.value "collector credential ID must be a UUID")
  raiseIf (credentials.credentialSecret.length < 32)
    (.value "collector credential secret is too short")
  let failure := Failure.value "collector credential pair could not be stored"
  match ← Effect.gets (·.keychain) with
  | some _ => throw failure
  | none =>
      call surroundings .storeInitial failure fun mac =>
        { mac with keychain := some credentials }

/-- The scope of a result is the one that was requested, and it is valid now. -/
def AccountEndpointEnrollmentResult.matchesRequest
    (result : AccountEndpointEnrollmentResult)
    (request : AccountEnrollmentRequest) (profile : AccountServerProfile)
    (now : Timestamp) : Bool :=
  result.accountId = request.expectedAccountId &&
    result.tenantId = request.expectedTenantId &&
    result.deviceId = profile.deviceId && now < result.expiresAt

def receiptFor (profile : AccountServerProfile)
    (result : AccountEndpointEnrollmentResult) (uid : Nat) (now : Timestamp) :
    NetworkMembershipReceipt where
  apiHost := profile.apiHost
  apiPort := profile.apiPort
  deviceId := result.deviceId
  tenantId := result.tenantId
  accountId := result.accountId
  networkName := result.networkName
  localUid := uid
  enrolledAt := now
  activationState := .configured

/-- Put a receipt in its place. -/
def writeReceipt (receipt : NetworkMembershipReceipt) : Program Unit :=
  replaceFile surroundings (.receipt receipt.activationState) .os fun mac =>
    { mac with receipt := some receipt }

/-- The checks of `_enroll` before it changes anything. -/
def enrollPreflight (uid : Nat) :
    Program (AccountEnrollmentRequest × AccountServerProfile ×
      CollectorDefinition) := do
  let request ← readAccountRequest surroundings uid
  let profile ← readAccountProfile surroundings
  raiseIf (profile.deviceId ≠ request.expectedDeviceId)
    (.account "the Mac identity changed; sign in again before connecting")
  checkConfig surroundings
  check surroundings .trustReceiptDirectory
    (.account "account configuration directory is not trusted")
  check surroundings .receiptExists .os
  let receipt ← Effect.gets (·.receipt)
  raiseIf (receipt.isSome = true)
    (.account "this Mac already has a network enrollment; use finish activation")
  let current ← loadConfig surroundings
  let definition ← validatedDefinition profile current
  requireInitialEmpty surroundings
  return (request, profile, definition)

/-- `_activate`, and the receipt of it. -/
def report (failed : Failure → Failure) (receipt : NetworkMembershipReceipt) :
    Program NetworkMembershipReceipt := do
  tryCatch (check surroundings .activate .activation) fun failure =>
    match failure with
    | .died => throw .died
    | other => throw (failed other)
  let reporting := { receipt with activationState := .reporting }
  writeReceipt surroundings reporting
  return reporting

/-- What `_enroll` does with a result: the credential pair, then the receipt. -/
def keepResult (profile : AccountServerProfile)
    (result : AccountEndpointEnrollmentResult) (uid : Nat) (now : Timestamp) :
    Program NetworkMembershipReceipt := do
  storeInitial surroundings ⟨result.credentialId, result.credentialSecret⟩
  let receipt := receiptFor profile result uid now
  writeReceipt surroundings receipt
  return receipt

/-- `_enroll`. -/
def enroll (uid : Nat) : Program NetworkMembershipReceipt :=
  exclusive surroundings do
    let (request, profile, definition) ← enrollPreflight surroundings uid
    replaceFile surroundings .config
      (.enrollment "collector configuration could not be installed") fun mac =>
        { mac with config := definition }
    let result ← claim surroundings profile request
    match surroundings.now with
    | none => throw (.account "account enrollment handoff identity is invalid")
    | some now =>
        raiseIf (¬ result.matchesRequest request profile now)
          (.account "server returned an unexpected account or network")
        let receipt ← keepResult surroundings profile result uid now
        report surroundings
          (fun _ => .account
            "device credentials are installed; finish activation to check in")
          receipt

/-- A receipt is that of this user and of the profile. -/
def NetworkMembershipReceipt.isPending (receipt : NetworkMembershipReceipt)
    (profile : AccountServerProfile) : Bool :=
  receipt.deviceId = profile.deviceId && receipt.apiHost = profile.apiHost &&
    receipt.apiPort = profile.apiPort

/-- The configuration is the one an enrollment installs for the profile. -/
def CollectorDefinition.isInstalled (definition : CollectorDefinition)
    (profile : AccountServerProfile) : Bool :=
  definition.deviceId = profile.deviceId &&
    definition.apiHost = profile.apiHost &&
    definition.apiPort = profile.apiPort && !definition.accessProxyRequired &&
    definition.credentialSource = .macosSystemKeychain &&
    definition.keychainService = "com.controlforge.collector.v2"

/-- `_finish_activation`. -/
def finishActivation (uid : Nat) : Program NetworkMembershipReceipt :=
  exclusive surroundings do
    raiseIf (uid < 500 ∨ 2 ^ 31 - 1 < uid)
      (.account "local account identity is invalid")
    let profile ← readAccountProfile surroundings
    check surroundings .trustReceiptDirectory
      (.account "account configuration directory is not trusted")
    check surroundings .readReceipt .os
    match ← Effect.gets (·.receipt) with
    | none => throw .os
    | some receipt =>
        raiseIf (receipt.localUid ≠ uid ∨ ¬ receipt.isPending profile)
          (.account "this local account does not own the pending enrollment")
        checkConfig surroundings
        let definition ← loadConfig surroundings
        raiseIf (¬ definition.isInstalled profile)
          (.account
            "collector configuration no longer matches the pending enrollment")
        report surroundings id receipt

end Calls

end MacAccount

end ControlForge
