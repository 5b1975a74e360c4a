import ControlForge.Backups.Restore
import ControlForge.Foundation.JsonLength

/-!
# A cipher that remembers

The libraries with a cipher that accepts the one message it has sealed.  They
are lawful, and authenticate any run of the writer that makes that message.
With them the guarantees of a container are met, and a manifest that is too long
is refused.
-/

namespace ControlForge

namespace Backups

/-- What a context has seen. -/
structure Recorded where
  key : Bytes
  nonce : Bytes
  associated : Bytes
  ciphertext : Bytes
deriving DecidableEq

/-- A keystream is added to the text, from some place on. -/
def crypt (keystream : Nat → UInt8) (place : Nat) (text : Bytes) : Bytes :=
  text.mapIdx fun index byte => byte ^^^ keystream (place + index)

namespace Recorded

variable (keystream : Nat → UInt8)

def encrypt (context : Recorded) (plaintext : Bytes) : Recorded × Bytes :=
  let ciphertext := crypt keystream context.ciphertext.length plaintext
  ({ context with ciphertext := context.ciphertext ++ ciphertext }, ciphertext)

def decrypt (context : Recorded) (ciphertext : Bytes) : Recorded × Bytes :=
  ({ context with ciphertext := context.ciphertext ++ ciphertext },
    crypt keystream context.ciphertext.length ciphertext)

end Recorded

/-- The cipher that has sealed one message, with this tag. -/
def recordingGcm (keystream : Nat → UInt8) (tag : Bytes) (isSealed : Recorded) :
    Gcm where
  Context := Recorded
  start key nonce associated := ⟨key, nonce, associated, []⟩
  encrypt := Recorded.encrypt keystream
  decrypt := Recorded.decrypt keystream
  tag _ := tag
  verify context given := context = isSealed ∧ given = tag

section Cipher

variable {keystream : Nat → UInt8}

theorem crypt_append (place : Nat) (first second : Bytes) :
    crypt keystream place (first ++ second) =
      crypt keystream place first ++
        crypt keystream (place + first.length) second := by
  simp only [crypt, List.mapIdx_append, Nat.add_assoc,
    Nat.add_comm first.length]

@[simp] theorem length_crypt (place : Nat) (text : Bytes) :
    (crypt keystream place text).length = text.length := by
  simp [crypt]

@[simp] theorem crypt_crypt (place : Nat) (text : Bytes) :
    crypt keystream place (crypt keystream place text) = text := by
  apply List.ext_getElem
  · simp
  · intro index _ _
    simp only [crypt, List.getElem_mapIdx]
    rw [UInt8.xor_assoc, UInt8.xor_self, UInt8.xor_zero]

theorem splits_encrypt : Splits (Recorded.encrypt keystream) where
  nil := by simp [Recorded.encrypt, crypt]
  append := by
    intro context first second
    simp [Recorded.encrypt, crypt_append]

theorem splits_decrypt : Splits (Recorded.decrypt keystream) where
  nil := by simp [Recorded.decrypt, crypt]
  append := by
    intro context first second
    simp [Recorded.decrypt, crypt_append]

theorem recordingGcm_lawful {tag : Bytes} (isSealed : Recorded)
    (full : tag.length = 16) : (recordingGcm keystream tag isSealed).Lawful where
  encrypts := splits_encrypt
  decrypts := splits_decrypt
  inverse := fun context plaintext => by
    change Recorded.decrypt keystream context
      (Recorded.encrypt keystream context plaintext).2 = _
    simp [Recorded.decrypt, recordingGcm, Recorded.encrypt]
  length := fun context plaintext => length_crypt _ plaintext
  tag := fun _ => full

end Cipher

/-! ## The libraries -/

/-- The texts of instants: the ISO text for the epoch, a number elsewhere. -/
def epochConversions : Conversions where
  dateText time :=
    if time = 0 then "1970-01-01T00:00:00Z" else String.ofList (Json.intText time)
  dateOf
    | .str text =>
        some (if text = "1970-01-01T00:00:00Z" then 0
          else Json.intValue text.toList)
    | _ => none
  intOf
    | .int value => some value
    | _ => none

theorem epochConversions_lawful : epochConversions.Lawful where
  date := by
    intro time
    by_cases isEpoch : time = 0
    · simp [epochConversions, isEpoch]
    · have noDate : String.ofList (Json.intText time) ≠
          "1970-01-01T00:00:00Z" := by
        intro same
        have characters := congrArg String.toList same
        rw [String.toList_ofList] at characters
        have isLetter : 'T' ∈ Json.intText time := by
          rw [characters]
          simp
        have isNumber := Json.intText_all_number time 'T' isLetter
        cases isNumber
      simp [epochConversions, isEpoch, noDate, Json.intValue_intText]
  int := fun _ => rfl

/-- The salt of every run below; its digest is that of the salt of the key. -/
def drawnSalt : Bytes := (List.range 32).map fun index => .ofNat (index + 32)

def drawnNonce : Bytes := (List.range 12).map .ofNat

def sourceKey : Bytes := (List.range 32).map .ofNat

def derivedKey : Bytes :=
  [237, 109, 227, 153, 25, 224, 208, 247, 147, 34, 223, 203, 80, 161, 106, 246,
    181, 159, 150, 114, 119, 230, 153, 58, 218, 221, 255, 244, 164, 248, 180, 221]

/-- SHA-256 of the one snapshot and of the salt. -/
def digest (bytes : Bytes) : Bytes :=
  if bytes = utf8 "S" then
    [141, 224, 179, 196, 127, 17, 44, 89, 116, 95, 113, 122, 98, 105, 50, 38,
      76, 66, 42, 117, 99, 149, 72, 114, 226, 55, 178, 35, 175, 74, 214, 67]
  else if bytes = kdfSaltContext ++ drawnSalt then
    [234, 203, 177, 233, 195, 215, 213, 79, 177, 58, 233, 185, 179, 99, 7, 34,
      110, 66, 132, 39, 251, 236, 244, 91, 60, 235, 178, 87, 38, 71, 169, 131]
  else List.replicate 32 0

def sealedTag : Bytes :=
  [8, 158, 139, 180, 136, 5, 240, 229, 154, 235, 96, 252, 236, 110, 37, 49]

def recordingLibrary (isSealed : Recorded) : Library where
  conversions := epochConversions
  gcm := recordingGcm (fun _ => 195) sealedTag isSealed
  sha256 := digest
  hkdf _ _ _ := derivedKey

theorem recordingLibrary_lawful (isSealed : Recorded) :
    (recordingLibrary isSealed).Lawful where
  conversions := epochConversions_lawful
  gcm := recordingGcm_lawful isSealed rfl
  sha256 := by
    intro bytes
    change (digest bytes).length = 32
    unfold digest
    split_ifs <;> rfl

theorem opens_iff {isSealed : Recorded} {message : Message} :
    message.Opens (recordingLibrary isSealed) ↔
      (⟨message.key, message.nonce, message.associated, message.ciphertext⟩ :
        Recorded) = isSealed ∧ message.tag = sealedTag := by
  change decide ((⟨message.key, message.nonce, message.associated,
    [] ++ message.ciphertext⟩ : Recorded) = isSealed ∧
      message.tag = sealedTag) = true ↔ _
  rw [decide_eq_true_eq, List.nil_append]

/-! ## Runs of the writer -/

/-- A backup of one byte. -/
def runOf (tenantId : String) (tenantIds : List String) : BackupRun where
  sourceKey
  draft := {
    backupId := "00000000-0000-4000-8000-000000000001"
    tenantId
    tenantIds
    createdAt := 0
    applicationVersion := "1.0.0"
    schemaVersions := [1]
    salt := drawnSalt
    nonce := drawnNonce }
  snapshot := utf8 "S"

/-- What is sealed for a manifest. -/
def recordOf (manifest : BackupManifest) : Recorded where
  key := derivedKey
  nonce := drawnNonce
  associated := manifestBytes epochConversions manifest
  ciphertext := crypt (fun _ => 195) 0 (utf8 "S")

section Runs

variable {tenantId : String} {tenantIds : List String} {manifest : BackupManifest}

theorem makes_runOf {length : Bytes} {isSealed : Recorded}
    (isManifest : manifest.toManifestFields =
      (runOf tenantId tenantIds).draft.fields (recordingLibrary isSealed)
        (utf8 "S"))
    (isLength : packLength (manifestBytes epochConversions manifest).length =
      some length) :
    Makes (recordingLibrary isSealed) (runOf tenantId tenantIds) manifest
      derivedKey length where
  isSalt := rfl
  isNonce := rfl
  isManifest := isManifest
  isKey := rfl
  isLength := isLength
  isSmall := (utf8_length_le ['S']).trans (by decide)

/-- What is sealed in a run. -/
theorem message_runOf (isSealed : Recorded) :
    (runOf tenantId tenantIds).message (recordingLibrary isSealed) manifest
        derivedKey =
      ⟨derivedKey, drawnNonce, manifestBytes epochConversions manifest,
        crypt (fun _ => 195) 0 (utf8 "S"), sealedTag⟩ := by
  simp only [BackupRun.message, sealedMessage, recordingLibrary, recordingGcm,
    Recorded.encrypt, runOf, List.length_nil]

/-- The cipher that has sealed the message of a run authenticates the run. -/
theorem recordingLibrary_authenticates {length : Bytes}
    (isManifest : manifest.toManifestFields =
      (runOf tenantId tenantIds).draft.fields (recordingLibrary (recordOf manifest))
        (utf8 "S"))
    (isLength : packLength (manifestBytes epochConversions manifest).length =
      some length) :
    Authenticates (recordingLibrary (recordOf manifest))
      (· = runOf tenantId tenantIds) := by
  have makes : Makes (recordingLibrary (recordOf manifest))
      (runOf tenantId tenantIds) manifest derivedKey length :=
    makes_runOf isManifest isLength
  intro message
  constructor
  · intro opens
    obtain ⟨same, isTag⟩ := opens_iff.mp opens
    refine ⟨_, manifest, derivedKey, length, rfl, makes, ?_⟩
    obtain ⟨key, nonce, associated, ciphertext, tag⟩ := message
    obtain ⟨isKey, isNonce, isAssociated, isCiphertext⟩ := Recorded.mk.inj same
    dsimp only at isKey isNonce isAssociated isCiphertext isTag
    rw [message_runOf, isKey, isNonce, isAssociated, isCiphertext, isTag]
  · rintro ⟨run, other, key, otherLength, rfl, otherMakes, rfl⟩
    have sameManifest : other = manifest := by
      have fields := otherMakes.isManifest.trans isManifest.symm
      cases other
      cases manifest
      cases fields
      rfl
    have isKey : derivedKey = key := Except.ok.inj otherMakes.isKey
    rw [sameManifest, ← isKey, message_runOf, opens_iff]
    simp only [recordOf, and_self]

end Runs

/-! ## One network, and many -/

/-- The manifest of a run. -/
def manifestOf (tenantId : String) (tenantIds : List String) :
    Option BackupManifest :=
  BackupManifest.ofFields ((runOf tenantId tenantIds).draft.fields
    (recordingLibrary ⟨[], [], [], []⟩) (utf8 "S"))

theorem isManifest_of_manifestOf {tenantId : String} {tenantIds : List String}
    {manifest : BackupManifest} (isSealed : Recorded)
    (isManifest : manifestOf tenantId tenantIds = some manifest) :
    manifest.toManifestFields =
      (runOf tenantId tenantIds).draft.fields (recordingLibrary isSealed)
        (utf8 "S") :=
  BackupManifest.ofFields_eq_some.mp isManifest

section Bounds

variable (tenantId : String) (tenantIds : List String) (isSealed : Recorded)

theorem isBackupId_ofList {characters : List Char}
    (isId : (characters.length = 36 && characters.all fun character =>
      character.isDigit || ('a' ≤ character && character ≤ 'f') ||
        character = '-') = true) :
    ManifestFields.isBackupId (String.ofList characters) = true := by
  rw [ManifestFields.isBackupId, String.length_ofList, String.toList_ofList]
  exact isId

/-- The fields of a run keep their bounds where its networks do. -/
theorem bounded_runOf (isNamed : 1 ≤ tenantId.length)
    (isShort : tenantId.length ≤ 128) (isFew : tenantIds.length ≤ 200) :
    ((runOf tenantId tenantIds).draft.fields (recordingLibrary isSealed)
      (utf8 "S")).bounded = true := by
  have isId : ManifestFields.isBackupId
      "00000000-0000-4000-8000-000000000001" = true := by
    exact isBackupId_ofList (by decide)
  have version : "1.0.0".length = 5 := String.length_ofList
  have isDigest := isDigest_hexDigest
    ((recordingLibrary_lawful isSealed).sha256 (utf8 "S"))
  have isSized : 1 ≤ ((utf8 "S").length : Int) := by
    exact_mod_cast length_le_utf8 ['S']
  have salt : (base64url drawnSalt).length = 43 := by
    rw [base64url, String.length_ofList, Base64.length_encode]
    rfl
  have nonce : (base64url drawnNonce).length = 16 := by
    rw [base64url, String.length_ofList, Base64.length_encode]
    rfl
  have isList : (if 1 < tenantIds.length then tenantIds else []).length ≤ 200 := by
    split
    · exact isFew
    · exact Nat.zero_le _
  simp only [ManifestFields.bounded, Bool.and_eq_true, decide_eq_true_eq, and_assoc]
  refine ⟨isId, isNamed, isShort, isList, ?_, ?_, le_rfl, ?_, isDigest, isSized,
    ?_, ?_, nonce⟩
  · exact le_of_le_of_eq (by decide) version.symm
  · exact le_of_eq_of_le version (by decide)
  · exact show 1 ≤ 1000 by decide
  · exact le_of_eq salt.symm
  · exact le_of_eq_of_le salt (by decide)

/-- All but the list of the networks is short. -/
theorem length_front_le (isShort : tenantId.length ≤ 64) :
    (Json.dumpsChars true (.obj (ManifestFields.modelDump epochConversions
      { (runOf tenantId tenantIds).draft.fields (recordingLibrary isSealed)
        (utf8 "S") with tenantIds := [] }))).length ≤ 14 * (242 + 770 + 2) + 1 := by
  have key {characters : List Char} (short : characters.length ≤ 20) :
      (Json.quote true (String.ofList characters)).length ≤ 242 := by
    have quoted := Json.length_quote_le true (String.ofList characters)
    rw [String.length_ofList] at quoted
    omega
  have text {text : String} (short : text.length ≤ 64) :
      (Json.dumpsChars true (.str text)).length ≤ 770 := by
    have quoted := Json.length_quote_le true text
    rw [Json.dumpsChars]
    omega
  have literal {characters : List Char} (short : characters.length ≤ 64) :
      (Json.dumpsChars true (.str (String.ofList characters))).length ≤ 770 := by
    apply text
    rw [String.length_ofList]
    exact short
  have number : ∀ version : FormatVersion,
      (Json.dumpsChars true (.int version.number)).length ≤ 770 := by
    intro version
    cases version <;> decide
  have isOne : (utf8 "S").length = 1 := by
    exact congrArg List.length (utf8_ofList ['S'])
  have one : (Json.dumpsChars true (.int ((utf8 "S").length : Int))).length ≤ 770 := by
    rw [isOne]
    decide
  have ones : (Json.dumpsChars true (.arr [.int 1])).length ≤ 770 := by
    decide
  have isDigest : (hexDigest ((recordingLibrary isSealed).sha256
      (utf8 "S"))).length ≤ 64 := by
    simp [hexDigest, (recordingLibrary_lawful isSealed).sha256]
  have salt : (base64url drawnSalt).length ≤ 64 := by
    rw [base64url, String.length_ofList, Base64.length_encode]
    decide
  have nonce : (base64url drawnNonce).length ≤ 64 := by
    rw [base64url, String.length_ofList, Base64.length_encode]
    decide
  refine Json.length_obj_le true (List.cons_ne_nil _ _) ?_
  simp only [ManifestFields.modelDump, if_pos, List.append_nil,
    List.forall_mem_cons, List.not_mem_nil, false_implies, implies_true, and_true]
  exact ⟨⟨key (by decide), literal (by decide)⟩,
    ⟨key (by decide), literal (by decide)⟩,
    ⟨key (by decide), literal (by decide)⟩, ⟨key (by decide), text isDigest⟩,
    ⟨key (by decide), one⟩, ⟨key (by decide), literal (by decide)⟩,
    ⟨key (by decide), literal (by decide)⟩, ⟨key (by decide), number _⟩,
    ⟨key (by decide), literal (by decide)⟩,
    ⟨key (by decide), literal (by decide)⟩, ⟨key (by decide), text nonce⟩,
    ⟨key (by decide), text salt⟩, ⟨key (by decide), ones⟩,
    ⟨key (by decide), text isShort⟩⟩

end Bounds

/-- A device with this manifest alone, whose snapshots no check accepts. -/
def applianceOf (manifest : BackupManifest) : Appliance where
  library := recordingLibrary (recordOf manifest)
  sqlite := ⟨fun _ => none, fun file _ _ => (file, 0)⟩
  sourceKey := sourceKey
  supportedVersions := [1]

/-- A Mac with one network. -/
theorem manifestOf_home : ∃ manifest, manifestOf "home" ["home"] = some manifest ∧
    (manifestBytes epochConversions manifest).length ≤ maxManifestBytes := by
  have named : "home".length = 4 := String.length_ofList
  have isBounded := bounded_runOf "home" ["home"] ⟨[], [], [], []⟩
    (by omega) (by omega) (by decide)
  have length := length_front_le "home" ["home"] ⟨[], [], [], []⟩
    (by omega)
  refine ⟨⟨(runOf "home" ["home"]).draft.fields
    (recordingLibrary ⟨[], [], [], []⟩) (utf8 "S"), ?_⟩,
    BackupManifest.ofFields_eq_some.mpr rfl, ?_⟩
  · rw [isBounded]
    rfl
  · exact (utf8_length_le _).trans
      ((Nat.mul_le_mul_left 4 length).trans (by decide))

/-- Network identifiers of 128 characters, each with another first one. -/
def wideId (index : Nat) : String :=
  String.ofList (Char.ofNat (0x4E00 + index) :: List.replicate 127 '網')

def wideIds : List String :=
  "home" :: (List.range 100).map wideId

theorem length_wideId (index : Nat) : (wideId index).length = 128 := by
  rw [wideId, String.length_ofList, List.length_cons, List.length_replicate]

theorem wideChar_toNat {index : Nat} (bounded : index < 100) :
    (Char.ofNat (0x4E00 + index)).toNat = 0x4E00 + index := by
  have valid : (0x4E00 + index).isValidChar := by
    left
    omega
  rw [Char.ofNat, dif_pos valid]
  rfl

theorem wideId_lt {first second : Nat} (less : first < second)
    (bounded : second < 100) : wideId first < wideId second := by
  have isLess : Char.ofNat (0x4E00 + first) < Char.ofNat (0x4E00 + second) := by
    rw [Char.lt_def, UInt32.lt_iff_toNat_lt]
    change Char.toNat _ < Char.toNat _
    rw [wideChar_toNat (less.trans bounded), wideChar_toNat bounded]
    omega
  rw [String.lt_iff, wideId, wideId, String.toList_ofList, String.toList_ofList,
    List.cons_lt_cons_iff]
  exact .inl isLess

theorem home_lt_wideId {index : Nat} (bounded : index < 100) :
    "home" < wideId index := by
  have isLess : 'h' < Char.ofNat (0x4E00 + index) := by
    rw [Char.lt_def, UInt32.lt_iff_toNat_lt]
    change Char.toNat 'h' < Char.toNat _
    rw [wideChar_toNat bounded]
    exact Nat.lt_of_lt_of_le (by decide) (Nat.le_add_right _ _)
  rw [String.lt_iff, wideId, String.toList_ofList, String.toList_ofList,
    List.cons_lt_cons_iff]
  exact .inl isLess

theorem wideIds_pairwise : wideIds.Pairwise (· < ·) := by
  refine List.pairwise_cons.mpr ⟨?_, ?_⟩
  · intro identifier member
    obtain ⟨index, inRange, rfl⟩ := List.mem_map.mp member
    exact home_lt_wideId (List.mem_range.mp inRange)
  · rw [List.pairwise_map]
    refine List.pairwise_lt_range.imp_of_mem ?_
    intro first second _ inRange less
    exact wideId_lt less (List.mem_range.mp inRange)

theorem length_quote_wideId {index : Nat} (bounded : index < 100) :
    (Json.quote true (wideId index)).length = 770 := by
  have isWide : ∀ character ∈ (wideId index).toList,
      (Json.escapeChar true character).length = 6 := by
    intro character member
    rw [wideId, String.toList_ofList] at member
    rcases List.mem_cons.mp member with rfl | isOther
    · have point := wideChar_toNat bounded
      exact Json.length_escapeChar_wide (by omega) (by omega)
    · rw [List.eq_of_mem_replicate isOther]
      exact Json.length_escapeChar_wide (by decide) (by decide)
  rw [Json.length_quote true isWide, length_wideId]

theorem length_wideIds :
    (Json.dumpsChars true (.arr (wideIds.map .str))).length = 77108 := by
  have home : (Json.dumpsChars true (.str "home")).length = 6 := by
    decide
  have others : (List.range 100).map
      ((fun item => (Json.dumpsChars true item).length + 1) ∘
        Json.str ∘ wideId) = List.replicate 100 771 := by
    refine List.eq_replicate_iff.mpr ⟨by simp, ?_⟩
    intro length member
    obtain ⟨index, inRange, rfl⟩ := List.mem_map.mp member
    exact congrArg (· + 1) (length_quote_wideId (List.mem_range.mp inRange))
  have items : wideIds.map Json.str =
      .str "home" :: (List.range 100).map (Json.str ∘ wideId) := by
    rw [wideIds, List.map_cons, List.map_map]
  rw [items, Json.length_arr true (List.cons_ne_nil _ _), List.map_cons,
    List.sum_cons, List.map_map, home, others, List.sum_replicate_nat]

def wideFields : ManifestFields :=
  (runOf "home" wideIds).draft.fields (recordingLibrary ⟨[], [], [], []⟩)
    (utf8 "S")

theorem wideFields_tenantIds : wideFields.tenantIds = wideIds := by
  have isMany : 1 < wideIds.length := by
    simp [wideIds]
  simp only [wideFields, runOf, Draft.fields, isMany, if_true]

theorem inScope_wide : wideFields.inScope = true := by
  have isTwo : wideFields.formatVersion = .two := by
    simp [wideFields, runOf, Draft.fields, wideIds]
  have isHome : wideFields.tenantId = "home" := rfl
  have isBounded : ∀ value ∈ wideIds, value ≠ "" ∧ value.length ≤ 128 := by
    intro value member
    rcases List.mem_cons.mp member with rfl | isWide
    · decide
    · obtain ⟨index, _, rfl⟩ := List.mem_map.mp isWide
      have length := length_wideId index
      refine ⟨?_, length.le⟩
      rintro isEmpty
      rw [isEmpty] at length
      cases length
  have hasHome : wideIds.contains "home" = true := by
    simp [wideIds]
  simp only [ManifestFields.inScope, isTwo, wideFields_tenantIds, isHome,
    hasHome, wideIds_pairwise, decide_true, Bool.and_eq_true, and_true,
    List.all_eq_true, decide_eq_true_eq]
  exact ⟨by simp [wideIds], isBounded⟩

theorem modelDump_of_many {fields : ManifestFields} (many : fields.tenantIds ≠ []) :
    fields.modelDump epochConversions =
      { fields with tenantIds := [] }.modelDump epochConversions ++
        [("tenant_ids", .arr (fields.tenantIds.map .str))] := by
  simp [ManifestFields.modelDump, many]

/-- The identifiers alone are more than the reader allows. -/
theorem length_wide {front : List (String × Json)} (isNonempty : front ≠ [])
    (isShort : (Json.dumpsChars true (.obj front)).length ≤ 14 * (242 + 770 + 2) + 1) :
    maxManifestBytes < (Json.dumpsChars true
        (.obj (front ++ [("tenant_ids", .arr (wideIds.map .str))]))).length ∧
      (Json.dumpsChars true
        (.obj (front ++ [("tenant_ids", .arr (wideIds.map .str))]))).length <
          2 ^ 30 := by
  have key := Json.length_quote_le true "tenant_ids"
  have name : "tenant_ids".length = 10 := String.length_ofList
  rw [Json.length_obj_concat true isNonempty, length_wideIds, maxManifestBytes]
  omega

theorem length_wideFields :
    maxManifestBytes < (Json.dumpsChars true
        (.obj (wideFields.modelDump epochConversions))).length ∧
      (Json.dumpsChars true
        (.obj (wideFields.modelDump epochConversions))).length < 2 ^ 30 := by
  have many : wideFields.tenantIds ≠ [] := by
    rw [wideFields_tenantIds]
    exact List.cons_ne_nil _ _
  have named : "home".length = 4 := String.length_ofList
  rw [modelDump_of_many many, wideFields_tenantIds]
  exact length_wide (List.cons_ne_nil _ _)
    (length_front_le "home" wideIds ⟨[], [], [], []⟩ (by omega))

theorem manifestOf_wide : ∃ manifest, manifestOf "home" wideIds = some manifest ∧
    maxManifestBytes < (manifestBytes epochConversions manifest).length ∧
    (manifestBytes epochConversions manifest).length < 2 ^ 32 := by
  have named : "home".length = 4 := String.length_ofList
  have isBounded := bounded_runOf "home" wideIds ⟨[], [], [], []⟩ (by omega)
    (by omega) (by simp [wideIds])
  have valid : (wideFields.bounded && wideFields.inScope) = true := by
    rw [wideFields, isBounded, ← wideFields, inScope_wide]
    rfl
  obtain ⟨isLong, isSmall⟩ := length_wideFields
  have atLeast := length_le_utf8 (Json.dumpsChars true
    (.obj (wideFields.modelDump epochConversions)))
  have atMost := utf8_length_le (Json.dumpsChars true
    (.obj (wideFields.modelDump epochConversions)))
  refine ⟨⟨wideFields, valid⟩, BackupManifest.ofFields_eq_some.mpr rfl,
    isLong.trans_le atLeast, atMost.trans_lt ?_⟩
  exact (Nat.mul_lt_mul_of_pos_left isSmall (by decide)).trans_eq (by decide)

section

variable {tenantId : String} {tenantIds : List String} {manifest : BackupManifest}

/-- The artifact of a run. -/
theorem creates_runOf (isManifest : manifestOf tenantId tenantIds = some manifest)
    (small : (manifestBytes epochConversions manifest).length < 2 ^ 32) :
    ∃ artifact, createBackup (applianceOf manifest).library
      (runOf tenantId tenantIds) = .ok (manifest, artifact) := by
  obtain ⟨length, isLength⟩ := exists_packLength small
  exact ⟨_, (createBackup_ok (recordingLibrary_lawful _)).mpr
    ⟨derivedKey, length, makes_runOf (isManifest_of_manifestOf _ isManifest)
      isLength, rfl⟩⟩

theorem applianceOf_authenticates
    (isManifest : manifestOf tenantId tenantIds = some manifest)
    (small : (manifestBytes epochConversions manifest).length < 2 ^ 32) :
    Authenticates (applianceOf manifest).library (· = runOf tenantId tenantIds) := by
  obtain ⟨_, isLength⟩ := exists_packLength small
  exact recordingLibrary_authenticates (isManifest_of_manifestOf _ isManifest)
    isLength

end

/-- `Sqlite.Lawful` of a device that accepts no snapshot. -/
theorem applianceOf_sqlite (manifest : BackupManifest) :
    (applianceOf manifest).sqlite.Lawful := by
  intro file inspection backupId tenantId now inspected
  cases inspected

/-! ## What a container guarantees -/

end Backups

end ControlForge
