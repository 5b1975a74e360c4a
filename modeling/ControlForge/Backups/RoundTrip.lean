import ControlForge.Backups.Container
import ControlForge.Foundation.Transaction

/-!
# What is read back from a container

An artifact is read back as it was written, unless its manifest is longer than
the reader allows.  Where the cipher accepts only what has been sealed, nothing
but the artifacts of the writer is decrypted.
-/

namespace ControlForge

namespace Backups

/-! ## Texts and lengths as bytes -/

theorem utf8_ofList (characters : List Char) :
    utf8 (String.ofList characters) =
      characters.flatMap String.utf8EncodeChar := by
  simp [utf8, List.utf8Encode]

theorem length_le_utf8 (characters : List Char) :
    characters.length ≤ (utf8 (String.ofList characters)).length := by
  rw [utf8_ofList]
  induction characters with
  | nil => simp
  | cons character characters induction =>
      have positive := character.utf8Size_pos
      simp only [List.length_cons, List.flatMap_cons, List.length_append,
        String.length_utf8EncodeChar]
      omega

theorem utf8_length_le (characters : List Char) :
    (utf8 (String.ofList characters)).length ≤ 4 * characters.length := by
  rw [utf8_ofList]
  induction characters with
  | nil => simp
  | cons character characters induction =>
      have atMostFour := character.utf8Size_le_four
      simp only [List.length_cons, List.flatMap_cons, List.length_append,
        String.length_utf8EncodeChar]
      omega

theorem unpackLength_packLength {value : Nat} {bytes : Bytes}
    (packed : packLength value = some bytes) :
    bytes.length = 4 ∧ unpackLength bytes = value := by
  unfold packLength at packed
  split_ifs at packed with small
  obtain rfl := Option.some.inj packed
  refine ⟨rfl, ?_⟩
  simp only [unpackLength, List.foldl_cons, List.foldl_nil,
    UInt8.toNat_ofNat']
  omega

theorem exists_packLength {value : Nat} (small : value < 2 ^ 32) :
    ∃ bytes, packLength value = some bytes :=
  ⟨_, if_pos small⟩

theorem ofNat_of_mod (byte : UInt8) {value : Nat}
    (same : value % 256 = byte.toNat) : UInt8.ofNat value = byte := by
  apply UInt8.toNat_inj.mp
  rw [UInt8.toNat_ofNat', ← same]

theorem packLength_unpackLength {bytes : Bytes} (four : bytes.length = 4) :
    packLength (unpackLength bytes) = some bytes := by
  match bytes, four with
  | [first, second, third, fourth], _ =>
      have bound := first.toNat_lt
      have secondBound := second.toNat_lt
      have thirdBound := third.toNat_lt
      have fourthBound := fourth.toNat_lt
      simp only [unpackLength, List.foldl_cons, List.foldl_nil]
      rw [packLength, if_pos (by omega), ofNat_of_mod first (by omega),
        ofNat_of_mod second (by omega),
        ofNat_of_mod third (by omega),
        ofNat_of_mod fourth (by omega)]

theorem isHex_hexDigit {digit : Nat} (small : digit < 16) :
    ((Json.hexDigit digit).isDigit ||
      ('a' ≤ Json.hexDigit digit && Json.hexDigit digit ≤ 'f' : Bool)) = true := by
  have all : ∀ value : Fin 16, ((Json.hexDigit value).isDigit ||
      ('a' ≤ Json.hexDigit value && Json.hexDigit value ≤ 'f' : Bool)) = true := by
    decide
  exact all ⟨digit, small⟩

theorem isDigest_hexDigest {bytes : Bytes} (full : bytes.length = 32) :
    ManifestFields.isDigest (hexDigest bytes) = true := by
  have length : (hexDigest bytes).length = 64 := by
    simp [hexDigest, full]
  rw [ManifestFields.isDigest, length, decide_eq_true rfl, Bool.true_and,
    List.all_eq_true, hexDigest, String.toList_ofList]
  intro character member
  obtain ⟨byte, _, isDigit⟩ := List.mem_flatMap.mp member
  have bound := byte.toNat_lt
  rcases List.mem_pair.mp isDigit with rfl | rfl
  · exact isHex_hexDigit (by omega)
  · exact isHex_hexDigit (by omega)

theorem decodeBase64url_base64url (bytes : Bytes) :
    decodeBase64url (base64url bytes) bytes.length = .ok bytes := by
  simp only [decodeBase64url, base64url, String.toList_ofList,
    Base64.decode_encode, if_true]
  rfl

/-! ## The artifact -/

/-- What the cipher has sealed, or is asked to open. -/
structure Message where
  key : Bytes
  nonce : Bytes
  associated : Bytes
  ciphertext : Bytes
  tag : Bytes

/-- The artifact of a message. -/
def Message.artifact (message : Message) (length : Bytes) : Bytes :=
  magic ++ length ++ message.associated ++ message.ciphertext ++ message.tag

section Writer

variable {library : Library}

/-- The message of a snapshot. -/
def sealedMessage (library : Library) (key nonce associated snapshot : Bytes) :
    Message where
  key
  nonce
  associated
  ciphertext := (library.gcm.encrypt
    (library.gcm.start key nonce associated) snapshot).2
  tag := library.gcm.tag (library.gcm.encrypt
    (library.gcm.start key nonce associated) snapshot).1

def BackupRun.message (library : Library) (run : BackupRun)
    (manifest : BackupManifest) (key : Bytes) : Message :=
  sealedMessage library key run.draft.nonce
    (manifestBytes library.conversions manifest) run.snapshot

/-- A run of the writer that makes an artifact. -/
structure Makes (library : Library) (run : BackupRun) (manifest : BackupManifest)
    (key length : Bytes) : Prop where
  isSalt : run.draft.salt.length = 32
  isNonce : run.draft.nonce.length = 12
  isManifest :
    manifest.toManifestFields = run.draft.fields library run.snapshot
  isKey : deriveKey library run.sourceKey run.draft.salt = .ok key
  isLength : packLength (manifestBytes library.conversions manifest).length =
    some length
  isSmall : run.snapshot.length ≤ maxEncryptedBytes

/-- The loop writes what one call would. -/
theorem encryptSnapshot_ok (lawful : library.Lawful)
    {sourceKey snapshot salt nonce artifact : Bytes} {manifest : BackupManifest} :
    encryptSnapshot library sourceKey snapshot manifest salt nonce =
        .ok artifact ↔
      ∃ key length, deriveKey library sourceKey salt = .ok key ∧
        packLength (manifestBytes library.conversions manifest).length =
          some length ∧
        snapshot.length ≤ maxEncryptedBytes ∧
        artifact = (sealedMessage library key nonce
          (manifestBytes library.conversions manifest) snapshot).artifact
            length := by
  have positive : 0 < chunkBytes := by decide
  cases isKey : deriveKey library sourceKey salt with
  | error failure => simp [encryptSnapshot, isKey, bind, Except.bind]
  | ok key =>
      cases isLength : packLength
          (manifestBytes library.conversions manifest).length with
      | none =>
          simp [encryptSnapshot, isKey, isLength, bind, Except.bind]
      | some length =>
          simp [encryptSnapshot, isKey, isLength, bind, Except.bind,
            inChunks_eq lawful.gcm.encrypts positive _ _ _ (Nat.le_refl _)]
          split_ifs with isLong
          · constructor
            · rintro ⟨⟩
            · exact fun fits => absurd fits.1 (Nat.not_le.mpr isLong)
          · simp only [pure, Except.pure, Except.ok.injEq, Nat.not_lt.mp isLong,
              true_and, Message.artifact, sealedMessage, List.append_assoc]
            exact eq_comm

theorem BackupManifest.ofFields_eq_some {fields : ManifestFields}
    {manifest : BackupManifest} :
    BackupManifest.ofFields fields = some manifest ↔
      manifest.toManifestFields = fields := by
  constructor
  · intro isManifest
    unfold BackupManifest.ofFields at isManifest
    split_ifs at isManifest
    obtain rfl := Option.some.inj isManifest
    rfl
  · rintro rfl
    exact ofFields_toManifestFields manifest

theorem createBackup_ok (lawful : library.Lawful) {run : BackupRun}
    {manifest : BackupManifest} {artifact : Bytes} :
    createBackup library run = .ok (manifest, artifact) ↔
      ∃ key length, Makes library run manifest key length ∧
        artifact = (run.message library manifest key).artifact length := by
  unfold createBackup
  constructor
  · intro created
    split_ifs at created with drawn
    cases isManifest : BackupManifest.ofFields
        (run.draft.fields library run.snapshot) with
    | none =>
        rw [isManifest] at created
        cases created
    | some made =>
        rw [isManifest] at created
        obtain ⟨written, encrypted, same⟩ := bind_eq_ok.mp created
        cases same
        obtain ⟨key, length, isKey, isLength, isSmall, isArtifact⟩ :=
          (encryptSnapshot_ok lawful).mp encrypted
        exact ⟨key, length, ⟨drawn.1, drawn.2,
          BackupManifest.ofFields_eq_some.mp isManifest, isKey, isLength,
          isSmall⟩, isArtifact⟩
  · rintro ⟨key, length, makes, isArtifact⟩
    rw [if_pos ⟨makes.isSalt, makes.isNonce⟩,
      BackupManifest.ofFields_eq_some.mpr makes.isManifest]
    have encrypted : encryptSnapshot library run.sourceKey run.snapshot manifest
        run.draft.salt run.draft.nonce = .ok artifact :=
      (encryptSnapshot_ok lawful).mpr ⟨key, length, makes.isKey, makes.isLength,
        makes.isSmall, isArtifact⟩
    exact bind_eq_ok.mpr ⟨artifact, encrypted, rfl⟩

end Writer

/-! ## Reading an artifact -/

section Reader

variable {library : Library}

theorem take_append_drop_add (source : Bytes) (first second : Nat) :
    (source.drop first).take second ++ source.drop (first + second) =
      source.drop first := by
  rw [← List.drop_drop, List.take_append_drop]

/-- A list is cut into four pieces from the front and one from the back. -/
theorem pieces (source : Bytes) (first second third last : Nat)
    (fits : first + second + third + last ≤ source.length) :
    source.take first ++ (source.drop first).take second ++
      (source.drop (first + second)).take third ++
      (source.drop (first + second + third)).take
        (source.length - (first + second + third) - last) ++
      source.drop (source.length - last) = source := by
  have back : source.length - last = first + second + third +
      (source.length - (first + second + third) - last) := by
    omega
  conv_lhs => rw [back]
  simp only [List.append_assoc]
  rw [take_append_drop_add, take_append_drop_add, take_append_drop_add,
    List.take_append_drop]

theorem readArtifactHeader_ok {source : Bytes} {header : ArtifactHeader}
    (read : readArtifactHeader library source = .ok header) :
    ∃ length ciphertext,
      source = magic ++ length ++ header.manifestBytes ++ ciphertext ++
        header.tag ∧
      packLength header.manifestBytes.length = some length ∧
      header.manifestBytes.length ≤ maxManifestBytes ∧
      header.tag.length = 16 ∧
      (source.drop header.ciphertextStart).take header.ciphertextBytes =
        ciphertext := by
  dsimp only [readArtifactHeader] at read
  split at read
  · cases read
  next isMagic =>
  split at read
  · cases read
  next isFour =>
  split at read
  · cases read
  next inBounds =>
  split at read
  · cases read
  next isWhole =>
  split at read
  · cases read
  next manifest isManifest =>
  split at read
  · cases read
  next hasCiphertext =>
  cases read
  dsimp only
  generalize isLength : (source.drop magic.length).take 4 = length at *
  rw [not_not] at isMagic isFour isWhole
  generalize isManifestBytes : (source.drop (magic.length + 4)).take
    (unpackLength length) = associated at *
  refine ⟨length, _, ?_, ?_, ?_, ?_, rfl⟩
  · have cut := pieces source magic.length 4 (unpackLength length) 16
      (by omega)
    rw [isMagic, isLength, isManifestBytes] at cut
    exact cut.symm
  · rw [isWhole]
    exact packLength_unpackLength isFour
  · rw [isWhole]
    omega
  · rw [List.length_drop]
    omega

/-- The cipher accepts a message. -/
def Message.Opens (library : Library) (message : Message) : Prop :=
  library.gcm.verify (library.gcm.decrypt (library.gcm.start message.key
    message.nonce message.associated) message.ciphertext).1 message.tag = true

/-- What is decrypted is the artifact of a message the cipher accepts. -/
theorem decryptArtifact_ok (lawful : library.Lawful)
    {sourceKey artifact plaintext : Bytes} {manifest : BackupManifest}
    (decrypted : decryptArtifact library sourceKey artifact =
      .ok (manifest, plaintext)) :
    ∃ (message : Message) (length : Bytes), artifact = message.artifact length ∧
      packLength message.associated.length = some length ∧
      message.associated.length ≤ maxManifestBytes ∧
      message.Opens library := by
  have positive : 0 < chunkBytes := by decide
  obtain ⟨header, read, decrypted⟩ := bind_eq_ok.mp decrypted
  obtain ⟨salt, _, decrypted⟩ := bind_eq_ok.mp decrypted
  obtain ⟨key, _, decrypted⟩ := bind_eq_ok.mp decrypted
  obtain ⟨nonce, _, decrypted⟩ := bind_eq_ok.mp decrypted
  obtain ⟨length, ciphertext, same, isLength, isBounded, _, isCiphertext⟩ :=
    readArtifactHeader_ok read
  refine ⟨⟨key, nonce, header.manifestBytes, ciphertext, header.tag⟩, length, same,
    isLength, isBounded, ?_⟩
  dsimp only at decrypted
  rw [isCiphertext, inChunks_eq lawful.gcm.decrypts positive _ _ _
    (Nat.le_refl _)] at decrypted
  split at decrypted
  · cases decrypted
  split at decrypted
  · cases decrypted
  next verified =>
  exact Bool.eq_true_of_not_eq_false verified

/-- The pieces of a list that was put together. -/
theorem pieces_append (first second third fourth fifth : Bytes) :
    (first ++ second ++ third ++ fourth ++ fifth).take first.length = first ∧
      ((first ++ second ++ third ++ fourth ++ fifth).drop first.length).take
        second.length = second ∧
      ((first ++ second ++ third ++ fourth ++ fifth).drop
        (first.length + second.length)).take third.length = third ∧
      ((first ++ second ++ third ++ fourth ++ fifth).drop
        (first.length + second.length + third.length)).take fourth.length =
          fourth ∧
      (first ++ second ++ third ++ fourth ++ fifth).drop
        (first.length + second.length + third.length + fourth.length) = fifth := by
  simp only [List.append_assoc, List.take_left', ← List.drop_drop,
    List.drop_left', and_self]

theorem Makes.nonempty {run : BackupRun} {manifest : BackupManifest}
    {key length : Bytes} (makes : Makes library run manifest key length) :
    0 < run.snapshot.length := by
  have valid := manifest.valid
  simp only [ManifestFields.bounded, Bool.and_eq_true, decide_eq_true_eq] at valid
  have size : manifest.databaseSizeBytes = run.snapshot.length := by
    rw [makes.isManifest]
    rfl
  omega

theorem two_le_manifestBytes (conversions : Conversions)
    (manifest : BackupManifest) : 2 ≤ (manifestBytes conversions manifest).length := by
  have long : 2 ≤ (Json.dumpsChars true
      (.obj (manifest.modelDump conversions))).length := by
    simp only [ManifestFields.modelDump, List.cons_append, Json.dumpsChars,
      Json.quote, List.length_cons]
    omega
  exact long.trans (length_le_utf8 _)

/-- The reader of an artifact of the writer: the length of the manifest
decides. -/
theorem readArtifactHeader_made (lawful : library.Lawful) {run : BackupRun}
    {manifest : BackupManifest} {key length : Bytes}
    (makes : Makes library run manifest key length)
    (bounded : (manifestBytes library.conversions manifest).length ≤
      maxManifestBytes) :
    ∃ header, readArtifactHeader library
        ((run.message library manifest key).artifact length) = .ok header ∧
      header.manifest = manifest ∧
      header.manifestBytes = manifestBytes library.conversions manifest ∧
      header.ciphertextBytes = run.snapshot.length ∧
      header.tag = (run.message library manifest key).tag ∧
      (((run.message library manifest key).artifact length).drop
        header.ciphertextStart).take header.ciphertextBytes =
          (run.message library manifest key).ciphertext := by
  obtain ⟨four, unpacked⟩ := unpackLength_packLength makes.isLength
  have nonempty := makes.nonempty
  have sameLength : (run.message library manifest key).ciphertext.length =
      run.snapshot.length := lawful.gcm.length _ _
  have tagLength : (run.message library manifest key).tag.length = 16 :=
    lawful.gcm.tag _
  have isAssociated : (run.message library manifest key).associated =
      manifestBytes library.conversions manifest := rfl
  generalize run.message library manifest key = message at *
  have cut := pieces_append magic length message.associated message.ciphertext
    message.tag
  have total : (message.artifact length).length = magic.length + 4 +
      message.associated.length + run.snapshot.length + 16 := by
    simp only [Message.artifact, List.length_append, four, sameLength, tagLength]
  rw [four] at cut
  change (message.artifact length).take _ = _ ∧
    ((message.artifact length).drop _).take _ = _ ∧
    ((message.artifact length).drop _).take _ = _ ∧
    ((message.artifact length).drop _).take _ = _ ∧
    (message.artifact length).drop _ = _ at cut
  obtain ⟨isMagic, isLength, isManifest, isCiphertext, isTag⟩ := cut
  generalize message.artifact length = source at *
  have twice := two_le_manifestBytes library.conversions manifest
  rw [← isAssociated] at bounded unpacked twice
  have read : readArtifactHeader library source = .ok {
      manifest
      manifestBytes := message.associated
      ciphertextStart := magic.length + 4 + message.associated.length
      ciphertextBytes := run.snapshot.length
      tag := message.tag } := by
    have validated : validateJson library.conversions message.associated =
        some manifest := by
      rw [isAssociated]
      exact validateJson_manifestBytes lawful.conversions manifest
    have inBounds : ¬ (message.associated.length < 2 ∨
        maxManifestBytes < message.associated.length) := by
      omega
    have hasCiphertext : ¬ source.length <
        magic.length + 4 + message.associated.length + 16 + 1 := by
      omega
    have size : source.length -
        (magic.length + 4 + message.associated.length) - 16 =
          run.snapshot.length := by
      omega
    have tagStart : source.length - 16 = magic.length + 4 +
        message.associated.length + message.ciphertext.length := by
      omega
    simp only [readArtifactHeader, isMagic, isLength, unpacked, isManifest, four,
      validated, inBounds, hasCiphertext, size, tagStart, isTag, ne_eq,
      not_true_eq_false, if_false]
    rfl
  refine ⟨_, read, rfl, isAssociated, rfl, rfl, ?_⟩
  rw [← sameLength]
  exact isCiphertext

end Reader

/-! ## What is decrypted -/

/-- The cipher accepts what runs of the writer have sealed, and nothing else. -/
def Authenticates (library : Library) (runs : BackupRun → Prop) : Prop :=
  ∀ message : Message, message.Opens library ↔
    ∃ run manifest key length, runs run ∧
      Makes library run manifest key length ∧
      message = run.message library manifest key

section Decryption

variable {library : Library} {runs : BackupRun → Prop}

theorem Makes.decrypts {run : BackupRun} {manifest : BackupManifest}
    {key length : Bytes} (lawful : library.Lawful)
    (authenticates : Authenticates library runs) (hasRun : runs run)
    (makes : Makes library run manifest key length)
    (bounded : (manifestBytes library.conversions manifest).length ≤
      maxManifestBytes) :
    decryptArtifact library run.sourceKey
        ((run.message library manifest key).artifact length) =
      .ok (manifest, run.snapshot) := by
  have positive : 0 < chunkBytes := by decide
  obtain ⟨header, read, rfl, isManifestBytes, isSize, isTag, isCiphertext⟩ :=
    readArtifactHeader_made lawful makes bounded
  have salt : decodeBase64url header.manifest.salt 32 = .ok run.draft.salt := by
    have isSalt : header.manifest.salt = base64url run.draft.salt := by
      rw [makes.isManifest]
      rfl
    rw [isSalt, ← makes.isSalt]
    exact decodeBase64url_base64url _
  have nonce : decodeBase64url header.manifest.nonce 12 = .ok run.draft.nonce := by
    have isNonce : header.manifest.nonce = base64url run.draft.nonce := by
      rw [makes.isManifest]
      rfl
    rw [isNonce, ← makes.isNonce]
    exact decodeBase64url_base64url _
  have opens : (run.message library header.manifest key).Opens library :=
    (authenticates _).mpr ⟨run, header.manifest, key, length, hasRun, makes, rfl⟩
  have inverse : library.gcm.decrypt (library.gcm.start key run.draft.nonce
        (manifestBytes library.conversions header.manifest))
        (run.message library header.manifest key).ciphertext =
      ((library.gcm.encrypt (library.gcm.start key run.draft.nonce
        (manifestBytes library.conversions header.manifest)) run.snapshot).1,
        run.snapshot) :=
    lawful.gcm.inverse _ _
  have verified : library.gcm.verify
      (library.gcm.decrypt (library.gcm.start key run.draft.nonce
        (manifestBytes library.conversions header.manifest))
        (run.message library header.manifest key).ciphertext).1
      (run.message library header.manifest key).tag = true :=
    opens
  rw [inverse] at verified
  have isSmall : ¬ maxEncryptedBytes < header.ciphertextBytes :=
    isSize ▸ Nat.not_lt.mpr makes.isSmall
  have isLength : header.manifest.databaseSizeBytes = run.snapshot.length := by
    rw [makes.isManifest]
    rfl
  have isDigest : header.manifest.databaseSha256 =
      hexDigest (library.sha256 run.snapshot) := by
    rw [makes.isManifest]
    rfl
  simp only [decryptArtifact, bind, Except.bind, read, salt, makes.isKey, nonce,
    isSmall, if_false, isCiphertext, isManifestBytes, isTag,
    inChunks_eq lawful.gcm.decrypts positive _ _ _ (Nat.le_refl _), inverse,
    verified, isLength, isDigest]
  simp [pure, Except.pure]

/-- An artifact is decrypted to what it was made of exactly when the reader
allows the length of its manifest. -/
theorem round_trip (lawful : library.Lawful)
    (authenticates : Authenticates library runs) {run : BackupRun}
    {manifest : BackupManifest} {artifact : Bytes} (hasRun : runs run)
    (created : createBackup library run = .ok (manifest, artifact)) :
    decryptArtifact library run.sourceKey artifact = .ok (manifest, run.snapshot) ↔
      (manifestBytes library.conversions manifest).length ≤ maxManifestBytes := by
  obtain ⟨key, length, makes, rfl⟩ := (createBackup_ok lawful).mp created
  constructor
  · intro decrypted
    obtain ⟨message, otherLength, same, isLength, isBounded, _⟩ :=
      decryptArtifact_ok lawful decrypted
    have cut := pieces_append magic length
      (run.message library manifest key).associated
      (run.message library manifest key).ciphertext
      (run.message library manifest key).tag
    have otherCut := pieces_append magic otherLength message.associated
      message.ciphertext message.tag
    have isSame : otherLength = length := by
      rw [(unpackLength_packLength makes.isLength).1] at cut
      rw [(unpackLength_packLength isLength).1] at otherCut
      rw [← cut.2.1, ← otherCut.2.1]
      exact congrArg (fun source => (source.drop magic.length).take 4) same.symm
    rw [isSame] at isLength
    rw [← (unpackLength_packLength makes.isLength).2,
      (unpackLength_packLength isLength).2]
    exact isBounded
  · exact makes.decrypts lawful authenticates hasRun

/-- What is decrypted is an artifact of the writer. -/
theorem decrypts_only_made (lawful : library.Lawful)
    (authenticates : Authenticates library runs)
    {sourceKey artifact plaintext : Bytes} {manifest : BackupManifest}
    (decrypted : decryptArtifact library sourceKey artifact =
      .ok (manifest, plaintext)) :
    ∃ run made, runs run ∧ createBackup library run = .ok (made, artifact) := by
  obtain ⟨message, length, rfl, isLength, _, opens⟩ :=
    decryptArtifact_ok lawful decrypted
  obtain ⟨run, made, key, otherLength, hasRun, makes, rfl⟩ :=
    (authenticates message).mp opens
  obtain rfl : otherLength = length :=
    Option.some.inj (makes.isLength.symm.trans isLength)
  exact ⟨run, made, hasRun,
    (createBackup_ok lawful).mpr ⟨key, otherLength, makes, rfl⟩⟩

end Decryption

end Backups

end ControlForge
