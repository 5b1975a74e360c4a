import ControlForge.Audit.Chain
import ControlForge.Foundation.HashChain

/-!
# What tampering cannot do

Someone without the key may store any rows, but every tag among them is one
the log genuinely made.  Content on which `verify` reports valid is then a
prefix of the log, entry for entry and field for field: the contents by the
chain, the sequence numbers by the checkpoints.
-/

namespace ControlForge

namespace Audit

/-! ## What is signed determines the fields -/

theorem sortKeys_entryObject (previous : Option String)
    (content : EntryContent) :
    Json.sortKeys (entryObject previous content) =
      entryObject previous content := by
  apply Json.sortKeys_of_sorted
  · simp [Json.keyLe]
  · cases previous <;> simp [Json.sortKeys, optionalText]

theorem sortKeys_checkpointObject (checkpointId tenantId : String)
    (throughSequence : Int) (terminalHmac createdAt : String) :
    Json.sortKeys (checkpointObject checkpointId tenantId throughSequence
        terminalHmac createdAt) =
      checkpointObject checkpointId tenantId throughSequence terminalHmac
        createdAt := by
  apply Json.sortKeys_of_sorted
  · simp [Json.keyLe]
  · simp [Json.sortKeys]

theorem wellFormed_entryObject (previous : Option String)
    (content : EntryContent) : (entryObject previous content).WellFormed := by
  cases previous <;>
    simp [entryObject, optionalText, Json.WellFormed, Json.WellFormedMembers]

theorem wellFormed_checkpointObject (checkpointId tenantId : String)
    (throughSequence : Int) (terminalHmac createdAt : String) :
    (checkpointObject checkpointId tenantId throughSequence terminalHmac
      createdAt).WellFormed := by
  simp [checkpointObject, Json.WellFormed, Json.WellFormedMembers]

theorem entryMaterial_injective {previous previous' : Option String}
    {content content' : EntryContent}
    (same : entryMaterial previous content =
      entryMaterial previous' content') :
    previous = previous' ∧ content = content' := by
  unfold entryMaterial at same
  rw [sortKeys_entryObject, sortKeys_entryObject] at same
  have objects := Json.dumps_injective true
    (wellFormed_entryObject previous content)
    (wellFormed_entryObject previous' content') same
  cases content
  cases content'
  cases previous <;> cases previous' <;>
    simp_all [entryObject, optionalText]

theorem checkpointMaterial_injective {left right : CheckpointRow}
    (same : left.material = right.material) :
    left.checkpointId = right.checkpointId ∧
      left.tenantId = right.tenantId ∧
      left.throughSequence = right.throughSequence ∧
      left.terminalHmac = right.terminalHmac ∧
      left.createdAt = right.createdAt := by
  unfold CheckpointRow.material checkpointMaterial at same
  rw [sortKeys_checkpointObject, sortKeys_checkpointObject] at same
  have objects := Json.dumps_injective true
    (wellFormed_checkpointObject _ _ _ _ _)
    (wellFormed_checkpointObject _ _ _ _ _) same
  simp only [checkpointObject, Json.obj.injEq, List.cons.injEq, Prod.mk.injEq,
    Json.str.injEq, Json.int.injEq, true_and, and_true] at objects
  obtain ⟨identifier, created, tenant, terminal, sequence⟩ := objects
  exact ⟨identifier, tenant, sequence, terminal, created⟩

/-- The tag of an entry is never the tag of a checkpoint. -/
theorem entryMaterial_ne_material (previous : Option String)
    (content : EntryContent) (row : CheckpointRow) :
    entryMaterial previous content ≠ row.material := by
  intro same
  unfold CheckpointRow.material checkpointMaterial entryMaterial at same
  rw [sortKeys_checkpointObject, sortKeys_entryObject] at same
  have objects := Json.dumps_injective true
    (wellFormed_entryObject previous content)
    (wellFormed_checkpointObject _ _ _ _ _) same
  simp [entryObject, checkpointObject] at objects

/-! ## Unforgeability -/

/-- What was signed for the rows of a log. -/
def signedMaterials (tables : Tables) : List String :=
  tables.entries.rows.map
      (fun row => entryMaterial row.previousHmac row.content) ++
    tables.checkpoints.rows.map CheckpointRow.material

/-- Every tag among the stored rows was made for a row of the log. -/
structure Unforgeable (key : AuditKey) (genuine stored : Tables) : Prop where
  entries : ∀ row ∈ stored.entries.rows, ∀ material,
    row.integrityHmac = key.hmac material →
      material ∈ signedMaterials genuine
  checkpoints : ∀ row ∈ stored.checkpoints.rows, ∀ material,
    row.signature = key.hmac material → material ∈ signedMaterials genuine

theorem signed_entry {tables : Tables} {previous : Option String}
    {content : EntryContent}
    (signed : entryMaterial previous content ∈ signedMaterials tables) :
    ∃ row ∈ tables.entries.rows,
      row.previousHmac = previous ∧ row.content = content := by
  rcases List.mem_append.mp signed with entry | checkpoint
  · obtain ⟨row, stored, same⟩ := List.mem_map.mp entry
    obtain ⟨samePrevious, sameContent⟩ := entryMaterial_injective same
    exact ⟨row, stored, samePrevious, sameContent⟩
  · obtain ⟨row, stored, same⟩ := List.mem_map.mp checkpoint
    exact absurd same.symm (entryMaterial_ne_material previous content row)

theorem signed_checkpoint {tables : Tables} {checkpoint : CheckpointRow}
    (signed : checkpoint.material ∈ signedMaterials tables) :
    ∃ row ∈ tables.checkpoints.rows,
      row.checkpointId = checkpoint.checkpointId ∧
        row.tenantId = checkpoint.tenantId ∧
        row.throughSequence = checkpoint.throughSequence ∧
        row.terminalHmac = checkpoint.terminalHmac ∧
        row.createdAt = checkpoint.createdAt := by
  rcases List.mem_append.mp signed with entry | stored
  · obtain ⟨row, _, same⟩ := List.mem_map.mp entry
    exact absurd same (entryMaterial_ne_material _ _ checkpoint)
  · obtain ⟨row, member, same⟩ := List.mem_map.mp stored
    exact ⟨row, member, checkpointMaterial_injective same⟩

/-! ## Chains as linked lists -/

/-- The tag of an entry, from the tag before it. -/
def entryTag (key : AuditKey) (previous : Option String)
    (content : EntryContent) : String :=
  key.hmac (entryMaterial previous content)

theorem injectiveTag_entryTag {key : AuditKey}
    (injective : Function.Injective key.hmac) :
    HashChain.InjectiveTag (entryTag key) := by
  intro previous content previous' content' same
  exact entryMaterial_injective (injective same)

theorem links_of_chainValid {key : AuditKey} {previous : Option String}
    {rows : List EntryRow} (valid : ChainValid key previous rows) :
    rows.map (fun row => (row.previousHmac, row.content)) =
      HashChain.links (entryTag key) previous (rows.map EntryRow.content) := by
  induction rows generalizing previous with
  | nil => rfl
  | cons row rows induction =>
      obtain ⟨⟨-, linked, tagged⟩, rest⟩ := valid
      have continued := induction rest
      rw [List.map_cons, List.map_cons, HashChain.links, linked, continued,
        tagged]
      rfl

theorem tag_of_chainValid {key : AuditKey} {previous : Option String}
    {rows : List EntryRow} (valid : ChainValid key previous rows)
    {row : EntryRow} (member : row ∈ rows) :
    row.integrityHmac = key.hmac (entryMaterial row.previousHmac
      row.content) := by
  induction rows generalizing previous with
  | nil => cases member
  | cons first rows induction =>
      obtain ⟨⟨-, linked, tagged⟩, rest⟩ := valid
      rcases List.mem_cons.mp member with rfl | later
      · rw [linked]
        exact tagged
      · exact induction rest later

theorem eq_of_content {tables : Tables} {left right : EntryRow}
    (leftStored : left ∈ tables.entries.rows)
    (rightStored : right ∈ tables.entries.rows)
    (same : left.content = right.content) : left = right := by
  have sameId : left.auditId = right.auditId :=
    congrArg EntryContent.auditId same
  apply tables.entries.eq_of_clash leftStored rightStored
  · simp [EntryRow.clash, sameId]
  · simp [EntryRow.clash, sameId]

/-! ## Stored content on which `verify` reports valid -/

section Tampering

variable {key : AuditKey} (injective : Function.Injective key.hmac)
variable {log : Log} (genuine : LogInvariant key log)
variable {stored : Tables} {tenantId : String}
variable (verified : Verified key stored tenantId)
variable (unforgeable : Unforgeable key log.tables stored)

theorem mem_tenantEntries {tables : Tables} {row : EntryRow} :
    row ∈ tenantEntries tables tenantId ↔
      row ∈ tables.entries.rows ∧ row.tenantId = tenantId := by
  simp [tenantEntries]

theorem mem_tenantCheckpoints {tables : Tables} {row : CheckpointRow} :
    row ∈ tenantCheckpoints tables tenantId ↔
      row ∈ tables.checkpoints.rows ∧ row.tenantId = tenantId := by
  simp [tenantCheckpoints]

theorem tenantEntries_nodup (tables : Tables) :
    ((tenantEntries tables tenantId).map EntryRow.sequence).Nodup := by
  apply orderBy_nodup
  have distinct : (tables.entries.rows.map EntryRow.sequence).Nodup := by
    rw [List.Nodup, List.pairwise_map]
    refine tables.entries.unique.imp fun {left right} noClash same => ?_
    simp [EntryRow.clash, same] at noClash
  exact (List.filter_sublist.map _).nodup distinct

theorem tenantCheckpoints_nodup (tables : Tables) :
    ((tenantCheckpoints tables tenantId).map
      CheckpointRow.throughSequence).Nodup := by
  apply orderBy_nodup
  rw [List.Nodup, List.pairwise_map, List.pairwise_filter]
  refine tables.checkpoints.unique.imp
    fun {left right} noClash leftOwn rightOwn same => ?_
  have leftTenant : left.tenantId = tenantId := of_decide_eq_true leftOwn
  have rightTenant : right.tenantId = tenantId := of_decide_eq_true rightOwn
  simp [CheckpointRow.clash, same, leftTenant, rightTenant] at noClash

include verified in
/-- The checkpoints stand exactly at the entries. -/
theorem verified_sequences :
    (tenantCheckpoints stored tenantId).map CheckpointRow.throughSequence =
      (tenantEntries stored tenantId).map EntryRow.sequence := by
  apply eq_of_perm_sorted _ orderBy_keys_sorted orderBy_keys_sorted
  apply perm_of_subset_of_length (tenantCheckpoints_nodup stored)
  · intro sequence member
    obtain ⟨checkpoint, isStored, rfl⟩ := List.mem_map.mp member
    have found := (verified.checkpoints checkpoint isStored).1
    obtain ⟨row, isEntry, same, -⟩ :=
      (lookup_collected (tenantEntries_nodup stored)).mp found
    exact List.mem_map.mpr ⟨row, isEntry, same⟩
  · simp only [List.length_map]
    exact Nat.le_of_eq verified.count.symm

include verified unforgeable in
/-- A stored entry continues the chain as a genuine entry did. -/
theorem exists_genuine_entry {row : EntryRow}
    (member : row ∈ tenantEntries stored tenantId) :
    ∃ entry ∈ log.tables.entries.rows,
      entry.previousHmac = row.previousHmac ∧ entry.content = row.content := by
  have tagged := tag_of_chainValid verified.chain member
  have isStored := (mem_tenantEntries.mp member).1
  exact signed_entry (unforgeable.entries row isStored _ tagged)

include injective genuine verified unforgeable in
/-- The contents are a prefix of the genuine ones. -/
theorem contents_begin :
    (tenantEntries stored tenantId).map EntryRow.content <+:
      (tenantEntries log.tables tenantId).map EntryRow.content := by
  apply HashChain.prefix_of_genuine_links (injectiveTag_entryTag injective)
  have genuineChain := (verified_of_invariant genuine tenantId).chain
  rw [← links_of_chainValid verified.chain,
    ← links_of_chainValid genuineChain]
  intro link member
  obtain ⟨row, isStored, rfl⟩ := List.mem_map.mp member
  obtain ⟨entry, isGenuine, samePrevious, sameContent⟩ :=
    exists_genuine_entry verified unforgeable isStored
  refine List.mem_map.mpr ⟨entry, ?_, by rw [samePrevious, sameContent]⟩
  refine mem_tenantEntries.mpr ⟨isGenuine, ?_⟩
  have sameTenant : entry.tenantId = row.tenantId :=
    congrArg EntryContent.tenantId sameContent
  exact sameTenant.trans (mem_tenantEntries.mp isStored).2

include genuine verified unforgeable in
/-- A stored checkpoint is a genuine one. -/
theorem checkpoint_genuine {checkpoint : CheckpointRow}
    (member : checkpoint ∈ tenantCheckpoints stored tenantId) :
    checkpoint ∈ tenantCheckpoints log.tables tenantId := by
  have tagged := (verified.checkpoints checkpoint member).2
  have isStored := (mem_tenantCheckpoints.mp member).1
  obtain ⟨row, isGenuine, identifier, tenant, sequence, terminal, created⟩ :=
    signed_checkpoint (unforgeable.checkpoints checkpoint isStored _ tagged)
  obtain ⟨entry, -, made⟩ :=
    exists_entry_of_checkpoint genuine.checkpoints isGenuine
  have genuineTag : row.signature = key.hmac row.material := by
    rw [made]
    rfl
  have sameMaterial : row.material = checkpoint.material := by
    simp [CheckpointRow.material, identifier, tenant, sequence, terminal,
      created]
  have sameSignature : row.signature = checkpoint.signature := by
    rw [genuineTag, tagged, sameMaterial]
  have same : row = checkpoint := CheckpointRow.ext identifier tenant
    sequence terminal sameSignature created
  rw [← same]
  refine mem_tenantCheckpoints.mpr ⟨isGenuine, ?_⟩
  exact tenant.trans (mem_tenantCheckpoints.mp member).2

include injective genuine verified unforgeable in
/-- The checkpoint of a stored entry fixes its sequence number. -/
theorem sequence_eq {row entry : EntryRow}
    (member : row ∈ tenantEntries stored tenantId)
    (isGenuine : entry ∈ log.tables.entries.rows)
    (same : entry.content = row.content) :
    row.sequence = entry.sequence := by
  have hasCheckpoint : row.sequence ∈ (tenantCheckpoints stored tenantId).map
      CheckpointRow.throughSequence := by
    rw [verified_sequences verified]
    exact List.mem_map_of_mem member
  obtain ⟨checkpoint, isStored, through⟩ := List.mem_map.mp hasCheckpoint
  -- The tag the checkpoint names is the tag of the stored entry.
  have found := (verified.checkpoints checkpoint isStored).1
  obtain ⟨other, isEntry, sameSequence, terminal⟩ :=
    (lookup_collected (tenantEntries_nodup stored)).mp found
  have otherIsRow : other = row := List.inj_on_of_nodup_map
    (tenantEntries_nodup stored) isEntry member (sameSequence.trans through)
  -- The checkpoint was made for a genuine entry with this tag.
  obtain ⟨source, sourceStored, made⟩ := exists_entry_of_checkpoint
    genuine.checkpoints (mem_tenantCheckpoints.mp
      (checkpoint_genuine genuine verified unforgeable isStored)).1
  have sourceTag : source.integrityHmac = row.integrityHmac := by
    rw [← otherIsRow, terminal, made]
    rfl
  have sourceMember : source ∈ tenantEntries log.tables source.tenantId :=
    mem_tenantEntries.mpr ⟨sourceStored, rfl⟩
  have sourceSigned := tag_of_chainValid
    (verified_of_invariant genuine source.tenantId).chain sourceMember
  have rowSigned := tag_of_chainValid verified.chain member
  rw [sourceSigned, rowSigned] at sourceTag
  have sourceContent := (entryMaterial_injective (injective sourceTag)).2
  have sourceIsEntry : source = entry :=
    eq_of_content sourceStored isGenuine (sourceContent.trans same.symm)
  rw [← through, made, ← sourceIsEntry]
  rfl

include injective genuine verified unforgeable in
/-- A stored entry is the genuine one with its content. -/
theorem entry_eq {row entry : EntryRow}
    (member : row ∈ tenantEntries stored tenantId)
    (isGenuine : entry ∈ tenantEntries log.tables tenantId)
    (same : row.content = entry.content) : row = entry := by
  have entryStored := (mem_tenantEntries.mp isGenuine).1
  have sequence := sequence_eq injective genuine verified unforgeable member
    entryStored same.symm
  obtain ⟨linked, linkedStored, samePrevious, sameContent⟩ :=
    exists_genuine_entry verified unforgeable member
  have linkedIsEntry : linked = entry :=
    eq_of_content linkedStored entryStored (sameContent.trans same)
  rw [linkedIsEntry] at samePrevious
  have tag : row.integrityHmac = entry.integrityHmac := by
    rw [tag_of_chainValid verified.chain member,
      tag_of_chainValid (verified_of_invariant genuine tenantId).chain
        isGenuine, samePrevious, same]
  exact EntryRow.ext sequence (congrArg EntryContent.auditId same)
    (congrArg EntryContent.tenantId same) (congrArg EntryContent.action same)
    (congrArg EntryContent.actorType same)
    (congrArg EntryContent.actorId same)
    (congrArg EntryContent.resourceType same)
    (congrArg EntryContent.resourceId same)
    (congrArg EntryContent.payloadJson same) samePrevious.symm tag
    (congrArg EntryContent.createdAt same)

include injective genuine verified unforgeable in
theorem entries_begin :
    tenantEntries stored tenantId <+: tenantEntries log.tables tenantId := by
  apply prefix_of_keys_prefix
    (contents_begin injective genuine verified unforgeable)
  intro row member entry isGenuine same
  exact entry_eq injective genuine verified unforgeable member isGenuine same

include injective genuine verified unforgeable in
theorem checkpoints_begin :
    tenantCheckpoints stored tenantId <+:
      tenantCheckpoints log.tables tenantId := by
  have sequences := (entries_begin injective genuine verified
    unforgeable).map EntryRow.sequence
  rw [← verified_sequences verified,
    ← tenantCheckpoints_sequences genuine] at sequences
  apply prefix_of_keys_prefix sequences
  intro row member other isGenuine same
  exact List.inj_on_of_nodup_map (tenantCheckpoints_nodup log.tables)
    (checkpoint_genuine genuine verified unforgeable member) isGenuine same

end Tampering

/-- The log itself is among the contents that need no key. -/
theorem unforgeable_self {key : AuditKey}
    (injective : Function.Injective key.hmac) {log : Log}
    (genuine : LogInvariant key log) :
    Unforgeable key log.tables log.tables := by
  constructor
  · intro row stored material tagged
    have member : row ∈ tenantEntries log.tables row.tenantId :=
      mem_tenantEntries.mpr ⟨stored, rfl⟩
    have signed := tag_of_chainValid
      (verified_of_invariant genuine row.tenantId).chain member
    have same := injective (signed.symm.trans tagged)
    rw [signedMaterials, List.mem_append, List.mem_map]
    exact .inl ⟨row, stored, same⟩
  · intro row stored material tagged
    obtain ⟨entry, -, made⟩ :=
      exists_entry_of_checkpoint genuine.checkpoints stored
    have signed : row.signature = key.hmac row.material := by
      rw [made]
      rfl
    have same := injective (signed.symm.trans tagged)
    rw [signedMaterials, List.mem_append, List.mem_map, List.mem_map]
    exact .inr ⟨row, stored, same⟩

def enrolledRecord : AuditRecord where
  tenantId := "acme"
  action := "device.enrolled"
  actorType := "human"
  actorId := "user-1"
  resourceType := "device"
  resourceId := "device-1"
  payload := ⟨[("platform", .str "macos")], by
    simp [Json.WellFormed, Json.WellFormedMembers]⟩
  now := 0

/-- Every character in unary. -/
def unary (characters : List Char) : List Char :=
  characters.flatMap fun character =>
    List.replicate character.toNat 'x' ++ ['y']

theorem replicate_append_injective {first second : Nat}
    {left right : List Char}
    (same : List.replicate first 'x' ++ 'y' :: left =
      List.replicate second 'x' ++ 'y' :: right) :
    first = second ∧ left = right := by
  induction first generalizing second with
  | zero =>
      cases second with
      | zero => simpa using same
      | succ second => simp [List.replicate_succ] at same
  | succ first induction =>
      cases second with
      | zero => simp [List.replicate_succ] at same
      | succ second =>
          have shorter := induction (by simpa [List.replicate_succ] using same)
          exact ⟨congrArg Nat.succ shorter.1, shorter.2⟩

theorem unary_injective : Function.Injective unary := by
  intro left
  induction left with
  | nil =>
      intro right same
      cases right with
      | nil => rfl
      | cons character right => simp [unary] at same
  | cons character left induction =>
      intro right same
      cases right with
      | nil => simp [unary] at same
      | cons other right =>
          simp only [unary, List.flatMap_cons, List.append_assoc,
            List.cons_append, List.nil_append] at same
          obtain ⟨code, rest⟩ := replicate_append_injective same
          rw [Char.toNat_inj.mp code, induction rest]

/-- HMAC-SHA-256 of the entry below under a key of thirty-two bytes `k`. -/
def enrolledTag : String :=
  "86c5c85ad2d619acdc05f5457b2e7d746ccd75d2802408383a06aae023f48712"

/-- HMAC-SHA-256 of its checkpoint under the same key. -/
def enrolledSignature : String :=
  "e61a331ea79eba99b9be60868d061080bb65a1b1e9ea702fc1437969d68368f0"

/-- A hash that gives one text a chosen tag. -/
def override (hash : String → String) (chosen tag material : String) :
    String :=
  if material = chosen then tag else hash material

def unaryTag (material : String) : String :=
  String.ofList (unary material.toList)

/-- The real tags of the two signed texts; other texts are told apart by their
unary form. -/
def exampleTag : String → String :=
  override
    (override unaryTag
      (checkpointMaterial "checkpoint-1" "acme" 1 enrolledTag (utcText 0))
      enrolledSignature)
    (entryMaterial none (recordContent enrolledRecord "audit-1")) enrolledTag

theorem mem_unary {characters : List Char} {character : Char}
    (member : character ∈ unary characters) :
    character = 'x' ∨ character = 'y' := by
  obtain ⟨source, -, inCode⟩ := List.mem_flatMap.mp member
  rcases List.mem_append.mp inCode with marks | last
  · exact .inl (List.eq_of_mem_replicate marks)
  · exact .inr (List.mem_singleton.mp last)

theorem unaryTag_ne {material text : String} {character : Char}
    (occurs : character ∈ text.toList)
    (other : character ≠ 'x' ∧ character ≠ 'y') : unaryTag material ≠ text := by
  rintro rfl
  rw [unaryTag, String.toList_ofList] at occurs
  rcases mem_unary occurs with isX | isY
  · exact other.1 isX
  · exact other.2 isY

theorem override_injective {hash : String → String} {chosen tag : String}
    (injective : Function.Injective hash)
    (fresh : ∀ material, hash material ≠ tag) :
    Function.Injective (override hash chosen tag) := by
  intro left right same
  unfold override at same
  by_cases isLeft : left = chosen
  · by_cases isRight : right = chosen
    · rw [isLeft, isRight]
    · rw [if_pos isLeft, if_neg isRight] at same
      exact absurd same.symm (fresh right)
  · by_cases isRight : right = chosen
    · rw [if_neg isLeft, if_pos isRight] at same
      exact absurd same (fresh left)
    · rw [if_neg isLeft, if_neg isRight] at same
      exact injective same

theorem exampleTag_injective : Function.Injective exampleTag := by
  have spelt : Function.Injective unaryTag := by
    intro left right same
    exact String.toList_injective (unary_injective (String.ofList_injective same))
  apply override_injective
  · apply override_injective spelt
    intro material
    exact unaryTag_ne (show '6' ∈ enrolledSignature.toList by decide)
      (by decide)
  · intro material
    unfold override
    split
    · decide
    · exact unaryTag_ne (show '8' ∈ enrolledTag.toList by decide) (by decide)

theorem override_ascii {hash : String → String} {chosen tag : String}
    (ascii : ∀ material, isAscii (hash material) = true)
    (tagAscii : isAscii tag = true) (material : String) :
    isAscii (override hash chosen tag material) = true := by
  unfold override
  split
  · exact tagAscii
  · exact ascii material

theorem exampleTag_ascii (material : String) :
    isAscii (exampleTag material) = true := by
  refine override_ascii (override_ascii ?_ (by decide)) (by decide) material
  intro spelt
  rw [isAscii, unaryTag, String.toList_ofList, List.all_eq_true]
  intro character member
  rcases mem_unary member with isX | isY
  · rw [isX]
    decide
  · rw [isY]
    decide

def exampleKey : AuditKey := ⟨exampleTag, exampleTag_ascii⟩

theorem exampleKey_injective : Function.Injective exampleKey.hmac := by
  -- Unfolding the tag on its own would compare texts character by character.
  dsimp only [exampleKey]
  exact exampleTag_injective

def emptyLog : Log := ⟨emptyTables, 0, ["acme"]⟩

theorem initial_emptyLog (key : AuditKey) : (system key).initial emptyLog := by
  constructor <;> rfl

def enrolledEntry : EntryRow :=
  nextEntry exampleKey enrolledRecord "audit-1" emptyLog

def enrolledTables : Tables where
  entries := ⟨[enrolledEntry], List.pairwise_singleton _ _⟩
  checkpoints := ⟨[checkpointRow exampleKey "checkpoint-1" enrolledEntry],
    List.pairwise_singleton _ _⟩

def enrolledEvent : AppendEvent :=
  ⟨enrolledRecord, "audit-1", "checkpoint-1", .ok enrolledEntry⟩

def enrolledLog : Log := ⟨enrolledTables, 1, ["acme"]⟩

theorem enrolledStep :
    (system exampleKey).step emptyLog enrolledEvent enrolledLog := rfl

theorem enrolledRun :
    (system exampleKey).Run emptyLog [enrolledEvent] enrolledLog :=
  .snoc .nil trivial enrolledStep

end Audit

end ControlForge
