import ControlForge.Cloud.Provenance

/-!
# Replays of compiled provenance

An entry of the compiled artifact comes back from the cloud runtime as a
snapshot of its own kind exactly when both runtimes have one canonical text for
it, the shape of the snapshot admits it, and no rule hides it.
-/

namespace ControlForge

namespace Cloud

open Detection (BuiltinDetectionSpec Members Number SigmaRule
  StatefulCorrelationSpec builtinDetections canonicalBuiltin
  canonicalContractDigest canonicalCorrelation canonicalSigmaRule compileRules
  loadRules statefulCorrelations withDigest)

/-! ## Entries -/

/-- What an entry of the artifact is compiled from. -/
inductive Entry where
  | sigma (rule : SigmaRule)
  | builtin (spec : BuiltinDetectionSpec)
  | correlation (spec : StatefulCorrelationSpec)

namespace Entry

def kind : Entry → SnapshotKind
  | .sigma _ => .sigma
  | .builtin _ => .builtin
  | .correlation _ => .correlation

def ruleId : Entry → String
  | .sigma rule => rule.id
  | .builtin spec => spec.ruleId
  | .correlation spec => spec.ruleId

def payload : Entry → Members
  | .sigma rule => canonicalSigmaRule rule
  | .builtin spec => canonicalBuiltin spec
  | .correlation spec => canonicalCorrelation spec

end Entry

/-- The entries of the artifact of some rules. -/
def entries (rules : List SigmaRule) : List Entry :=
  rules.map .sigma ++ builtinDetections.map .builtin ++
    statefulCorrelations.map .correlation

/-- The cloud runtime finds the provenance of an entry and accepts it as a
snapshot of the kind of the entry. -/
def Replayed (sha256 casefold : String → String) (reprint : Number → Number)
    (rules : List SigmaRule) (entry : Entry) : Prop :=
  ∃ imported provenance detection,
    importArtifact reprint (compileRules sha256 casefold rules) =
      some imported ∧
    compiledDetectionProvenance imported entry.ruleId = .ok provenance ∧
    provenance.ruleSnapshot = scriptMembers reprint entry.payload ∧
    provenance.ruleDigest = canonicalContractDigest sha256 entry.payload ∧
    parseDetectionSnapshot sha256 (.obj provenance.ruleSnapshot)
      provenance.ruleDigest = .ok detection ∧
    detection.kind = entry.kind

/-- The limits of a snapshot that a rule need not keep. -/
def WithinLimits (rule : SigmaRule) : Prop :=
  Json.unitLength rule.id ≤ 128 ∧ rule.ruleVersion ≤ maxSafeInteger ∧
    Json.unitLength rule.title ≤ 256 ∧ rule.tags.length ≤ 128 ∧
    ∀ tag ∈ rule.tags, 0 < Json.unitLength tag ∧ Json.unitLength tag ≤ 128

/-- The numbers of the rules are finite, the numbers of the entry are printed
as they are written and its keys are in one order, and the entry is within the
limits of a snapshot, or no rule has its identifier. -/
def Survives (reprint : Number → Number) (rules : List SigmaRule)
    (entry : Entry) : Prop :=
  (∀ rule ∈ rules, rule.detection.json.isStandard = true) ∧
    Json.Portable (reprinted reprint) (.obj entry.payload) ∧
    match entry with
    | .sigma rule => WithinLimits rule
    | .builtin spec => ∀ rule ∈ rules, rule.id ≠ spec.ruleId
    | .correlation spec => ∀ rule ∈ rules, rule.id ≠ spec.ruleId

/-! ## Shapes -/

/-- The kind of snapshot that a shape is of. -/
def shape (value : Members) : Option SnapshotKind :=
  if parseSigmaSnapshot value = true then some .sigma
  else if parseBuiltinSnapshot value = true then some .builtin
  else if parseCorrelationSnapshot value = true then some .correlation
  else none

section Shapes

variable {rule : SigmaRule}

theorem unitLength_pos {text : String} (notEmpty : text ≠ "") :
    0 < Json.unitLength text := by
  unfold Json.unitLength
  apply List.length_pos_iff.mpr
  intro empty
  exact notEmpty (Json.units_injective empty)

theorem validSeverity_value (level : Severity) :
    validSeverity (some (.str level.value)) = true := by
  cases level <;> decide

theorem validTags_iff {tags : List String} :
    validTags (some (Detection.textArray tags)) = true ↔
      tags.length ≤ 128 ∧
        ∀ tag ∈ tags, 0 < Json.unitLength tag ∧ Json.unitLength tag ≤ 128 := by
  simp [validTags, Detection.textArray, boundedString]

theorem parseSigma_iff :
    parseSigmaSnapshot (canonicalSigmaRule rule) = true ↔
      WithinLimits rule := by
  have keys : hasOnlyKeys (canonicalSigmaRule rule)
      ["id", "rule_version", "title", "description", "status", "logsource",
        "detection", "level", "tags"] = true := rfl
  have id : (canonicalSigmaRule rule).lookup "id" = some (.str rule.id) := rfl
  have version : (canonicalSigmaRule rule).lookup "rule_version" =
      some (.int rule.ruleVersion) := rfl
  have title : (canonicalSigmaRule rule).lookup "title" =
      some (.str rule.title) := rfl
  have level : (canonicalSigmaRule rule).lookup "level" =
      some (.str rule.level.value) := rfl
  have tags : (canonicalSigmaRule rule).lookup "tags" =
      some (Detection.textArray rule.tags) := rfl
  have detection : (canonicalSigmaRule rule).lookup "detection" =
      some rule.detection.json := rfl
  have idLength := unitLength_pos rule.idNotEmpty
  have titleLength := unitLength_pos rule.titleNotEmpty
  unfold parseSigmaSnapshot WithinLimits
  rw [keys, id, version, title, level, tags, detection, validSeverity_value]
  simp only [Bool.and_eq_true, validTags_iff, boundedString, validVersion,
    decide_eq_true_eq, Dict.json, isRecord, and_true, true_and]
  constructor
  · rintro ⟨⟨⟨⟨-, idWithin⟩, -, versionWithin⟩, -, titleWithin⟩, tagsWithin⟩
    exact ⟨idWithin, versionWithin, titleWithin, tagsWithin⟩
  · rintro ⟨idWithin, versionWithin, titleWithin, tagsWithin⟩
    exact ⟨⟨⟨⟨idLength, idWithin⟩, rule.versionPositive, versionWithin⟩,
      titleLength, titleWithin⟩, tagsWithin⟩

/-- A rule is of no other shape. -/
theorem shape_sigma :
    shape (canonicalSigmaRule rule) = some .sigma ↔ WithinLimits rule := by
  have notBuiltin :
      parseBuiltinSnapshot (canonicalSigmaRule rule) = false := rfl
  have notCorrelation :
      parseCorrelationSnapshot (canonicalSigmaRule rule) = false := rfl
  unfold shape
  rw [notBuiltin, notCorrelation, ← parseSigma_iff]
  by_cases parsed : parseSigmaSnapshot (canonicalSigmaRule rule) = true
  · simp [parsed]
  · simp [parsed]

theorem boundedString_ofList {characters : List Char} {maximum : Nat}
    (isShort : 0 < characters.length ∧ 2 * characters.length ≤ maximum) :
    boundedString maximum (some (.str (String.ofList characters))) = true := by
  obtain ⟨isNonempty, short⟩ := isShort
  have notEmpty : String.ofList characters ≠ "" := by
    intro isEmpty
    exact List.ne_nil_of_length_pos isNonempty (String.ofList_injective isEmpty)
  have units : Json.unitLength (String.ofList characters) ≤
      2 * characters.length := by
    rw [Json.unitLength, Json.units, String.toList_ofList]
    clear isNonempty short notEmpty
    induction characters with
    | nil => simp
    | cons character characters induction =>
        have two : (Json.unitsOf character).length ≤ 2 := by
          unfold Json.unitsOf
          split <;> simp
        rw [List.flatMap_cons, List.length_append, List.length_cons]
        omega
  rw [boundedString, decide_eq_true_eq]
  exact ⟨unitLength_pos notEmpty, by omega⟩

def BoundedTags (tags : List String) : Prop :=
  ∀ tag ∈ tags, boundedString 128 (some (.str tag)) = true

theorem BoundedTags.nil : BoundedTags [] :=
  List.forall_mem_nil _

theorem BoundedTags.cons {characters : List Char} {tags : List String}
    (isShort : 0 < characters.length ∧ 2 * characters.length ≤ 128)
    (bounded : BoundedTags tags) :
    BoundedTags (String.ofList characters :: tags) := by
  exact List.forall_mem_cons.mpr ⟨boundedString_ofList isShort, bounded⟩

theorem BoundedTags.valid {tags : List String} (bounded : BoundedTags tags)
    (few : tags.length ≤ 128) :
    validTags (some (Detection.textArray tags)) = true := by
  rw [validTags_iff]
  refine ⟨few, fun tag member => ?_⟩
  simpa [boundedString] using bounded tag member

/-- What a correlation must keep to have the shape of one. -/
theorem shape_correlation {spec : StatefulCorrelationSpec}
    (id : boundedString 128 (some (.str spec.ruleId)) = true)
    (version : validVersion (some (.int spec.ruleVersion)) = true)
    (title : boundedString 256 (some (.str spec.title)) = true)
    (tags : BoundedTags spec.tags) (few : spec.tags.length ≤ 128)
    (eventType : boundedString 128 (some (.str spec.eventType)) = true)
    (numbers : ∀ number ∈ [Detection.orNull (fun count : Nat => .int count)
        spec.windowMinutes, Detection.orNull (fun count : Nat => .int count)
        spec.eventThreshold, Detection.orNull (fun count : Nat => .int count)
        spec.distinctThreshold, Detection.orNull .int spec.byteThreshold,
        Detection.orNull .float spec.maximumSpeedKph],
      nullablePositiveNumber (some number) = true) :
    shape (canonicalCorrelation spec) = some .correlation := by
  have notSigma : parseSigmaSnapshot (canonicalCorrelation spec) = false := rfl
  have notBuiltin :
      parseBuiltinSnapshot (canonicalCorrelation spec) = false := rfl
  have keys : hasOnlyKeys (canonicalCorrelation spec)
      ["rule_id", "rule_version", "title", "severity", "tags", "event_type",
        "window_minutes", "event_threshold", "distinct_threshold",
        "byte_threshold", "maximum_speed_kph"] = true := by
    simp [hasOnlyKeys, canonicalCorrelation]
  have severity : validSeverity ((canonicalCorrelation spec).lookup
      "severity") = true := validSeverity_value spec.severity
  simp only [List.forall_mem_cons] at numbers
  obtain ⟨window, events, distinct, bytes, speed, -⟩ := numbers
  have isCorrelation :
      parseCorrelationSnapshot (canonicalCorrelation spec) = true := by
    unfold parseCorrelationSnapshot
    rw [keys, severity]
    simp only [Bool.and_true, Bool.true_and, Bool.and_eq_true]
    exact ⟨⟨⟨⟨⟨⟨⟨⟨⟨id, version⟩, title⟩, tags.valid few⟩, eventType⟩, window⟩,
      events⟩, distinct⟩, bytes⟩, speed⟩
  rw [shape, notSigma, notBuiltin, isCorrelation]
  rfl

theorem shape_correlations : ∀ spec ∈ statefulCorrelations,
    shape (canonicalCorrelation spec) = some .correlation := by
  simp only [statefulCorrelations, List.forall_mem_cons]
  refine ⟨?_, ?_, ?_, ?_, List.forall_mem_nil _⟩
  · exact shape_correlation (boundedString_ofList (by decide)) rfl
      (boundedString_ofList (by decide))
      (.cons (by decide) (.cons (by decide) (.cons (by decide) .nil)))
      (by decide) (boundedString_ofList (by decide)) (by decide)
  · exact shape_correlation (boundedString_ofList (by decide)) rfl
      (boundedString_ofList (by decide))
      (.cons (by decide) (.cons (by decide) (.cons (by decide) .nil)))
      (by decide) (boundedString_ofList (by decide)) (by decide)
  · exact shape_correlation (boundedString_ofList (by decide)) rfl
      (boundedString_ofList (by decide))
      (.cons (by decide) (.cons (by decide) (.cons (by decide)
        (.cons (by decide) .nil))))
      (by decide) (boundedString_ofList (by decide)) (by decide)
  · exact shape_correlation (boundedString_ofList (by decide)) rfl
      (boundedString_ofList (by decide))
      (.cons (by decide) (.cons (by decide) (.cons (by decide) .nil)))
      (by decide) (boundedString_ofList (by decide)) (by decide)

theorem validOutcome_of {outcome : Detection.BuiltinOutcome}
    (value : boundedString 128 (some (.str outcome.value)) = true)
    (title : boundedString 256 (some (.str outcome.title)) = true) :
    validOutcome (Detection.canonicalOutcome outcome) = true := by
  have keys : hasOnlyKeys [("value", .str outcome.value),
      ("title", .str outcome.title), ("severity", .str outcome.severity.value)]
      ["value", "title", "severity"] = true := by
    simp [hasOnlyKeys]
  unfold Detection.canonicalOutcome validOutcome
  simp only [keys, Bool.true_and, Bool.and_eq_true]
  exact ⟨⟨value, title⟩, validSeverity_value outcome.severity⟩

/-- What a built-in detection must keep to have the shape of one. -/
theorem shape_builtin {spec : BuiltinDetectionSpec}
    (id : boundedString 128 (some (.str spec.ruleId)) = true)
    (version : validVersion (some (.int spec.ruleVersion)) = true)
    (eventType : boundedString 128 (some (.str spec.eventType)) = true)
    (name : boundedString 128 (some (.str spec.attributeName)) = true)
    (tags : BoundedTags spec.tags) (few : spec.tags.length ≤ 128)
    (counted : 1 ≤ spec.outcomes.length ∧ spec.outcomes.length ≤ 32)
    (outcomes : ∀ outcome ∈ spec.outcomes,
      validOutcome (Detection.canonicalOutcome outcome) = true) :
    shape (canonicalBuiltin spec) = some .builtin := by
  have notSigma : parseSigmaSnapshot (canonicalBuiltin spec) = false := rfl
  have keys : hasOnlyKeys (canonicalBuiltin spec)
      ["rule_id", "rule_version", "event_type", "attribute", "outcomes",
        "tags"] = true := by
    simp [hasOnlyKeys, canonicalBuiltin]
  have areValid : validOutcomes ((canonicalBuiltin spec).lookup "outcomes") =
      true := by
    change validOutcomes (some (.arr (spec.outcomes.map
      Detection.canonicalOutcome))) = true
    simp only [validOutcomes, List.length_map, counted.1, counted.2,
      decide_true, Bool.true_and, List.all_map, List.all_eq_true]
    exact outcomes
  have isBuiltin : parseBuiltinSnapshot (canonicalBuiltin spec) = true := by
    unfold parseBuiltinSnapshot
    rw [keys, areValid]
    simp only [Bool.and_true, Bool.true_and, Bool.and_eq_true]
    exact ⟨⟨⟨⟨id, version⟩, eventType⟩, name⟩, tags.valid few⟩
  rw [shape, notSigma, isBuiltin]
  rfl

theorem shape_builtins : ∀ spec ∈ builtinDetections,
    shape (canonicalBuiltin spec) = some .builtin := by
  simp only [builtinDetections, List.forall_mem_cons]
  refine ⟨?_, List.forall_mem_nil _⟩
  refine shape_builtin (boundedString_ofList (by decide)) rfl
    (boundedString_ofList (by decide)) (boundedString_ofList (by decide))
    (.cons (by decide) (.cons (by decide) (.cons (by decide) .nil)))
    (by decide) (by decide) ?_
  simp only [List.forall_mem_cons]
  refine ⟨?_, ?_, List.forall_mem_nil _⟩
  · exact validOutcome_of (boundedString_ofList (by decide))
      (boundedString_ofList (by decide))
  · exact validOutcome_of (boundedString_ofList (by decide))
      (boundedString_ofList (by decide))

end Shapes

/-! ## Accepted snapshots -/

section Snapshots

variable {sha256 casefold repr : String → String} {reprint : Number → Number}
  {rules : List SigmaRule} {entry : Entry}

/-- A snapshot is accepted by its digest and its shape. -/
theorem parse_iff {value : Members} {digest : String} {kind : SnapshotKind} :
    (∃ detection, parseDetectionSnapshot sha256 (.obj value) digest =
        .ok detection ∧ detection.kind = kind) ↔
      isDigest digest = true ∧ (Json.obj value).isStandard = true ∧
        "sha256:" ++ sha256 (canonicalize (.obj value)) = digest ∧
        shape value = some kind := by
  unfold parseDetectionSnapshot canonicalJson shape
  by_cases wellFormed : isDigest digest = true
  · by_cases standard : (Json.obj value).isStandard = true
    · by_cases same :
          "sha256:" ++ sha256 (canonicalize (.obj value)) = digest
      · simp only [wellFormed, standard, same, if_true, true_and, bind,
          Except.bind, ne_eq, not_true_eq_false, if_false, pure, Except.pure]
        by_cases isSigma : parseSigmaSnapshot value = true
        · simp [isSigma]
        by_cases isBuiltin : parseBuiltinSnapshot value = true
        · simp [isSigma, isBuiltin]
        by_cases isCorrelation : parseCorrelationSnapshot value = true
        · simp [isSigma, isBuiltin, isCorrelation]
        · simp [isSigma, isBuiltin, isCorrelation, throw, throwThe,
            MonadExceptOf.throw]
      · simp [wellFormed, standard, same, bind, Except.bind, throw, throwThe,
          MonadExceptOf.throw]
    · simp [wellFormed, standard, bind, Except.bind]
  · simp [wellFormed]

/-- The shape of a digest `hexdigest` gives. -/
theorem isDigest_contract (hex : ∀ text, isHexDigest (sha256 text).toList = true)
    (payload : Members) :
    isDigest (canonicalContractDigest sha256 payload) = true := by
  unfold isDigest canonicalContractDigest
  have seven : "sha256:".toList.length = 7 := rfl
  rw [String.toList_append, List.take_left' seven, List.drop_left' seven,
    hex]
  simp

/-- The digest of an entry is that of its snapshot when the entry is
portable. -/
theorem digest_iff {payload : Members}
    (wellFormed : (Json.obj payload).WellFormed)
    (collisionFree :
      sha256 (Json.dumps false (Json.sortKeys (.obj payload))) =
          sha256 (canonicalize (.obj (scriptMembers reprint payload))) →
        Json.dumps false (Json.sortKeys (.obj payload)) =
          canonicalize (.obj (scriptMembers reprint payload))) :
    "sha256:" ++ sha256 (canonicalize (.obj (scriptMembers reprint payload))) =
        canonicalContractDigest sha256 payload ↔
      Json.Portable (reprinted reprint) (.obj payload) := by
  rw [← Json.canonical_eq_iff (renumbers_reprinted reprint) wellFormed]
  unfold canonicalContractDigest
  rw [String.append_right_inj]
  constructor
  · intro same
    exact collisionFree same.symm
  · intro same
    rw [same]
    rfl

/-! ## The import -/

theorem standard_withDigest (payload : Members) :
    (Json.obj (withDigest sha256 payload)).isStandard =
      (Json.obj payload).isStandard := by
  unfold withDigest Json.isStandard
  rw [Json.isStandardMembers_eq_all, Json.isStandardMembers_eq_all,
    List.all_append]
  simp [Json.isStandard]

theorem standard_texts (texts : List String) :
    (Detection.textArray texts).isStandard = true := by
  unfold Detection.textArray Json.isStandard
  rw [Json.isStandardItems_eq_all]
  simp [Json.isStandard]

theorem standard_sigma (rule : SigmaRule) :
    (Json.obj (canonicalSigmaRule rule)).isStandard =
      rule.detection.json.isStandard := by
  have logsource : rule.logsource.json.isStandard = true := by
    unfold Dict.json Json.isStandard
    rw [Json.isStandardMembers_eq_all, List.all_eq_true]
    intro member isMember
    obtain ⟨text, isText⟩ := rule.logsourceTexts member isMember
    rw [isText]
    rfl
  simp [canonicalSigmaRule, Json.isStandard, Json.isStandardMembers, logsource,
    standard_texts]

theorem standard_builtin (spec : BuiltinDetectionSpec) :
    (Json.obj (canonicalBuiltin spec)).isStandard = true := by
  have outcomes : Json.isStandardItems (spec.outcomes.map
      Detection.canonicalOutcome) = true := by
    rw [Json.isStandardItems_eq_all, List.all_map, List.all_eq_true]
    intro outcome _
    simp [Detection.canonicalOutcome, Json.isStandard, Json.isStandardMembers]
  simp [canonicalBuiltin, Json.isStandard, Json.isStandardMembers,
    standard_texts, outcomes]

theorem standard_orNull {Value : Type} {json : Value → Json}
    (standard : ∀ value, (json value).isStandard = true) (value : Option Value) :
    (Detection.orNull json value).isStandard = true := by
  cases value with
  | none => rfl
  | some value => exact standard value

theorem standard_correlation : ∀ spec ∈ statefulCorrelations,
    (Json.obj (canonicalCorrelation spec)).isStandard = true := by
  have speeds : ∀ spec ∈ statefulCorrelations,
      (Detection.orNull .float spec.maximumSpeedKph).isStandard = true := by
    simp only [statefulCorrelations, List.forall_mem_cons]
    exact ⟨rfl, rfl, rfl, rfl, List.forall_mem_nil _⟩
  intro spec member
  have window := @standard_orNull Nat (fun count => .int count) (fun _ => rfl)
  have bytes := @standard_orNull Int .int fun _ => rfl
  simp [canonicalCorrelation, Json.isStandard, Json.isStandardMembers,
    standard_texts, speeds spec member, window, bytes]

theorem standard_items {Source : Type} {sources : List Source}
    {payload : Source → Members} :
    (Json.arr ((sources.map fun source =>
        withDigest sha256 (payload source)).map .obj)).isStandard = true ↔
      ∀ source ∈ sources, (Json.obj (payload source)).isStandard = true := by
  have items : (Json.arr ((sources.map fun source =>
      withDigest sha256 (payload source)).map .obj)).isStandard =
      ((sources.map fun source =>
        withDigest sha256 (payload source)).map Json.obj).all
          Json.isStandard := Json.isStandardItems_eq_all _
  rw [items, List.all_eq_true]
  simp only [List.map_map, List.forall_mem_map, Function.comp_apply,
    standard_withDigest]

/-- The artifact is a text of JSON when the numbers of the rules are
finite. -/
theorem standard_artifact :
    (compileRules sha256 casefold rules).json.isStandard = true ↔
      ∀ rule ∈ rules, rule.detection.json.isStandard = true := by
  have builtins := (@standard_items sha256 _ builtinDetections
    canonicalBuiltin).mpr fun spec _ => standard_builtin spec
  have correlations := (@standard_items sha256 _ statefulCorrelations
    canonicalCorrelation).mpr standard_correlation
  have compiled := @standard_items sha256 _
    (orderBy (Detection.compileKey casefold) rules) canonicalSigmaRule
  simp only [mem_orderBy, standard_sigma] at compiled
  unfold Detection.Artifact.json
  rw [Json.isStandard]
  simp only [Json.isStandardMembers, Bool.and_eq_true]
  constructor
  · rintro ⟨-, standard, -⟩
    exact compiled.mp standard
  · intro standard
    exact ⟨rfl, compiled.mpr standard, builtins, correlations, trivial⟩

/-! ## The provenance of an entry -/

theorem lookup_script (members : Members) (key : String) :
    (scriptMembers reprint members).lookup key =
      (members.lookup key).map (scriptValue reprint) := by
  unfold scriptMembers
  rw [Json.renumberMembers_eq_map]
  induction members with
  | nil => rfl
  | cons member members induction =>
      obtain ⟨other, value⟩ := member
      rw [List.map_cons, List.lookup_cons, List.lookup_cons, induction]
      cases key == other with
      | false => rfl
      | true => rfl

theorem lookup_withDigest {payload : Members} {key : String} {value : Json}
    (found : payload.lookup key = some value) :
    (withDigest sha256 payload).lookup key = some value := by
  unfold withDigest
  rw [List.lookup_append, found]
  rfl

theorem lookup_ruleDigest {payload : Members}
    (noDigest : payload.lookup "rule_digest" = none) :
    (withDigest sha256 payload).lookup "rule_digest" =
      some (.str (canonicalContractDigest sha256 payload)) := by
  unfold withDigest
  rw [List.lookup_append, noDigest]
  simp

/-- The snapshot of an entry is what it was compiled from, as it is read. -/
theorem snapshot_entry {payload : Members}
    (noDigest : payload.lookup "rule_digest" = none) :
    snapshotOf (scriptMembers reprint (withDigest sha256 payload)) =
      scriptMembers reprint payload := by
  unfold snapshotOf scriptMembers withDigest
  rw [Json.renumberMembers_eq_map, Json.renumberMembers_eq_map,
    List.map_append, List.filter_append]
  have last : ([("rule_digest",
      Json.str (canonicalContractDigest sha256 payload))].map
        (fun member : String × Json =>
          (member.1, Json.renumber (reprinted reprint) member.2))).filter
      (fun member => member.1 ≠ "rule_digest") = [] := by
    simp
  rw [last, List.append_nil]
  apply List.filter_eq_self.mpr
  intro member isMember
  obtain ⟨original, isOriginal, rfl⟩ := List.mem_map.mp isMember
  have different := List.lookup_eq_none_iff.mp noDigest original isOriginal
  rw [decide_eq_true_eq]
  intro same
  have sameKey : original.1 = "rule_digest" := same
  rw [sameKey, bne_self_eq_false] at different
  cases different

/-- The entry that is read for a contract. -/
abbrev imported (sha256 : String → String) (reprint : Number → Number)
    (payload : Members) : Members :=
  scriptMembers reprint (withDigest sha256 payload)

theorem isNamed_imported {payload : Members} {key text ruleId : String}
    (found : payload.lookup key = some (.str text)) :
    isNamed key ruleId (imported sha256 reprint payload) =
      decide (text = ruleId) := by
  unfold isNamed imported
  rw [lookup_script, lookup_withDigest found]
  rfl

theorem find_imported {Source : Type} {sources : List Source}
    {payload : Source → Members} {key ruleId : String}
    {name : Source → String}
    (named : ∀ source, (payload source).lookup key =
      some (.str (name source))) :
    (sources.map fun source =>
        imported sha256 reprint (payload source)).find?
      (isNamed key ruleId) =
    (sources.find? fun source => name source = ruleId).map fun source =>
      imported sha256 reprint (payload source) := by
  rw [List.find?_map]
  congr 2
  funext source
  exact isNamed_imported (named source)

/-- The provenance of a contract. -/
def provenanceOf (sha256 : String → String) (reprint : Number → Number)
    (payload : Members) (version : Int) : Provenance where
  ruleVersion := scriptValue reprint (.int version)
  ruleDigest := canonicalContractDigest sha256 payload
  ruleSnapshot := scriptMembers reprint payload

theorem provenance_found {artifact : Detection.Artifact} {ruleId : String}
    {payload : Members} {version : Int}
    (candidate : (artifact.rules.find? (isNamed "id" ruleId)).or
      ((artifact.builtins.find? (isNamed "rule_id" ruleId)).or
        (artifact.correlations.find? (isNamed "rule_id" ruleId))) =
      some (imported sha256 reprint payload))
    (noDigest : payload.lookup "rule_digest" = none)
    (versioned : payload.lookup "rule_version" = some (.int version)) :
    compiledDetectionProvenance artifact ruleId =
      .ok (provenanceOf sha256 reprint payload version) := by
  have number : (scriptValue reprint (.int version)).isNumber = true :=
    renumbers_reprinted reprint (.int version) rfl
  unfold compiledDetectionProvenance
  simp only [candidate]
  unfold imported
  rw [lookup_script, lookup_script, lookup_withDigest versioned,
    lookup_ruleDigest noDigest, snapshot_entry noDigest]
  simp only [Option.map_some]
  exact if_pos number

/-- The artifact that is imported. -/
def importedArtifact (sha256 casefold : String → String)
    (reprint : Number → Number) (rules : List SigmaRule) :
    Detection.Artifact where
  contractVersion := "1.0"
  rules := (orderBy (Detection.compileKey casefold) rules).map fun rule =>
    imported sha256 reprint (canonicalSigmaRule rule)
  builtins := builtinDetections.map fun spec =>
    imported sha256 reprint (canonicalBuiltin spec)
  correlations := statefulCorrelations.map fun spec =>
    imported sha256 reprint (canonicalCorrelation spec)

theorem import_eq (standard : ∀ rule ∈ rules,
      rule.detection.json.isStandard = true) :
    importArtifact reprint (compileRules sha256 casefold rules) =
      some (importedArtifact sha256 casefold reprint rules) := by
  unfold importArtifact
  rw [if_pos (standard_artifact.mpr standard)]
  unfold importedArtifact compileRules
  simp only [List.map_map]
  rfl

theorem import_none (notStandard : ¬∀ rule ∈ rules,
      rule.detection.json.isStandard = true) :
    importArtifact reprint (compileRules sha256 casefold rules) = none := by
  unfold importArtifact
  rw [if_neg fun standard => notStandard (standard_artifact.mp standard)]

/-- The rule with an identifier. -/
theorem find_rule {ruleId : String} :
    (importedArtifact sha256 casefold reprint rules).rules.find?
        (isNamed "id" ruleId) =
      ((orderBy (Detection.compileKey casefold) rules).find? fun rule =>
        rule.id = ruleId).map fun rule =>
          imported sha256 reprint (canonicalSigmaRule rule) :=
  find_imported fun _ => rfl

theorem find_builtin {ruleId : String} :
    (importedArtifact sha256 casefold reprint rules).builtins.find?
        (isNamed "rule_id" ruleId) =
      (builtinDetections.find? fun spec => spec.ruleId = ruleId).map fun spec =>
        imported sha256 reprint (canonicalBuiltin spec) :=
  find_imported fun _ => rfl

theorem find_correlation {ruleId : String} :
    (importedArtifact sha256 casefold reprint rules).correlations.find?
        (isNamed "rule_id" ruleId) =
      (statefulCorrelations.find? fun spec => spec.ruleId = ruleId).map
        fun spec => imported sha256 reprint (canonicalCorrelation spec) :=
  find_imported fun _ => rfl

/-! ## Entries that are accepted -/

/-- The canonical texts of an entry have no collision. -/
def CollisionFree (sha256 : String → String) (reprint : Number → Number)
    (payload : Members) : Prop :=
  sha256 (Json.dumps false (Json.sortKeys (.obj payload))) =
      sha256 (canonicalize (.obj (scriptMembers reprint payload))) →
    Json.dumps false (Json.sortKeys (.obj payload)) =
      canonicalize (.obj (scriptMembers reprint payload))

theorem accepted_iff (hex : ∀ text, isHexDigest (sha256 text).toList = true)
    {payload : Members} {kind : SnapshotKind}
    (collisionFree : CollisionFree sha256 reprint payload)
    (wellFormed : (Json.obj payload).WellFormed)
    (standard : (Json.obj payload).isStandard = true) :
    (∃ detection, parseDetectionSnapshot sha256
        (.obj (scriptMembers reprint payload))
        (canonicalContractDigest sha256 payload) = .ok detection ∧
      detection.kind = kind) ↔
    Json.Portable (reprinted reprint) (.obj payload) ∧
      shape payload = some kind := by
  have read : (Json.obj (scriptMembers reprint payload)).isStandard = true :=
    Json.isStandard_renumber (isStandard_reprinted reprint) (.obj payload)
      standard
  rw [parse_iff, digest_iff wellFormed collisionFree]
  simp only [isDigest_contract hex payload, read, true_and]
  constructor
  · rintro ⟨portable, shaped⟩
    have same : scriptMembers reprint payload = payload :=
      Json.renumberMembers_of_portable payload portable.2
    rw [same] at shaped
    exact ⟨portable, shaped⟩
  · rintro ⟨portable, shaped⟩
    have same : scriptMembers reprint payload = payload :=
      Json.renumberMembers_of_portable payload portable.2
    rw [same]
    exact ⟨portable, shaped⟩

theorem wellFormed_texts (texts : List String) :
    (Detection.textArray texts).WellFormed := by
  simp [Detection.textArray, Json.WellFormed]

theorem wellFormed_sigma (rule : SigmaRule) :
    (Json.obj (canonicalSigmaRule rule)).WellFormed := by
  have logsource := rule.logsource.wellFormed
  have detection := rule.detection.wellFormed
  refine ⟨by simp [canonicalSigmaRule], ?_⟩
  simp only [canonicalSigmaRule, Json.WellFormedMembers]
  exact ⟨trivial, trivial, trivial, trivial, trivial, logsource, detection,
    trivial, wellFormed_texts _, trivial⟩

theorem wellFormed_builtin (spec : BuiltinDetectionSpec) :
    (Json.obj (canonicalBuiltin spec)).WellFormed := by
  refine ⟨by simp [canonicalBuiltin], ?_⟩
  simp only [canonicalBuiltin, Json.WellFormedMembers]
  refine ⟨trivial, trivial, trivial, trivial, ?_, wellFormed_texts _, trivial⟩
  simp only [Json.WellFormed]
  rw [Json.wellFormedItems_iff]
  intro item isItem
  obtain ⟨outcome, -, rfl⟩ := List.mem_map.mp isItem
  simp [Detection.canonicalOutcome, Json.WellFormed, Json.WellFormedMembers]

theorem wellFormed_orNull {Value : Type} {json : Value → Json}
    (formed : ∀ value, (json value).WellFormed) (value : Option Value) :
    (Detection.orNull json value).WellFormed := by
  cases value with
  | none => trivial
  | some value => exact formed value

theorem wellFormed_correlation (spec : StatefulCorrelationSpec) :
    (Json.obj (canonicalCorrelation spec)).WellFormed := by
  refine ⟨by simp [canonicalCorrelation], ?_⟩
  simp only [canonicalCorrelation, Json.WellFormedMembers]
  refine ⟨trivial, trivial, trivial, trivial, wellFormed_texts _, trivial,
    ?_, ?_, ?_, ?_, ?_, trivial⟩
  all_goals
    apply wellFormed_orNull
    intro value
    trivial

end Snapshots

/-! ## Replays -/

section Replays

variable {sha256 casefold repr : String → String} {reprint : Number → Number}
  {directory : String} {files : List (String × SigmaRule)}
  {rules : List SigmaRule}

theorem find_own_rule
    (loaded : loadRules casefold repr directory files = .ok rules)
    {rule : SigmaRule} (member : rule ∈ rules) :
    (orderBy (Detection.compileKey casefold) rules).find?
      (fun other => other.id = rule.id) = some rule := by
  have distinct := Detection.loadRules_distinct loaded
  cases found : (orderBy (Detection.compileKey casefold) rules).find?
      (fun other => other.id = rule.id) with
  | none =>
      have absent := List.find?_eq_none.mp found rule (mem_orderBy.mpr member)
      simp at absent
  | some other =>
      have sameId : other.id = rule.id := by
        simpa using List.find?_some found
      have isRule := mem_orderBy.mp (List.mem_of_find?_eq_some found)
      congr 1
      apply List.inj_on_of_nodup_map distinct isRule member
      exact congrArg casefold sameId

theorem find_no_rule {ruleId : String} :
    (orderBy (Detection.compileKey casefold) rules).find?
        (fun rule => rule.id = ruleId) = none ↔
      ∀ rule ∈ rules, rule.id ≠ ruleId := by
  rw [List.find?_eq_none]
  simp only [mem_orderBy, decide_eq_true_eq]

/-- The provenance of a rule is that of its entry. -/
theorem provenance_sigma
    (loaded : loadRules casefold repr directory files = .ok rules)
    {rule : SigmaRule} (member : rule ∈ rules) :
    compiledDetectionProvenance (importedArtifact sha256 casefold reprint rules)
        rule.id =
      .ok (provenanceOf sha256 reprint (canonicalSigmaRule rule)
        rule.ruleVersion) := by
  apply provenance_found
  · rw [find_rule, find_own_rule loaded member]
    rfl
  · rfl
  · rfl

theorem find_own {Spec : Type} {specs : List Spec} {ruleId : Spec → String}
    (distinct : (specs.map ruleId).Nodup) {spec : Spec} (member : spec ∈ specs) :
    specs.find? (fun other => ruleId other = ruleId spec) = some spec := by
  cases found : specs.find? (fun other => ruleId other = ruleId spec) with
  | none =>
      have absent := List.find?_eq_none.mp found spec member
      simp at absent
  | some other =>
      have sameId : ruleId other = ruleId spec := by
        simpa using List.find?_some found
      rw [List.inj_on_of_nodup_map distinct (List.mem_of_find?_eq_some found)
        member sameId]

theorem provenance_builtin {spec : BuiltinDetectionSpec}
    (member : spec ∈ builtinDetections)
    (unhidden : ∀ rule ∈ rules, rule.id ≠ spec.ruleId) :
    compiledDetectionProvenance (importedArtifact sha256 casefold reprint rules)
        spec.ruleId =
      .ok (provenanceOf sha256 reprint (canonicalBuiltin spec)
        spec.ruleVersion) := by
  have distinct : (builtinDetections.map (·.ruleId)).Nodup := by
    simp [builtinDetections]
  apply provenance_found
  · rw [find_rule, find_no_rule.mpr unhidden, find_builtin,
      find_own distinct member]
    rfl
  · rfl
  · rfl

theorem provenance_correlation {spec : StatefulCorrelationSpec}
    (member : spec ∈ statefulCorrelations)
    (unhidden : ∀ rule ∈ rules, rule.id ≠ spec.ruleId) :
    compiledDetectionProvenance (importedArtifact sha256 casefold reprint rules)
        spec.ruleId =
      .ok (provenanceOf sha256 reprint (canonicalCorrelation spec)
        spec.ruleVersion) := by
  have distinct : (statefulCorrelations.map (·.ruleId)).Nodup := by
    simp [statefulCorrelations, Detection.bulkAccessSpec,
      Detection.impossibleTravelSpec, Detection.credentialStuffingSpec,
      Detection.sessionReplaySpec]
  have noBuiltin : ∀ spec ∈ statefulCorrelations,
      builtinDetections.find? (fun other => other.ruleId = spec.ruleId) =
        none := by
    simp [statefulCorrelations, builtinDetections, Detection.bulkAccessSpec,
      Detection.impossibleTravelSpec, Detection.credentialStuffingSpec,
      Detection.sessionReplaySpec]
  apply provenance_found
  · rw [find_rule, find_no_rule.mpr unhidden, find_builtin,
      noBuiltin spec member, find_correlation, find_own distinct member]
    rfl
  · rfl
  · rfl

/-- A rule hides what has its identifier. -/
theorem provenance_hidden
    (loaded : loadRules casefold repr directory files = .ok rules)
    {ruleId : String} {payload : Members} {provenance : Provenance}
    (noId : payload.lookup "id" = none)
    (found : compiledDetectionProvenance
      (importedArtifact sha256 casefold reprint rules) ruleId = .ok provenance)
    (isSnapshot : provenance.ruleSnapshot = scriptMembers reprint payload) :
    ∀ rule ∈ rules, rule.id ≠ ruleId := by
  rintro rule member rfl
  cases (provenance_sigma loaded member).symm.trans found
  have ids := congrArg (List.lookup "id") isSnapshot
  simp only [provenanceOf] at ids
  rw [lookup_script, lookup_script, noId] at ids
  cases ids

/-- With its own provenance an entry is replayed when it is accepted. -/
theorem replayed_of_accepted {entry : Entry} {version : Int}
    (standard : ∀ rule ∈ rules, rule.detection.json.isStandard = true)
    (found : compiledDetectionProvenance
      (importedArtifact sha256 casefold reprint rules) entry.ruleId =
        .ok (provenanceOf sha256 reprint entry.payload version))
    (accepted : ∃ detection, parseDetectionSnapshot sha256
        (.obj (scriptMembers reprint entry.payload))
        (canonicalContractDigest sha256 entry.payload) = .ok detection ∧
      detection.kind = entry.kind) :
    Replayed sha256 casefold reprint rules entry := by
  obtain ⟨detection, parsed, isKind⟩ := accepted
  exact ⟨_, _, detection, import_eq standard, found, rfl, rfl, parsed, isKind⟩

/-- What a replay shows of the artifact and of the entry. -/
theorem accepted_of_replayed {entry : Entry}
    (replayed : Replayed sha256 casefold reprint rules entry) :
    (∀ rule ∈ rules, rule.detection.json.isStandard = true) ∧
      (∃ provenance, compiledDetectionProvenance
          (importedArtifact sha256 casefold reprint rules) entry.ruleId =
            .ok provenance ∧
        provenance.ruleSnapshot = scriptMembers reprint entry.payload) ∧
      ∃ detection, parseDetectionSnapshot sha256
          (.obj (scriptMembers reprint entry.payload))
          (canonicalContractDigest sha256 entry.payload) = .ok detection ∧
        detection.kind = entry.kind := by
  obtain ⟨imported, provenance, detection, isImported, found, isSnapshot,
    isDigest, parsed, isKind⟩ := replayed
  have standard : ∀ rule ∈ rules,
      rule.detection.json.isStandard = true := by
    by_contra notStandard
    rw [import_none notStandard] at isImported
    cases isImported
  rw [import_eq standard] at isImported
  cases isImported
  rw [isSnapshot, isDigest] at parsed
  exact ⟨standard, ⟨provenance, found, isSnapshot⟩, detection, parsed, isKind⟩

end Replays

/-- The rule of `edge_sensitive_path_scan.yml`. -/
def edgeRule : SigmaRule where
  id := "CF-EDGE-001"
  ruleVersion := 1
  title := "Sensitive path discovery at the application edge"
  description := "Detects requests for commonly exposed secrets, " ++
    "source-control metadata, and admin paths."
  status := "experimental"
  logsource := { members := [("category", .str "webserver")] }
  detection := {
    members :=
      [("selection_event",
          .obj [("event_type", .str "edge_http_request")]),
        ("selection_path", .obj [("request_path|contains",
          .arr [.str "/.env", .str "/.git/config", .str "/server-status",
            .str "/actuator/env", .str "/wp-admin"])]),
        ("condition", .str "selection_event and selection_path")]
    wellFormed := by
      simp [Json.WellFormed, Json.WellFormedMembers, Json.WellFormedItems] }
  level := .medium
  tags := ["edge-security", "attack.discovery", "attack.t1083"]
  idNotEmpty := by decide
  versionPositive := by decide
  titleNotEmpty := by decide
  logsourceTexts := by simp

/-- A whole number is printed without a fraction. -/
def sampleReprint : Number → Number
  | .int value => .int value
  | .float literal wellFormed =>
      if literal = ['9', '0', '0', '.', '0'] then .int 900
      else .float literal wellFormed

/-- The digests of the canonical texts of two entries, and of the text of the
second one in the cloud runtime. -/
def sampleDigests : List (String × String) :=
  [(Json.dumps false (Json.sortKeys (.obj (canonicalSigmaRule edgeRule))),
      "de9bb8dac72e6830a8821f24071fc9fc0ed286bb04a8691133df1c66ad2329a2"),
    (Json.dumps false (Json.sortKeys
      (.obj (canonicalCorrelation Detection.impossibleTravelSpec))),
      "f907a19cbd716019acbee6714d104a36c8f3b96e6c2f889e8c2de733d7165ff2"),
    (canonicalize (.obj (scriptMembers sampleReprint
      (canonicalCorrelation Detection.impossibleTravelSpec))),
      "eca54eabc371f7776dc6b18e09365c7922baf37daf0b7f5ad1abd57e811ab40c")]

def sampleSha256 (text : String) : String :=
  (sampleDigests.lookup text).getD
    "0000000000000000000000000000000000000000000000000000000000000000"

/-- A rule has fewer members than a correlation, and the speed is printed
otherwise in the cloud runtime. -/
theorem sampleTexts_ne :
    Json.dumps false (Json.sortKeys (.obj (canonicalCorrelation
        Detection.impossibleTravelSpec))) ≠
      Json.dumps false (Json.sortKeys (.obj (canonicalSigmaRule edgeRule))) ∧
    canonicalize (.obj (scriptMembers sampleReprint (canonicalCorrelation
        Detection.impossibleTravelSpec))) ≠
      Json.dumps false (Json.sortKeys (.obj (canonicalSigmaRule edgeRule))) ∧
    canonicalize (.obj (scriptMembers sampleReprint (canonicalCorrelation
        Detection.impossibleTravelSpec))) ≠
      Json.dumps false (Json.sortKeys (.obj (canonicalCorrelation
        Detection.impossibleTravelSpec))) := by
  have travel := wellFormed_correlation Detection.impossibleTravelSpec
  have edge := Json.wellFormed_sortKeys _ (wellFormed_sigma edgeRule)
  have numbers := renumbers_reprinted sampleReprint
  refine ⟨?_, ?_, ?_⟩
  · intro same
    have sorted := Json.dumps_injective false
      (Json.wellFormed_sortKeys _ travel) edge same
    have lengths := congrArg List.length (Json.obj.inj sorted)
    rw [List.length_insertionSort, List.length_insertionSort,
      Json.sortKeysMembers_eq_map, Json.sortKeysMembers_eq_map, List.length_map,
      List.length_map] at lengths
    cases lengths
  · intro same
    have sorted := Json.dumps_injective false (Json.wellFormed_sortUnits _
      (Json.wellFormed_renumber numbers _ travel)) edge same
    have lengths := congrArg List.length (Json.obj.inj sorted)
    rw [List.length_insertionSort, List.length_insertionSort,
      Json.sortUnitsMembers_eq_map, Json.sortKeysMembers_eq_map, List.length_map,
      List.length_map] at lengths
    cases lengths
  · intro same
    have portable := (Json.canonical_eq_iff numbers travel).mp same.symm
    obtain ⟨-, -, -, -, -, -, -, -, -, -, -, speed, -⟩ := portable
    cases speed

theorem lookup_of_ne {first second third firstValue secondValue thirdValue : String}
    (secondFirst : second ≠ first) (thirdFirst : third ≠ first)
    (thirdSecond : third ≠ second) :
    List.lookup second
        [(first, firstValue), (second, secondValue), (third, thirdValue)] =
      some secondValue ∧
    List.lookup third
        [(first, firstValue), (second, secondValue), (third, thirdValue)] =
      some thirdValue := by
  constructor
  · simp [List.lookup_cons, beq_false_of_ne secondFirst]
  · simp [List.lookup_cons, beq_false_of_ne thirdFirst,
      beq_false_of_ne thirdSecond]

/-- The digests of the contract and of what is read of it. -/
theorem sampleSha256_travel :
    sampleSha256 (Json.dumps false (Json.sortKeys (.obj (canonicalCorrelation
        Detection.impossibleTravelSpec)))) =
      "f907a19cbd716019acbee6714d104a36c8f3b96e6c2f889e8c2de733d7165ff2" ∧
    sampleSha256 (canonicalize (.obj (scriptMembers sampleReprint
        (canonicalCorrelation Detection.impossibleTravelSpec)))) =
      "eca54eabc371f7776dc6b18e09365c7922baf37daf0b7f5ad1abd57e811ab40c" := by
  obtain ⟨secondFirst, thirdFirst, thirdSecond⟩ := sampleTexts_ne
  constructor
  · exact congrArg (Option.getD · _)
      (lookup_of_ne secondFirst thirdFirst thirdSecond).1
  · exact congrArg (Option.getD · _)
      (lookup_of_ne secondFirst thirdFirst thirdSecond).2

theorem sampleSha256_hex (text : String) :
    isHexDigest (sampleSha256 text).toList = true := by
  have digests : ∀ entry ∈ sampleDigests,
      isHexDigest entry.2.toList = true := by
    simp only [sampleDigests, List.forall_mem_cons]
    refine ⟨?_, ?_, ?_, List.forall_mem_nil _⟩
    all_goals
      rw [String.toList_ofList]
      decide
  unfold sampleSha256
  cases found : sampleDigests.lookup text with
  | none =>
      rw [Option.getD_none, String.toList_ofList]
      decide
  | some digest =>
      obtain ⟨before, after, split, -⟩ := List.lookup_eq_some_iff.mp found
      apply digests (text, digest)
      rw [split]
      simp

end Cloud

end ControlForge
