import ControlForge.Detection.Contracts

/-!
# Rules and their compilation

`load_rules` reads a directory of detection rules; `compile_rules` writes them,
together with the built-in and the correlation contracts, with the digests of
their canonical texts.
-/

namespace ControlForge

namespace Detection

/-- The members of a JSON object. -/
abbrev Members := List (String × Json)

/-! ## Rules -/

/-- `SigmaRule`, with the checks of its fields. -/
structure SigmaRule where
  id : String
  ruleVersion : Int
  title : String
  description : String
  status : String
  logsource : Dict
  detection : Dict
  level : Severity
  tags : List String
  idNotEmpty : id ≠ ""
  versionPositive : 1 ≤ ruleVersion
  titleNotEmpty : title ≠ ""
  logsourceTexts : ∀ member ∈ logsource.members, ∃ text, member.2 = .str text

/-- The paths of the rules that are loaded, by their normalized identifiers,
and the rules. -/
abbrev LoadedRules := List (String × String) × List SigmaRule

def loadFile (casefold repr : String → String) (loaded : LoadedRules)
    (file : String × SigmaRule) : Except DetectionError LoadedRules :=
  let normalizedId := casefold file.2.id
  match loaded.1.lookup normalizedId with
  | some first => .error (.value (file.1 ++ ": duplicate rule id " ++
      repr file.2.id ++ "; first defined in " ++ first))
  | none => .ok (loaded.1 ++ [(normalizedId, file.1)], loaded.2 ++ [file.2])

/-- `load_rules`, on the rules of the files of a directory in the order of
their paths. -/
def loadRules (casefold repr : String → String) (directory : String)
    (files : List (String × SigmaRule)) :
    Except DetectionError (List SigmaRule) := do
  let loaded ← files.foldlM (loadFile casefold repr) ([], [])
  if loaded.2.isEmpty then
    throw (.value ("no detection rules found in " ++ directory))
  return loaded.2

/-! ## Contracts without a rule -/

/-- `BuiltinOutcome`. -/
structure BuiltinOutcome where
  value : String
  title : String
  severity : Severity
deriving DecidableEq

/-- `BuiltinDetectionSpec`. -/
structure BuiltinDetectionSpec where
  ruleId : String
  ruleVersion : Nat
  eventType : String
  attributeName : String
  outcomes : List BuiltinOutcome
  tags : List String
deriving DecidableEq

/-- `BUILTIN_DETECTIONS`. -/
def builtinDetections : List BuiltinDetectionSpec :=
  [{ ruleId := "CF-CONTROL-001"
     ruleVersion := 1
     eventType := "endpoint_control_status"
     attributeName := "status"
     outcomes :=
      [{ value := "failed"
         title := "Required endpoint security control failed"
         severity := .high },
       { value := "degraded"
         title := "Endpoint security control degraded"
         severity := .medium }]
     tags := ["control-assurance", "endpoint-security", "defense-evasion"] }]

/-! ## Canonical objects -/

def textArray (texts : List String) : Json :=
  .arr (texts.map .str)

/-- `canonical_sigma_rule`. -/
def canonicalSigmaRule (rule : SigmaRule) : Members :=
  [("id", .str rule.id),
    ("rule_version", .int rule.ruleVersion),
    ("title", .str rule.title),
    ("description", .str rule.description),
    ("status", .str rule.status),
    ("logsource", rule.logsource.json),
    ("detection", rule.detection.json),
    ("level", .str rule.level.value),
    ("tags", textArray rule.tags)]

def canonicalOutcome (outcome : BuiltinOutcome) : Json :=
  .obj [("value", .str outcome.value),
    ("title", .str outcome.title),
    ("severity", .str outcome.severity.value)]

/-- `canonical_builtin_detections`, of one of them. -/
def canonicalBuiltin (spec : BuiltinDetectionSpec) : Members :=
  [("rule_id", .str spec.ruleId),
    ("rule_version", .int spec.ruleVersion),
    ("event_type", .str spec.eventType),
    ("attribute", .str spec.attributeName),
    ("outcomes", .arr (spec.outcomes.map canonicalOutcome)),
    ("tags", textArray spec.tags)]

/-- A value, or `None`. -/
def orNull {Value : Type} (json : Value → Json) : Option Value → Json
  | some value => json value
  | none => .null

/-- `canonical_stateful_correlations`, of one of them. -/
def canonicalCorrelation (spec : StatefulCorrelationSpec) : Members :=
  [("rule_id", .str spec.ruleId),
    ("rule_version", .int spec.ruleVersion),
    ("title", .str spec.title),
    ("severity", .str spec.severity.value),
    ("tags", textArray spec.tags),
    ("event_type", .str spec.eventType),
    ("window_minutes", orNull (fun count : Nat => .int count)
      spec.windowMinutes),
    ("event_threshold", orNull (fun count : Nat => .int count)
      spec.eventThreshold),
    ("distinct_threshold", orNull (fun count : Nat => .int count)
      spec.distinctThreshold),
    ("byte_threshold", orNull .int spec.byteThreshold),
    ("maximum_speed_kph", orNull .float spec.maximumSpeedKph)]

/-! ## Compilation -/

section Compilation

variable (sha256 casefold : String → String)

/-- `canonical_contract_digest`, and `sigma_rule_digest`. -/
def canonicalContractDigest (payload : Members) : String :=
  "sha256:" ++ sha256 (Json.dumps false (Json.sortKeys (.obj payload)))

/-- `{**payload, "rule_digest": ...}`. -/
def withDigest (payload : Members) : Members :=
  payload ++
    [("rule_digest", .str (canonicalContractDigest sha256 payload))]

/-- The artifact `compile_rules` writes. -/
structure Artifact where
  contractVersion : String
  rules : List Members
  builtins : List Members
  correlations : List Members

def Artifact.json (artifact : Artifact) : Json :=
  .obj [("contract_version", .str artifact.contractVersion),
    ("rules", .arr (artifact.rules.map .obj)),
    ("builtins", .arr (artifact.builtins.map .obj)),
    ("correlations", .arr (artifact.correlations.map .obj))]

/-- The order of the compiled rules. -/
def compileKey (rule : SigmaRule) : String ×ₗ String :=
  toLex (casefold rule.id, rule.id)

/-- `compile_rules`, of the loaded rules. -/
def compileRules (rules : List SigmaRule) : Artifact where
  contractVersion := "1.0"
  rules := (orderBy (compileKey casefold) rules).map fun rule =>
    withDigest sha256 (canonicalSigmaRule rule)
  builtins := builtinDetections.map fun spec =>
    withDigest sha256 (canonicalBuiltin spec)
  correlations := statefulCorrelations.map fun spec =>
    withDigest sha256 (canonicalCorrelation spec)

end Compilation

/-! ## What is loaded -/

section Loaded

variable {casefold repr : String → String} {directory : String}
  {files : List (String × SigmaRule)} {rules : List SigmaRule}

/-- The paths are those of the rules, one for each normalized identifier. -/
def Indexed (casefold : String → String) (loaded : LoadedRules) : Prop :=
  loaded.1.map Prod.fst = loaded.2.map (fun rule => casefold rule.id) ∧
    (loaded.1.map Prod.fst).Nodup

theorem loadFile_indexed {loaded next : LoadedRules}
    {file : String × SigmaRule} (indexed : Indexed casefold loaded)
    (isNext : loadFile casefold repr loaded file = .ok next) :
    Indexed casefold next := by
  obtain ⟨same, distinct⟩ := indexed
  unfold loadFile at isNext
  cases found : loaded.1.lookup (casefold file.2.id) with
  | some first =>
      simp only [found] at isNext
      cases isNext
  | none =>
      simp only [found, Except.ok.injEq] at isNext
      rw [← isNext]
      constructor
      · simp [same]
      · have isNew : casefold file.2.id ∉ loaded.1.map Prod.fst := by
          intro member
          obtain ⟨entry, isEntry, sameId⟩ := List.mem_map.mp member
          have absent := List.lookup_eq_none_iff.mp found entry isEntry
          simp [sameId] at absent
        rw [List.map_append, List.nodup_append]
        refine ⟨distinct, List.nodup_singleton _, ?_⟩
        intro left isLeft right isRight
        rw [List.map_singleton, List.mem_singleton] at isRight
        rw [isRight]
        rintro rfl
        exact isNew isLeft

theorem foldlM_indexed {loaded last : LoadedRules}
    (indexed : Indexed casefold loaded)
    (isLast : files.foldlM (loadFile casefold repr) loaded = .ok last) :
    Indexed casefold last := by
  induction files generalizing loaded with
  | nil =>
      cases isLast
      exact indexed
  | cons file files induction =>
      rw [List.foldlM_cons] at isLast
      cases isNext : loadFile casefold repr loaded file with
      | error failure =>
          rw [isNext] at isLast
          cases isLast
      | ok next =>
          rw [isNext] at isLast
          exact induction (loadFile_indexed indexed isNext) isLast

/-- No two rules have one identifier, whatever its case. -/
theorem loadRules_distinct
    (loaded : loadRules casefold repr directory files = .ok rules) :
    (rules.map fun rule => casefold rule.id).Nodup := by
  unfold loadRules at loaded
  cases isLast : files.foldlM (loadFile casefold repr) ([], []) with
  | error failure =>
      rw [isLast] at loaded
      cases loaded
  | ok last =>
      rw [isLast] at loaded
      have empty : Indexed casefold ([], []) := ⟨rfl, List.nodup_nil⟩
      have indexed := foldlM_indexed empty isLast
      by_cases noRules : last.2.isEmpty = true
      · simp [bind, Except.bind, noRules, throw, throwThe,
          MonadExceptOf.throw] at loaded
      · simp only [bind, Except.bind, noRules, pure, Except.pure] at loaded
        cases loaded
        rw [← indexed.1]
        exact indexed.2

end Loaded

end Detection

end ControlForge
