import Mathlib.Data.List.ReduceOption
import ControlForge.Detection.Conditions
import ControlForge.Detection.Rules
import ControlForge.Detection.Stateful
import ControlForge.Detection.Streaming

/-!
# The pipeline and the identifiers of its alerts

The built-in detections, the rules and the correlations each give an alert the
shortened digest of a scope and the identifier of the event, with a colon in
between.
-/

namespace ControlForge

namespace Detection

section Model

variable {F : Type} (library : Library F)

/-! ## Stateless detections -/

/-- The text that identifies an alert. -/
def fingerprint (scope eventId : String) : String :=
  scope ++ ":" ++ eventId

/-- `sha256(...).hexdigest()[:20]`. -/
def alertIdOf (text : String) : String :=
  String.ofList ((library.sha256 text).toList.take 20)

/-- `evidence_value`. -/
def evidenceValue : Json → String
  | .bool true => "true"
  | .bool false => "false"
  | _ => "unknown"

/-- `event.target or 'unknown'`. -/
def targetText (event : SecurityEvent) : String :=
  (event.target.filter fun target => !target.isEmpty).getD "unknown"

def builtinAlert (event : SecurityEvent) (spec : BuiltinDetectionSpec)
    (value : String) (outcome : BuiltinOutcome) : DetectionAlert where
  alertId := alertIdOf library (fingerprint spec.ruleId event.eventId)
  ruleId := spec.ruleId
  title := outcome.title
  severity := outcome.severity
  eventId := event.eventId
  actor := event.actor
  reasons :=
    ["endpoint control " ++ targetText event ++ " reported " ++ value,
      "installed=" ++ evidenceValue (event.attributes.get "installed") ++
        " running=" ++ evidenceValue (event.attributes.get "running")]
  tags := spec.tags
  createdAt := event.timestamp.instant

/-- The alert of one of the `BUILTIN_DETECTIONS`. -/
def evaluateBuiltin (event : SecurityEvent) (spec : BuiltinDetectionSpec) :
    Option DetectionAlert :=
  if event.eventType ≠ spec.eventType then none
  else
    let value := match event.attributes.get spec.attributeName with
      | .str raw => library.casefold raw
      | _ => ""
    (spec.outcomes.find? (·.value = value)).map
      (builtinAlert library event spec value)

/-- `evaluate_builtin_stateless_event`. -/
def evaluateBuiltinStatelessEvent (event : SecurityEvent) :
    List DetectionAlert :=
  builtinDetections.filterMap (evaluateBuiltin library event)

def ruleAlert (rule : SigmaRule) (event : SecurityEvent)
    (reasons : List String) : DetectionAlert where
  alertId := alertIdOf library (fingerprint rule.id event.eventId)
  ruleId := rule.id
  title := rule.title
  severity := rule.level
  eventId := event.eventId
  actor := event.actor
  reasons
  tags := rule.tags
  createdAt := event.timestamp.instant

/-- `SigmaSubsetEvaluator.evaluate`, with `_match_value` on the fields of an
event as a parameter. -/
def evaluateRule (matchValue : SecurityEvent → Matcher) (rule : SigmaRule)
    (event : SecurityEvent) :
    Except DetectionError (Option DetectionAlert) :=
  match rule.detection.get "condition" with
  | .str condition => do
      let selections := rule.detection.members.filter fun member =>
        ¬(member.1 = "condition" ∨ member.1 = "timeframe")
      let (matched, reasons) ←
        evaluateCondition (matchValue event) condition selections
      return if matched then some (ruleAlert library rule event reasons)
        else none
  | _ => .error (.value (rule.id ++ ": detection.condition must be a string"))

/-- `DetectionPipeline` of a list of rules. -/
def pipelineOf (matchValue : SecurityEvent → Matcher)
    (rules : List SigmaRule) : DetectionPipeline F where
  library
  stateless event := do
    let matched ← rules.mapM fun rule =>
      evaluateRule library matchValue rule event
    return evaluateBuiltinStatelessEvent library event ++ matched.reduceOption

end Model

/-! ## Scopes -/

/-- The scope of an alert of a rule for an event. -/
inductive Scoped (rules : List SigmaRule) (event : SecurityEvent) :
    (ruleId scope : String) → Prop
  | builtin {spec : BuiltinDetectionSpec} (listed : spec ∈ builtinDetections) :
      Scoped rules event spec.ruleId spec.ruleId
  | rule {rule : SigmaRule} (installed : rule ∈ rules) :
      Scoped rules event rule.id rule.id
  | access : Scoped rules event bulkAccessSpec.ruleId
      ("bulk-sensitive-access:" ++ event.actor)
  | travel : Scoped rules event impossibleTravelSpec.ruleId
      ("impossible-travel:" ++ event.actor)
  | stuffing (address : String) : Scoped rules event
      credentialStuffingSpec.ruleId ("credential-stuffing:" ++ address)
  | replay (hash : String) : Scoped rules event sessionReplaySpec.ruleId
      ("session-replay:" ++ hash)

/-- The text is the fingerprint of the alert. -/
structure Fingerprinted {F : Type} (library : Library F)
    (rules : List SigmaRule) (alert : DetectionAlert) (text : String) :
    Prop where
  identifies : ∃ event scope, event.eventId = alert.eventId ∧
    Scoped rules event alert.ruleId scope ∧
      text = fingerprint scope alert.eventId
  hashed : alert.alertId = alertIdOf library text

section Alerts

variable {F : Type} {library : Library F} {rules : List SigmaRule}
  {matchValue : SecurityEvent → Matcher} {event : SecurityEvent}

/-- The alert is for the event and has a fingerprint. -/
def Raised (library : Library F) (rules : List SigmaRule)
    (event : SecurityEvent) (alert : DetectionAlert) : Prop :=
  alert.eventId = event.eventId ∧ ∃ text, Fingerprinted library rules alert text

theorem raised_statefulAlert {spec : StatefulCorrelationSpec}
    {scope : String} (inScope : Scoped rules event spec.ruleId scope)
    (reasons : List String) :
    Raised library rules event
      (statefulAlert library event spec scope reasons) :=
  ⟨rfl, fingerprint scope event.eventId, ⟨event, scope, rfl, inScope, rfl⟩, rfl⟩

theorem raised_builtin {alert : DetectionAlert}
    (member : alert ∈ evaluateBuiltinStatelessEvent library event) :
    Raised library rules event alert := by
  obtain ⟨spec, listed, evaluates⟩ := List.mem_filterMap.mp member
  unfold evaluateBuiltin at evaluates
  split at evaluates
  · cases evaluates
  · obtain ⟨outcome, -, rfl⟩ := Option.map_eq_some_iff.mp evaluates
    exact ⟨rfl, fingerprint spec.ruleId event.eventId,
      ⟨event, spec.ruleId, rfl, .builtin listed, rfl⟩, rfl⟩

theorem raised_rule {rule : SigmaRule} (installed : rule ∈ rules)
    {alert : DetectionAlert}
    (evaluates : evaluateRule library matchValue rule event =
      .ok (some alert)) : Raised library rules event alert := by
  unfold evaluateRule at evaluates
  split at evaluates
  · obtain ⟨verdict, -, returned⟩ := bind_eq_ok.mp evaluates
    obtain ⟨matched, reasons⟩ := verdict
    cases matched with
    | false => cases returned
    | true =>
        cases returned
        exact ⟨rfl, fingerprint rule.id event.eventId,
          ⟨event, rule.id, rfl, .rule installed, rfl⟩, rfl⟩
  · cases evaluates

/-- A correlation raises nothing, or one alert of its scope. -/
def RaisesOne (library : Library F) (event : SecurityEvent)
    (spec : StatefulCorrelationSpec) (scope : String)
    (alerts : List DetectionAlert) : Prop :=
  alerts = [] ∨
    ∃ reasons, alerts = [statefulAlert library event spec scope reasons]

theorem RaisesOne.raised {spec : StatefulCorrelationSpec} {scope : String}
    {alerts : List DetectionAlert}
    (raisesOne : RaisesOne library event spec scope alerts)
    (inScope : Scoped rules event spec.ruleId scope) :
    ∀ alert ∈ alerts, Raised library rules event alert := by
  rcases raisesOne with rfl | ⟨reasons, rfl⟩
  · nofun
  · intro alert member
    rw [List.mem_singleton.mp member]
    exact raised_statefulAlert inScope reasons

theorem bulkAccess_raisesOne {spec : StatefulCorrelationSpec}
    {history : List SecurityEvent} {alerts : List DetectionAlert}
    (evaluates : bulkAccessHistory library spec history event = .ok alerts) :
    RaisesOne library event spec ("bulk-sensitive-access:" ++ event.actor)
      alerts := by
  unfold bulkAccessHistory at evaluates
  split at evaluates
  · cases evaluates
    exact .inl rfl
  split at evaluates
  · dsimp only at evaluates
    split at evaluates
    · cases evaluates
      exact .inl rfl
    · cases evaluates
      exact .inr ⟨_, rfl⟩
  · cases evaluates

theorem impossibleTravel_raisesOne {spec : StatefulCorrelationSpec}
    {history : List SecurityEvent} {alerts : List DetectionAlert}
    (evaluates : impossibleTravelHistory library spec history event =
      .ok alerts) :
    RaisesOne library event spec ("impossible-travel:" ++ event.actor)
      alerts := by
  unfold impossibleTravelHistory at evaluates
  split at evaluates
  · cases evaluates
    exact .inl rfl
  split at evaluates
  · cases evaluates
    exact .inl rfl
  split at evaluates
  · cases evaluates
    exact .inl rfl
  split at evaluates
  · cases evaluates
  split at evaluates
  · cases evaluates
    exact .inl rfl
  · cases evaluates
    exact .inr ⟨_, rfl⟩

theorem credentialStuffing_raisesOne {spec : StatefulCorrelationSpec}
    {history : List SecurityEvent} {alerts : List DetectionAlert}
    (evaluates : credentialStuffingHistory library spec history event =
      .ok alerts) :
    ∃ address, RaisesOne library event spec
      ("credential-stuffing:" ++ address) alerts := by
  unfold credentialStuffingHistory at evaluates
  split at evaluates
  · cases evaluates
    exact ⟨"", .inl rfl⟩
  · next address _ =>
      refine ⟨address, ?_⟩
      split at evaluates
      · dsimp only at evaluates
        split at evaluates
        · cases evaluates
          exact .inl rfl
        · cases evaluates
          exact .inr ⟨_, rfl⟩
      · cases evaluates

theorem sessionReplay_raisesOne {spec : StatefulCorrelationSpec}
    {history : List SecurityEvent} {alerts : List DetectionAlert}
    (evaluates : sessionReplayHistory library spec history event =
      .ok alerts) :
    ∃ hash, RaisesOne library event spec ("session-replay:" ++ hash)
      alerts := by
  unfold sessionReplayHistory at evaluates
  split at evaluates
  · split at evaluates
    · cases evaluates
      exact ⟨"", .inl rfl⟩
    · next hash _ =>
        refine ⟨hash, ?_⟩
        dsimp only at evaluates
        split at evaluates
        · cases evaluates
          exact .inl rfl
        split at evaluates
        · cases evaluates
          exact .inl rfl
        split at evaluates
        · cases evaluates
          exact .inl rfl
        · cases evaluates
          exact .inr ⟨_, rfl⟩
  · cases evaluates
    exact ⟨"", .inl rfl⟩

theorem raised_stateful {history : List SecurityEvent}
    {alerts : List DetectionAlert}
    (evaluates : evaluateStatefulEvent library event history = .ok alerts) :
    ∀ alert ∈ alerts, Raised library rules event alert := by
  unfold evaluateStatefulEvent at evaluates
  cases isSpec : statefulCorrelationForEvent event.eventType with
  | none =>
      rw [isSpec] at evaluates
      cases evaluates
      nofun
  | some spec =>
      rw [isSpec] at evaluates
      dsimp only at evaluates
      split at evaluates
      · next isAccess =>
          rw [isAccess, spec_bulkAccess] at isSpec
          cases isSpec
          exact (bulkAccess_raisesOne evaluates).raised .access
      split at evaluates
      · next isLogin =>
          rw [isLogin, spec_impossibleTravel] at isSpec
          cases isSpec
          exact (impossibleTravel_raisesOne evaluates).raised .travel
      split at evaluates
      · next isFailed =>
          rw [isFailed, spec_credentialStuffing] at isSpec
          cases isSpec
          obtain ⟨address, raisesOne⟩ := credentialStuffing_raisesOne evaluates
          exact raisesOne.raised (.stuffing address)
      split at evaluates
      · next isUse =>
          rw [isUse, spec_sessionReplay] at isSpec
          cases isSpec
          obtain ⟨hash, raisesOne⟩ := sessionReplay_raisesOne evaluates
          exact raisesOne.raised (.replay hash)
      · cases evaluates
        nofun

theorem mem_mapM_ok {Item Value Failure : Type}
    {compute : Item → Except Failure Value} {items : List Item}
    {values : List Value} (ran : items.mapM compute = .ok values) :
    ∀ value ∈ values, ∃ item ∈ items, compute item = .ok value := by
  induction items generalizing values with
  | nil =>
      cases ran
      nofun
  | cons item items induction =>
      rw [List.mapM_cons] at ran
      obtain ⟨first, isFirst, afterFirst⟩ := bind_eq_ok.mp ran
      obtain ⟨others, isRest, returned⟩ := bind_eq_ok.mp afterFirst
      cases returned
      intro value member
      rcases List.mem_cons.mp member with rfl | inRest
      · exact ⟨item, List.mem_cons_self, isFirst⟩
      · obtain ⟨source, isSource, computes⟩ := induction isRest value inRest
        exact ⟨source, List.mem_cons_of_mem _ isSource, computes⟩

/-- Every alert of the pipeline is for the event it evaluates, and its
identifier is the digest of a scope of its rule and of the event. -/
theorem raised_of_evaluate {history : List SecurityEvent}
    {alerts : List DetectionAlert}
    (evaluates : (pipelineOf library matchValue rules).evaluateWithHistory event
      history = .ok alerts) :
    ∀ alert ∈ alerts, Raised library rules event alert := by
  unfold DetectionPipeline.evaluateWithHistory at evaluates
  obtain ⟨stateless, isStateless, afterStateless⟩ := bind_eq_ok.mp evaluates
  obtain ⟨stateful, isStateful, returned⟩ := bind_eq_ok.mp afterStateless
  cases returned
  obtain ⟨matched, isMatched, joined⟩ := bind_eq_ok.mp isStateless
  cases joined
  intro alert member
  rcases List.mem_append.mp member with inStateless | inStateful
  · rcases List.mem_append.mp inStateless with ofBuiltin | ofRule
    · exact raised_builtin ofBuiltin
    · have isSome := List.reduceOption_mem_iff.mp ofRule
      obtain ⟨rule, installed, computes⟩ := mem_mapM_ok isMatched _ isSome
      exact raised_rule installed computes
  · exact raised_stateful isStateful alert inStateful

/-! ## Plain identifiers -/

/-- The text has no delimiter. -/
def PlainId (text : String) : Prop :=
  ':' ∉ text.toList

theorem split_last {Item : Type} {delimiter : Item}
    {left right left' right' : List Item} (free : delimiter ∉ right)
    (free' : delimiter ∉ right')
    (same : left ++ delimiter :: right = left' ++ delimiter :: right') :
    left = left' ∧ right = right' := by
  rcases List.append_eq_append_iff.mp same with
    ⟨middle, isLeft, rest⟩ | ⟨middle, isLeft, rest⟩
  · cases middle with
    | nil =>
        rw [List.append_nil] at isLeft
        exact ⟨isLeft.symm, (List.cons.inj rest).2⟩
    | cons first middle =>
        rw [(List.cons.inj rest).2] at free
        exact absurd (List.mem_append_right _ List.mem_cons_self) free
  · cases middle with
    | nil =>
        rw [List.append_nil] at isLeft
        exact ⟨isLeft, (List.cons.inj rest).2.symm⟩
    | cons first middle =>
        rw [(List.cons.inj rest).2] at free'
        exact absurd (List.mem_append_right _ List.mem_cons_self) free'

theorem fingerprint_injective {left right leftId rightId : String}
    (leftPlain : PlainId leftId) (rightPlain : PlainId rightId)
    (same : fingerprint left leftId = fingerprint right rightId) :
    left = right ∧ leftId = rightId := by
  have texts : left.toList ++ ':' :: leftId.toList =
      right.toList ++ ':' :: rightId.toList := by
    have both := congrArg String.toList same
    simpa [fingerprint] using both
  obtain ⟨sameScope, sameEvent⟩ := split_last leftPlain rightPlain texts
  exact ⟨String.toList_injective sameScope, String.toList_injective sameEvent⟩

/-- The rules of the correlations, by the names in their scopes. -/
def correlationScopes : List (String × String) :=
  [("bulk-sensitive-access", bulkAccessSpec.ruleId),
    ("impossible-travel", impossibleTravelSpec.ruleId),
    ("credential-stuffing", credentialStuffingSpec.ruleId),
    ("session-replay", sessionReplaySpec.ruleId)]

/-- What stands before the first delimiter. -/
def scopeName (scope : String) : String :=
  String.ofList (scope.toList.takeWhile (· ≠ ':'))

/-- With plain identifiers of rules, a scope is that of one rule. -/
def ruleOfScope (scope : String) : Option String :=
  if ':' ∈ scope.toList then correlationScopes.lookup (scopeName scope)
  else some scope

theorem scopeName_correlation {name : String} (rest : String)
    (isName : name.toList.all (· ≠ ':') = true) :
    scopeName (name ++ ":" ++ rest) = name := by
  have isText : (name ++ ":" ++ rest).toList =
      name.toList ++ ':' :: rest.toList := by simp
  have allName : ∀ character ∈ name.toList, decide (character ≠ ':') = true :=
    List.all_eq_true.mp isName
  unfold scopeName
  rw [isText, List.takeWhile_append_of_pos allName]
  simp

theorem ruleOfScope_correlation {start name ruleId : String} (rest : String)
    (isStart : start = name ++ ":")
    (isName : name.toList.all (· ≠ ':') = true)
    (isRule : List.lookup name correlationScopes = some ruleId) :
    ruleOfScope (start ++ rest) = some ruleId := by
  have delimited : ':' ∈ (name ++ ":" ++ rest).toList := by simp
  unfold ruleOfScope
  rw [isStart, if_pos delimited, scopeName_correlation rest isName]
  exact isRule

theorem ruleOfScope_scoped (plain : ∀ rule ∈ rules, PlainId rule.id)
    {ruleId scope : String} (inScope : Scoped rules event ruleId scope) :
    ruleOfScope scope = some ruleId := by
  cases inScope with
  | builtin listed =>
      rw [List.mem_singleton.mp listed]
      exact if_neg (by decide)
  | rule installed => exact if_neg (plain _ installed)
  | access =>
      exact @ruleOfScope_correlation _ "bulk-sensitive-access" _ event.actor
        (by decide) (by decide) (by decide)
  | travel =>
      exact @ruleOfScope_correlation _ "impossible-travel" _ event.actor
        (by decide) (by decide) (by decide)
  | stuffing address =>
      exact @ruleOfScope_correlation _ "credential-stuffing" _ address
        (by decide) (by decide) (by decide)
  | replay hash =>
      exact @ruleOfScope_correlation _ "session-replay" _ hash
        (by decide) (by decide) (by decide)

/-- The scope of a rule that is no correlation is its identifier. -/
theorem Fingerprinted.text_eq {alert : DetectionAlert} {text : String}
    (noCorrelation : alert.ruleId ∉ correlationScopes.map Prod.snd)
    (ofAlert : Fingerprinted library rules alert text) :
    text = fingerprint alert.ruleId alert.eventId := by
  obtain ⟨event, scope, -, inScope, isText⟩ := ofAlert.identifies
  rw [isText]
  generalize alert.ruleId = ruleId at inScope noCorrelation ⊢
  cases inScope with
  | builtin | rule => rfl
  | access | travel | stuffing | replay =>
      exact absurd (by decide) noCorrelation

/-- Plain identifiers of the rules and events make fingerprints unambiguous. -/
theorem fingerprinted_unique (plain : ∀ rule ∈ rules, PlainId rule.id)
    {left right : DetectionAlert} (leftPlain : PlainId left.eventId)
    (rightPlain : PlainId right.eventId) {text : String}
    (ofLeft : Fingerprinted library rules left text)
    (ofRight : Fingerprinted library rules right text) :
    left.ruleId = right.ruleId ∧ left.eventId = right.eventId := by
  obtain ⟨leftEvent, leftScope, -, leftScoped, leftText⟩ := ofLeft.identifies
  obtain ⟨rightEvent, rightScope, -, rightScoped, rightText⟩ :=
    ofRight.identifies
  obtain ⟨sameScope, sameEvent⟩ := fingerprint_injective leftPlain rightPlain
    (leftText.symm.trans rightText)
  refine ⟨?_, sameEvent⟩
  have leftRule := ruleOfScope_scoped plain leftScoped
  have rightRule := ruleOfScope_scoped plain rightScoped
  rw [sameScope, rightRule] at leftRule
  exact (Option.some.inj leftRule).symm

end Alerts

end Detection

end ControlForge
