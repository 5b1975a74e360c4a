import Mathlib.Data.List.Infix
import ControlForge.Detection.ConditionTokens

/-!
# What a condition means

A condition is a rendering of a boolean expression over the selections of a
rule.  `Means` says that every rendering is evaluated to the value of its
expression, that every other text is rejected for every event, and that only a
match has reasons.
-/

namespace ControlForge

namespace Detection

open Precedence (Derives Formula)

/-! ## Expressions -/

inductive Operand where
  | named (name : String)
  | oneOf (pattern : List Char)
  | allOf (pattern : List Char)

namespace Operand

def token : Operand → String
  | .named name => name
  | .oneOf pattern => quantifierToken ['1'] pattern
  | .allOf pattern => quantifierToken ['a', 'l', 'l'] pattern

/-- The selections a pattern names are those of the rule, and `all of` needs
one. -/
def value (names : List String) (truth : String → Bool) : Operand → Bool
  | .named name => truth name
  | .oneOf pattern => (candidates names (String.ofList pattern)).any truth
  | .allOf pattern =>
      !(candidates names (String.ofList pattern)).isEmpty &&
        (candidates names (String.ofList pattern)).all truth

/-- An identifier that the rule defines, or a pattern. -/
def legal (names : List String) : Operand → Bool
  | .named name => names.contains name && isName name
  | .oneOf pattern | .allOf pattern => isPattern pattern

end Operand

abbrev Expression : Type := Formula Operand

namespace Expression

def value (names : List String) (truth : String → Bool)
    (expression : Expression) : Bool :=
  Formula.value (Operand.value names truth) expression

def Legal (names : List String) (expression : Expression) : Prop :=
  ∀ operand ∈ expression.operands, operand.legal names = true

/-- The tokens are a way to write the expression, with the parentheses it needs
and any others. -/
def Written (tokens : List String) (expression : Expression) : Prop :=
  Derives kindOf .disjunct tokens (expression.map Operand.token)

def Rendered (text : String) (expression : Expression) : Prop :=
  ∃ tokens, expression.Written tokens ∧ Spaced text.toList tokens

end Expression

/-! ## The claim about a rule -/

/-- Every selection of the rule has a truth value. -/
def Assigns (matcher : Matcher) (selections : Selections)
    (truth : String → Bool) : Prop :=
  ∀ name ∈ selections.names, ∃ reasons,
    evaluateNamed matcher selections name = .ok (truth name, reasons)

/-- The conditions of a rule with these selections mean their expressions. -/
structure Means (names : List String) : Prop where
  rendered : ∀ matcher selections truth, selections.names = names →
    Assigns matcher selections truth → ∀ text expression,
    expression.Legal names → Expression.Rendered text expression →
    ∃ reasons, evaluateCondition matcher text selections =
      .ok (expression.value names truth, reasons)
  rejected : ∀ text,
    (¬ ∃ tokens expression, tokenizeCondition text = .ok tokens ∧
      expression.Legal names ∧ Expression.Written tokens expression) →
    ∀ matcher selections, selections.names = names →
    ∃ failure, evaluateCondition matcher text selections = .error failure
  unreasoned : ∀ matcher selections text reasons,
    selections.names = names →
    evaluateCondition matcher text selections = .ok (false, reasons) →
    reasons = []

/-- A token that is no operand of an expression, although the evaluator looks
it up as a selection. -/
def isStray (token : String) : Bool :=
  ["and", "or"].contains token ||
    (isQuantifier token && (patternOf "1" token).isNone &&
      (patternOf "all" token).isNone)

/-- Every identifier of the rule is one token, no selection has whitespace
around its name, and none is named like a stray token. -/
structure Plain (names : List String) : Prop where
  identifiers : ∀ name ∈ names, isName name = true →
    beginsLikeKeyword name.toList = false
  stripped : ∀ name ∈ names, Text.strip name = name
  noStray : ∀ name ∈ names, isStray name = false

/-! ## Symbols -/

theorem patternOf_eq_some {quantifier : List Char} {symbol pattern : String}
    (found : patternOf (String.ofList quantifier) symbol = some pattern) :
    symbol = quantifierToken quantifier pattern.toList ∧
      isPattern pattern.toList = true := by
  unfold patternOf at found
  dsimp only at found
  split at found
  · next valid =>
      cases found
      simp only [Bool.and_eq_true, List.isPrefixOf_iff_prefix,
        String.toList_ofList] at valid ⊢
      obtain ⟨⟨⟨rest, split⟩, nonempty⟩, allPattern⟩ := valid
      rw [← split, List.drop_left] at nonempty allPattern ⊢
      constructor
      · rw [← String.toList_inj, toList_quantifierToken, ← split,
          List.append_assoc]
        rfl
      · rw [isPattern, nonempty, allPattern]
        rfl
  · cases found

theorem patternOf_quantifierToken {quantifier pattern : List Char}
    (valid : isPattern pattern = true) :
    patternOf (String.ofList quantifier) (quantifierToken quantifier pattern) =
      some (String.ofList pattern) := by
  simp only [isPattern, Bool.and_eq_true] at valid
  have split : (quantifierToken quantifier pattern).toList =
      (quantifier ++ " of ".toList) ++ pattern := by
    rw [toList_quantifierToken, List.append_assoc]
    rfl
  unfold patternOf
  dsimp only
  rw [String.toList_ofList, split, List.drop_left, valid.1, valid.2,
    if_pos]
  simp

theorem patternOf_name {quantifier : List Char} {name : String}
    (valid : isName name = true) :
    patternOf (String.ofList quantifier) name = none := by
  cases found : patternOf (String.ofList quantifier) name with
  | none => rfl
  | some pattern =>
      have split := (patternOf_eq_some found).1
      have blank : ' ' ∈ name.toList := by
        rw [split, toList_quantifierToken]
        simp
      have nameBlank := (isName_iff.mp valid).2.1 ' ' blank
      exact absurd nameBlank (by decide)

theorem patternOf_other {pattern : List Char} :
    patternOf "1" (quantifierToken ['a', 'l', 'l'] pattern) = none := by
  unfold patternOf
  dsimp only
  rw [toList_quantifierToken]
  rfl

theorem kindOf_token {names : List String} {operand : Operand}
    (legal : operand.legal names = true) :
    kindOf operand.token = .operand := by
  cases operand with
  | named name =>
      apply kindOf_name
      simp only [Operand.legal, Bool.and_eq_true] at legal
      exact legal.2
  | oneOf pattern => exact kindOf_quantifierToken _ _
  | allOf pattern => exact kindOf_quantifierToken _ _

/-- The operand a symbol is read as. -/
def operandOf (symbol : String) : Operand :=
  match patternOf "1" symbol with
  | some pattern => .oneOf pattern.toList
  | none =>
      match patternOf "all" symbol with
      | some pattern => .allOf pattern.toList
      | none => .named symbol

theorem token_operandOf (symbol : String) :
    (operandOf symbol).token = symbol := by
  unfold operandOf
  cases one : patternOf "1" symbol with
  | some pattern =>
      exact (@patternOf_eq_some ['1'] symbol pattern one).1.symm
  | none =>
      dsimp only
      cases all : patternOf "all" symbol with
      | some pattern =>
          exact (@patternOf_eq_some ['a', 'l', 'l'] symbol pattern all).1.symm
      | none => rfl

theorem isName_of_isQuantifier {token : String}
    (isQuantifier : isQuantifier token = true) : isName token = false := by
  cases valid : isName token with
  | false => rfl
  | true =>
      obtain ⟨letters, member, found⟩ := List.any_eq_true.mp isQuantifier
      have unmatched := @matchQuantifier_name letters token.toList []
        (List.all_eq_true.mp (quantifiers_allName letters member)) (isName_iff.mp valid).2.1 nofun nofun
      rw [List.append_nil] at unmatched
      rw [unmatched] at found
      cases found

/-! ## The truth of an operand -/

section Truth

variable {matcher : Matcher} {selections : Selections} {truth : String → Bool}
  (assigns : Assigns matcher selections truth)
  (stripped : ∀ name ∈ selections.names, Text.strip name = name)

include assigns stripped

theorem evaluateAny_truth {names : List String}
    (known : ∀ name ∈ names, name ∈ selections.names) :
    ∃ reasons, evaluateAny matcher selections names =
      .ok (names.any truth, reasons) := by
  induction names with
  | nil => exact ⟨[], rfl⟩
  | cons name names induction =>
      have isKnown := known name List.mem_cons_self
      obtain ⟨reasons, evaluated⟩ := assigns name isKnown
      obtain ⟨others, later⟩ :=
        induction fun name member => known name (List.mem_cons_of_mem _ member)
      rw [evaluateAny, stripped name isKnown, evaluated, List.any_cons]
      cases isTrue : truth name with
      | true => exact ⟨reasons, rfl⟩
      | false => exact ⟨others, later⟩

theorem evaluateEach_truth {names : List String}
    (known : ∀ name ∈ names, name ∈ selections.names)
    (allReasons : List String) :
    ∃ reasons, evaluateEach matcher selections allReasons names =
      .ok (names.all truth, reasons) := by
  induction names generalizing allReasons with
  | nil => exact ⟨allReasons, rfl⟩
  | cons name names induction =>
      have isKnown := known name List.mem_cons_self
      obtain ⟨reasons, evaluated⟩ := assigns name isKnown
      obtain ⟨others, later⟩ := induction
        (fun name member => known name (List.mem_cons_of_mem _ member))
        (allReasons ++ reasons)
      rw [evaluateEach, stripped name isKnown, evaluated, List.all_cons]
      cases isTrue : truth name with
      | true => exact ⟨others, later⟩
      | false => exact ⟨[], rfl⟩

theorem evaluateSymbol_truth {operand : Operand}
    (legal : operand.legal selections.names = true) :
    ∃ reasons, evaluateSymbol matcher selections operand.token =
      .ok (operand.value selections.names truth, reasons) := by
  have known (pattern : String) :
      ∀ name ∈ candidates selections.names pattern, name ∈ selections.names :=
    fun name member => (List.mem_filter.mp member).1
  cases operand with
  | named name =>
      simp only [Operand.legal, Bool.and_eq_true, List.contains_iff_mem]
        at legal
      have one := @patternOf_name ['1'] name legal.2
      have all := @patternOf_name ['a', 'l', 'l'] name legal.2
      obtain ⟨reasons, evaluated⟩ := assigns name legal.1
      refine ⟨reasons, ?_⟩
      change patternOf "1" name = none at one
      change patternOf "all" name = none at all
      rw [evaluateSymbol, Operand.token, one, all]
      exact evaluated
  | oneOf pattern =>
      have one := @patternOf_quantifierToken ['1'] pattern legal
      obtain ⟨reasons, evaluated⟩ := evaluateAny_truth assigns stripped
        (known (String.ofList pattern))
      refine ⟨reasons, ?_⟩
      change patternOf "1" _ = _ at one
      rw [evaluateSymbol, Operand.token, one]
      exact evaluated
  | allOf pattern =>
      have one := @patternOf_other pattern
      have all := @patternOf_quantifierToken ['a', 'l', 'l'] pattern legal
      obtain ⟨reasons, evaluated⟩ := evaluateEach_truth assigns stripped
        (known (String.ofList pattern)) []
      refine ⟨reasons, ?_⟩
      change patternOf "all" _ = _ at all
      rw [evaluateSymbol, Operand.token, one, all]
      change evaluateAll _ _ _ = _
      rw [evaluateAll, evaluated, Operand.value, Bool.and_comm]
      rfl

end Truth

/-! ## A plain rule means its conditions -/

def truthMeaning (matcher : Matcher) (selections : Selections)
    (symbol : String) : Bool :=
  match evaluateSymbol matcher selections symbol with
  | .ok verdict => verdict.1
  | .error _ => false

theorem conditionActions_meaning (matcher : Matcher)
    (selections : Selections) :
    Precedence.Meaning (conditionActions matcher selections) Prod.fst where
  negate _ := rfl
  both left right := by
    cases hasLeft : left.1 with
    | false => simp [conditionActions, hasLeft]
    | true =>
        cases hasRight : right.1 with
        | false => simp [conditionActions, hasRight]
        | true => simp [conditionActions, hasLeft, hasRight]
  either left right := by
    cases hasLeft : left.1 with
    | true => simp [conditionActions, hasLeft]
    | false =>
        cases hasRight : right.1 with
        | false => simp [conditionActions, hasLeft, hasRight]
        | true => simp [conditionActions, hasLeft, hasRight]

theorem tokenizeCondition_spaced {text : String} {tokens : List String}
    (spaced : Spaced text.toList tokens) (alternates : Alternates tokens)
    (nonempty : tokens ≠ [])
    (plain : ∀ token ∈ tokens, isName token = true →
      beginsLikeKeyword token.toList = false) :
    tokenizeCondition text = .ok tokens := by
  unfold tokenizeCondition
  rw [tokenizeFrom_spaced spaced alternates plain (Nat.le_refl _)]
  cases tokens with
  | nil => exact absurd rfl nonempty
  | cons token tokens => rfl

theorem tokenizeCondition_shape {text : String} {tokens : List String}
    (tokenized : tokenizeCondition text = .ok tokens) :
    ∀ token ∈ tokens,
      token ∈ symbols ∨ isName token = true ∨ isQuantifier token = true := by
  obtain ⟨found, all, checked⟩ := bind_eq_ok.mp tokenized
  have same : found = tokens := by
    cases found with
    | nil => cases checked
    | cons => cases checked; rfl
  rw [← same]
  exact tokenizeFrom_shape all

theorem Expression.Written.tokens_nonempty {tokens : List String}
    {expression : Expression} (written : expression.Written tokens) :
    tokens ≠ [] :=
  List.ne_nil_of_length_pos (Derives.length_pos written)

/-- The identifiers among the tokens are selections of the rule. -/
theorem Expression.Written.names {names tokens : List String}
    {expression : Expression} (written : expression.Written tokens)
    (legal : expression.Legal names) {token : String}
    (member : token ∈ tokens) (valid : isName token = true) :
    token ∈ names := by
  have isOperand := Derives.covers written token member (kindOf_name valid)
  rw [Formula.operands_map, List.mem_map] at isOperand
  obtain ⟨operand, isOperand, rfl⟩ := isOperand
  have isLegal := legal operand isOperand
  cases operand with
  | named name =>
      simp only [Operand.legal, Bool.and_eq_true, List.contains_iff_mem]
        at isLegal
      exact isLegal.1
  | oneOf pattern =>
      have found := @patternOf_quantifierToken ['1'] pattern isLegal
      have missing := @patternOf_name ['1'] _ valid
      rw [Operand.token, found] at missing
      cases missing
  | allOf pattern =>
      have found := @patternOf_quantifierToken ['a', 'l', 'l'] pattern isLegal
      have missing := @patternOf_name ['a', 'l', 'l'] _ valid
      rw [Operand.token, found] at missing
      cases missing

theorem plain_rendered {names : List String} (plain : Plain names)
    {matcher : Matcher} {selections : Selections} {truth : String → Bool}
    (isNames : selections.names = names)
    (assigns : Assigns matcher selections truth) {text : String}
    {expression : Expression} (legal : expression.Legal names)
    (rendered : expression.Rendered text) :
    ∃ reasons, evaluateCondition matcher text selections =
      .ok (expression.value names truth, reasons) := by
  subst isNames
  obtain ⟨tokens, written, spaced⟩ := rendered
  have tokenized := tokenizeCondition_spaced spaced written.alternates
    written.tokens_nonempty fun token member valid =>
      plain.identifiers token (written.names legal member valid) valid
  have evaluated := fun operand (member : operand ∈ expression.operands) =>
    evaluateSymbol_truth assigns plain.stripped (legal operand member)
  have agrees : (expression.map Operand.token).value
      (truthMeaning matcher selections) =
        expression.value selections.names truth := by
    apply Formula.value_map
    intro operand member
    obtain ⟨reasons, isValue⟩ := evaluated operand member
    rw [truthMeaning, isValue]
  have assigned : Precedence.Assigned Prod.fst
      (truthMeaning matcher selections) (conditionActions matcher selections)
      (expression.map Operand.token) := by
    intro token member
    rw [Formula.operands_map, List.mem_map] at member
    obtain ⟨operand, member, rfl⟩ := member
    obtain ⟨reasons, isValue⟩ := evaluated operand member
    refine ⟨_, isValue, ?_⟩
    rw [truthMeaning, isValue]
  obtain ⟨⟨value, reasons⟩, ran, isValue⟩ := Precedence.run_complete
    (conditionActions_meaning matcher selections) written assigned
  rw [agrees] at isValue
  cases isValue
  refine ⟨reasons, ?_⟩
  rw [evaluateCondition, tokenized]
  exact ran

theorem evaluateSymbol_unmatched {matcher : Matcher} {selections : Selections}
    {symbol : String} (one : patternOf "1" symbol = none)
    (all : patternOf "all" symbol = none) :
    evaluateSymbol matcher selections symbol =
      evaluateNamed matcher selections symbol := by
  rw [evaluateSymbol, one, all]

theorem evaluateNamed_known {matcher : Matcher} {selections : Selections}
    {name : String} {verdict : Verdict}
    (evaluated : evaluateNamed matcher selections name = .ok verdict) :
    name ∈ selections.names := by
  unfold evaluateNamed at evaluated
  cases found : selections.lookup name with
  | none =>
      rw [found] at evaluated
      cases evaluated
  | some selection =>
      have isSome : (selections.lookup name).isSome := by
        rw [found]
        rfl
      obtain ⟨entry, member, same⟩ := List.lookup_isSome_iff.mp isSome
      rw [beq_iff_eq] at same
      rw [same]
      exact List.mem_map_of_mem member

theorem plain_refused {names : List String} (plain : Plain names)
    {matcher : Matcher} {selections : Selections}
    (isNames : selections.names = names) :
    Precedence.OperatorsRefused (conditionActions matcher selections) := by
  intro token verdict isOperator evaluated
  change kindOf token = _ ∨ kindOf token = _ at isOperator
  change evaluateSymbol matcher selections token = _ at evaluated
  have isSymbol : token ∈ symbols := by
    by_contra notSymbol
    rw [kindOf_eq_operand.mpr notSymbol] at isOperator
    rcases isOperator with different | different
    · cases different
    · cases different
  have unmatched : ∀ symbol ∈ symbols,
      patternOf "1" symbol = none ∧ patternOf "all" symbol = none := by
    decide
  have stray : ∀ symbol ∈ symbols, kindOf symbol = .conjunction ∨
      kindOf symbol = .disjunction → isStray symbol = true := by
    decide
  obtain ⟨one, all⟩ := unmatched token isSymbol
  rw [evaluateSymbol_unmatched one all] at evaluated
  have member := evaluateNamed_known evaluated
  rw [isNames] at member
  have notStray := plain.noStray token member
  rw [stray token isSymbol isOperator] at notStray
  cases notStray

/-- An operand symbol that is evaluated is an operand of the rule. -/
theorem legal_operandOf {names : List String} (plain : Plain names)
    {matcher : Matcher} {selections : Selections}
    (isNames : selections.names = names) {symbol : String} {verdict : Verdict}
    (shaped : isName symbol = true ∨ isQuantifier symbol = true)
    (evaluated : evaluateSymbol matcher selections symbol = .ok verdict) :
    (operandOf symbol).legal names = true := by
  unfold operandOf
  cases one : patternOf "1" symbol with
  | some pattern => exact (@patternOf_eq_some ['1'] symbol pattern one).2
  | none =>
      dsimp only
      cases all : patternOf "all" symbol with
      | some pattern =>
          exact (@patternOf_eq_some ['a', 'l', 'l'] symbol pattern all).2
      | none =>
          rw [evaluateSymbol_unmatched one all] at evaluated
          have member := evaluateNamed_known evaluated
          rw [isNames] at member
          have notStray := plain.noStray symbol member
          rcases shaped with valid | isQuantifier
          · simp [Operand.legal, member, valid]
          · simp [isStray, isQuantifier, one, all] at notStray

theorem plain_rejected {names : List String} (plain : Plain names)
    {text : String}
    (illegal : ¬ ∃ tokens expression, tokenizeCondition text = .ok tokens ∧
      expression.Legal names ∧ Expression.Written tokens expression)
    (matcher : Matcher) (selections : Selections)
    (isNames : selections.names = names) :
    ∃ failure, evaluateCondition matcher text selections = .error failure := by
  cases ran : evaluateCondition matcher text selections with
  | error failure => exact ⟨failure, rfl⟩
  | ok verdict =>
      refine absurd ?_ illegal
      obtain ⟨tokens, tokenized, evaluated⟩ := bind_eq_ok.mp ran
      obtain ⟨formula, derives, operands⟩ :=
        Precedence.run_sound (plain_refused plain isNames) evaluated
      refine ⟨tokens, formula.map operandOf, tokenized, ?_, ?_⟩
      · intro operand member
        rw [Formula.operands_map, List.mem_map] at member
        obtain ⟨symbol, isOperand, rfl⟩ := member
        obtain ⟨isToken, isKind⟩ := derives.operands symbol isOperand
        obtain ⟨value, isValue⟩ := operands symbol isOperand
        apply legal_operandOf plain isNames _ isValue
        have shaped := tokenizeCondition_shape tokenized symbol isToken
        exact shaped.resolve_left (kindOf_eq_operand.mp isKind)
      · have same : (formula.map operandOf).map Operand.token = formula :=
          Formula.map_map_eq formula fun symbol _ => token_operandOf symbol
        rw [Expression.Written, same]
        exact derives

/-! ## Reasons -/

/-- Only a match has reasons. -/
def Reasoned (verdict : Verdict) : Prop :=
  verdict.1 = false → verdict.2 = []

theorem evaluateNamed_reasoned {matcher : Matcher} {selections : Selections}
    {name : String} {verdict : Verdict}
    (evaluated : evaluateNamed matcher selections name = .ok verdict) :
    Reasoned verdict := by
  have branches (names : List Json) {verdict : Verdict}
      (evaluated : matchBranches matcher name names = .ok verdict) :
      Reasoned verdict := by
    induction names with
    | nil =>
        cases evaluated
        exact fun _ => rfl
    | cons branch branches induction =>
        cases branch with
        | obj criteria =>
            obtain ⟨⟨matched, reasons⟩, -, continued⟩ := bind_eq_ok.mp evaluated
            cases matched with
            | true =>
                cases continued
                exact nofun
            | false => exact induction continued
        | _ => cases evaluated
  unfold evaluateNamed at evaluated
  split at evaluated
  · cases evaluated
  · exact branches _ evaluated
  · exact branches _ evaluated

theorem evaluateAny_reasoned {matcher : Matcher} {selections : Selections}
    {names : List String} {verdict : Verdict}
    (evaluated : evaluateAny matcher selections names = .ok verdict) :
    Reasoned verdict := by
  induction names with
  | nil =>
      cases evaluated
      exact fun _ => rfl
  | cons name names induction =>
      obtain ⟨⟨matched, reasons⟩, -, continued⟩ := bind_eq_ok.mp evaluated
      cases matched with
      | true =>
          cases continued
          exact nofun
      | false => exact induction continued

theorem evaluateEach_reasoned {matcher : Matcher} {selections : Selections}
    {names allReasons : List String} {verdict : Verdict}
    (evaluated : evaluateEach matcher selections allReasons names =
      .ok verdict) :
    Reasoned verdict ∧ (names = [] → verdict.2 = allReasons) := by
  induction names generalizing allReasons with
  | nil =>
      cases evaluated
      exact ⟨nofun, fun _ => rfl⟩
  | cons name names induction =>
      refine ⟨?_, nofun⟩
      obtain ⟨⟨matched, reasons⟩, -, continued⟩ := bind_eq_ok.mp evaluated
      cases matched with
      | true => exact (induction continued).1
      | false =>
          cases continued
          exact fun _ => rfl

theorem evaluateAll_reasoned {matcher : Matcher} {selections : Selections}
    {names : List String} {verdict : Verdict}
    (evaluated : evaluateAll matcher selections names = .ok verdict) :
    Reasoned verdict := by
  obtain ⟨⟨matched, reasons⟩, each, returned⟩ := bind_eq_ok.mp evaluated
  cases returned
  obtain ⟨reasoned, unchanged⟩ := evaluateEach_reasoned each
  intro isFalse
  cases names with
  | nil => exact unchanged rfl
  | cons name names =>
      apply reasoned
      simpa using isFalse

theorem conditionActions_reasoned (matcher : Matcher)
    (selections : Selections) :
    Precedence.Keeps (conditionActions matcher selections) Reasoned where
  operand symbol verdict evaluated := by
    change evaluateSymbol matcher selections symbol = _ at evaluated
    unfold evaluateSymbol at evaluated
    split at evaluated
    · exact evaluateAny_reasoned evaluated
    · split at evaluated
      · exact evaluateAll_reasoned evaluated
      · exact evaluateNamed_reasoned evaluated
  negate _ _ := fun _ => rfl
  both left right _ _ := by
    change Reasoned (if _ then _ else _)
    split
    · next isBoth =>
        intro isFalse
        rw [Bool.and_eq_true] at isBoth
        rw [isBoth.1] at isFalse
        cases isFalse
    · exact fun _ => rfl
  either left right isLeft _ := by
    change Reasoned (if _ then _ else _)
    split
    · exact nofun
    · exact isLeft

theorem evaluateCondition_reasoned {matcher : Matcher} {text : String}
    {selections : Selections} {verdict : Verdict}
    (evaluated : evaluateCondition matcher text selections = .ok verdict) :
    Reasoned verdict := by
  obtain ⟨tokens, -, ran⟩ := bind_eq_ok.mp evaluated
  exact Precedence.run_keeps (conditionActions_reasoned matcher selections) ran

/-- The rules of these selections mean their conditions. -/
theorem means_of_plain {names : List String} (plain : Plain names) :
    Means names where
  rendered _ _ _ isNames assigns _ _ legal rendered :=
    plain_rendered plain isNames assigns legal rendered
  rejected _ illegal matcher selections isNames :=
    plain_rejected plain illegal matcher selections isNames
  unreasoned _ _ _ _ _ evaluated := evaluateCondition_reasoned evaluated rfl

/-! ## Selections with any truth values -/

/-- One criterion for each selection: its own name. -/
def chosenSelections (names : List String) : Selections :=
  names.map fun name => (name, .obj [(name, .null)])

def chosenMatcher (truth : String → Bool) : Matcher :=
  fun expression _ => .ok (truth expression)

theorem names_chosenSelections (names : List String) :
    (chosenSelections names).names = names := by
  simp [chosenSelections, Selections.names, Function.comp_def]

theorem lookup_chosenSelections {names : List String} {name : String}
    (member : name ∈ names) :
    (chosenSelections names).lookup name = some (.obj [(name, .null)]) := by
  induction names with
  | nil => cases member
  | cons first names induction =>
      by_cases same : name = first
      · rw [same]
        exact List.lookup_cons_self
      · have later : name ∈ names :=
          (List.mem_cons.mp member).resolve_left same
        have different : (name == first) = false := beq_false_of_ne same
        change ((first, _) :: chosenSelections names).lookup name = _
        rw [List.lookup_cons, different]
        exact induction later

theorem evaluateNamed_chosen {names : List String} {name : String}
    (truth : String → Bool) (member : name ∈ names) :
    ∃ reasons, evaluateNamed (chosenMatcher truth) (chosenSelections names)
      name = .ok (truth name, reasons) := by
  unfold evaluateNamed
  rw [lookup_chosenSelections member]
  change ∃ reasons, matchBranches (chosenMatcher truth) name
    [.obj [(name, .null)]] = _
  cases isTrue : truth name with
  | true =>
      refine ⟨[name ++ " matched " ++ safeExpected .null], ?_⟩
      simp [matchBranches, matchMapping, chosenMatcher, isTrue]
      rfl
  | false =>
      refine ⟨[], ?_⟩
      simp [matchBranches, matchMapping, chosenMatcher, isTrue]
      rfl

theorem assigns_chosen (names : List String) (truth : String → Bool) :
    Assigns (chosenMatcher truth) (chosenSelections names) truth := by
  intro name member
  rw [names_chosenSelections] at member
  exact evaluateNamed_chosen truth member

/-! ## A rule that means its conditions is plain -/

section Necessity

variable {names : List String} (means : Means names)

include means

/-- The rule is evaluated to the value of an expression of one operand. -/
theorem Means.operand {operand : Operand} {text : String}
    (legal : operand.legal names = true)
    (spells : Spells text.toList operand.token) (truth : String → Bool) :
    ∃ reasons, evaluateCondition (chosenMatcher truth) text
      (chosenSelections names) = .ok (operand.value names truth, reasons) := by
  apply means.rendered _ _ _ (names_chosenSelections names)
    (assigns_chosen names truth) text (.operand operand)
  · intro other member
    rw [Formula.operands, List.mem_singleton] at member
    rw [member]
    exact legal
  · refine ⟨[operand.token], ?_, ?_⟩
    · apply Derives.ofConjunct
      apply Derives.ofNegated
      apply Derives.ofPrimary
      exact Derives.operand (kindOf_token legal)
    · have spaced : Spaced ([] ++ (text.toList ++ [])) [operand.token] := by
        apply Spaced.cons rfl spells
        · refine .inr (.inr fun _ isHead => ?_)
          cases isHead
        · exact Spaced.nil rfl
      rw [List.nil_append, List.append_nil] at spaced
      exact spaced

/-- A symbol that is no operand of an expression is rejected. -/
theorem Means.symbol {text symbol : String}
    (tokenized : tokenizeCondition text = .ok [symbol])
    (stray : ∀ operand : Operand, operand.legal names = true →
      operand.token ≠ symbol)
    (truth : String → Bool) :
    ∃ failure, evaluateCondition (chosenMatcher truth) text
      (chosenSelections names) = .error failure := by
  apply means.rejected text _ _ _ (names_chosenSelections names)
  rintro ⟨tokens, expression, again, legal, written⟩
  rw [tokenized] at again
  cases again
  have operands := Derives.operands written
  rw [Formula.operands_map] at operands
  obtain ⟨operand, member⟩ :=
    List.exists_mem_of_ne_nil _ expression.operands_ne_nil
  have isToken := (operands _ (List.mem_map_of_mem member)).1
  exact stray operand (legal operand member) (List.mem_singleton.mp isToken)

end Necessity

theorem evaluateCondition_single {matcher : Matcher} {selections : Selections}
    {text symbol : String} (tokenized : tokenizeCondition text = .ok [symbol])
    (plain : kindOf symbol ≠ .opening ∧ kindOf symbol ≠ .closing ∧
      kindOf symbol ≠ .negation) :
    evaluateCondition matcher text selections =
      evaluateSymbol matcher selections symbol := by
  rw [evaluateCondition, tokenized]
  exact Precedence.run_single plain

theorem candidates_all (names : List String) : candidates names "*" = names := by
  apply List.filter_eq_self.mpr
  intro name _
  change name.toList.tails.any (fun rest => fnmatch [] rest) = true
  apply List.any_eq_true.mpr
  exact ⟨[], (List.mem_tails _ _).mpr List.nil_suffix, rfl⟩

theorem evaluateEach_ne_false {matcher : Matcher} {selections : Selections}
    {names : List String}
    (holds : ∀ name ∈ names, ∀ reasons,
      evaluateNamed matcher selections (Text.strip name) ≠ .ok (false, reasons))
    (allReasons reasons : List String) :
    evaluateEach matcher selections allReasons names ≠ .ok (false, reasons) := by
  induction names generalizing allReasons with
  | nil => nofun
  | cons name names induction =>
      intro evaluated
      obtain ⟨⟨matched, found⟩, isNamed, continued⟩ := bind_eq_ok.mp evaluated
      cases matched with
      | true =>
          exact induction
            (fun name member => holds name (List.mem_cons_of_mem _ member))
            _ continued
      | false => exact holds name List.mem_cons_self found isNamed

/-- Where all selections but one match, `all of *` looks it up under its
stripped name. -/
theorem Means.stripped {names : List String} (means : Means names) :
    ∀ name ∈ names, Text.strip name = name := by
  intro name member
  by_contra changes
  have legal : (Operand.allOf ['*']).legal names = true := rfl
  have tokenized : tokenizeCondition "all of *" = .ok ["all of *"] := by
    decide +kernel
  have spells : Spells "all of *".toList (Operand.allOf ['*']).token :=
    @Spells.quantifier ['a', 'l', 'l'] [' '] [' '] ['*'] (by decide) rfl rfl rfl
  obtain ⟨reasons, evaluated⟩ :=
    means.operand legal spells fun other => !decide (other = name)
  have isFalse : (Operand.allOf ['*']).value names
      (fun other => !decide (other = name)) = false := by
    change (!(candidates names "*").isEmpty &&
      (candidates names "*").all _) = false
    rw [candidates_all, Bool.and_eq_false_iff]
    right
    exact List.all_eq_false.mpr ⟨name, member, by simp⟩
  rw [isFalse, evaluateCondition_single tokenized (by decide)] at evaluated
  have symbol : evaluateAll (chosenMatcher fun other => !decide (other = name))
      (chosenSelections names)
      (candidates (chosenSelections names).names "*") =
        .ok (false, reasons) := evaluated
  rw [candidates_all, names_chosenSelections] at symbol
  obtain ⟨⟨matched, found⟩, each, returned⟩ := bind_eq_ok.mp symbol
  have nonempty : names.isEmpty = false := by
    cases names with
    | nil => cases member
    | cons => rfl
  have unmatched : matched = false := by
    cases matched with
    | false => rfl
    | true =>
        rw [nonempty] at returned
        cases returned
  rw [unmatched] at each
  refine evaluateEach_ne_false ?_ _ _ each
  intro other _ others named
  have known := evaluateNamed_known named
  rw [names_chosenSelections] at known
  obtain ⟨same, isNamed⟩ := evaluateNamed_chosen
    (fun other => !decide (other = name)) known
  rw [named] at isNamed
  have isName : Text.strip other = name := by
    have verdicts := Except.ok.inj isNamed
    simpa using congrArg Prod.fst verdicts
  apply changes
  rw [← isName, Text.strip_strip]

/-! ### Stray tokens -/

theorem matchQuantifier_head {letter : Char} {letters text after : List Char}
    {token : String}
    (found : matchQuantifier (letter :: letters) text = some (token, after)) :
    ∃ first rest, text = first :: rest ∧ first.toLower = letter := by
  unfold matchQuantifier at found
  simp only [Option.bind_eq_bind, Option.bind_eq_some_iff] at found
  obtain ⟨⟨matched, afterLetters⟩, isMatch, -⟩ := found
  obtain ⟨split, lower⟩ := matchLetters_eq_some isMatch
  cases matched with
  | nil => cases lower
  | cons first matched =>
      rw [List.map_cons, List.cons.injEq] at lower
      exact ⟨first, matched ++ afterLetters, split, lower.1⟩

theorem isQuantifier_head {token : String}
    (isQuantifier : isQuantifier token = true) :
    ∃ first rest, token.toList = first :: rest ∧
      (first.toLower = '1' ∨ first.toLower = 'a') := by
  obtain ⟨letters, member, found⟩ := List.any_eq_true.mp isQuantifier
  have isMatch := of_decide_eq_true found
  simp only [quantifiers, List.mem_cons, List.not_mem_nil, or_false] at member
  rcases member with rfl | rfl
  · obtain ⟨first, rest, split, lower⟩ := matchQuantifier_head isMatch
    exact ⟨first, rest, split, .inl lower⟩
  · obtain ⟨first, rest, split, lower⟩ := matchQuantifier_head isMatch
    exact ⟨first, rest, split, .inr lower⟩

theorem matchToken_isQuantifier {token : String}
    (isQuantifier : isQuantifier token = true) :
    matchToken token.toList = some (token, []) := by
  obtain ⟨letters, member, found⟩ := List.any_eq_true.mp isQuantifier
  have isMatch := of_decide_eq_true found
  simp only [quantifiers, List.mem_cons, List.not_mem_nil, or_false] at member
  unfold matchToken
  rcases member with rfl | rfl
  · rw [isMatch]
    rfl
  · -- The text does not begin with both quantifiers.
    have unmatched : matchQuantifier ['1'] token.toList = none := by
      cases other : matchQuantifier ['1'] token.toList with
      | none => rfl
      | some result =>
          obtain ⟨first, rest, split, lower⟩ := matchQuantifier_head isMatch
          obtain ⟨head, tail, again, digit⟩ := matchQuantifier_head other
          rw [split] at again
          cases again
          rw [lower] at digit
          cases digit
    rw [unmatched, isMatch]
    rfl

/-- A quantifier is one token. -/
theorem tokenizeCondition_quantifier {token : String}
    (isQuantifier : isQuantifier token = true) :
    tokenizeCondition token = .ok [token] := by
  obtain ⟨first, rest, split, lower⟩ := isQuantifier_head isQuantifier
  have isName : isNameChar first = true := by
    apply isNameChar_of_toLower
    rcases lower with same | same
    · rw [same]
      rfl
    · rw [same]
      rfl
  have found : matchToken (token.toList.dropWhile Text.isSpace) =
      some (token, []) := by
    rw [← matchToken_isQuantifier isQuantifier, split,
      List.dropWhile_cons_of_neg (by simp [(isNameChar_apart isName).1])]
  unfold tokenizeCondition
  have tokenized := @tokenizeFrom_match token.toList [] token [] rest.length found
    (by cases rest.length <;> rfl)
  have count : token.toList.length = rest.length + 1 := by
    rw [split, List.length_cons]
  rw [count, tokenized]
  rfl

theorem tokenizeCondition_stray {token : String}
    (stray : isStray token = true) : tokenizeCondition token = .ok [token] := by
  unfold isStray at stray
  rw [Bool.or_eq_true] at stray
  rcases stray with bare | quantified
  · have tokenized : ∀ token ∈ ["and", "or"],
        tokenizeCondition token = .ok [token] := by
      decide +kernel
    exact tokenized token (List.contains_iff_mem.mp bare)
  · rw [Bool.and_eq_true, Bool.and_eq_true] at quantified
    exact tokenizeCondition_quantifier quantified.1.1

theorem kindOf_stray {token : String} (stray : isStray token = true) :
    kindOf token ≠ .opening ∧ kindOf token ≠ .closing ∧
      kindOf token ≠ .negation := by
  have refused : ∀ symbol ∈ symbols, kindOf symbol = .opening ∨
      kindOf symbol = .closing ∨ kindOf symbol = .negation →
      isStray symbol = false := by
    decide
  by_cases isSymbol : token ∈ symbols
  · have kept := refused token isSymbol
    rw [stray] at kept
    refine ⟨fun isKind => ?_, fun isKind => ?_, fun isKind => ?_⟩
    · exact absurd (kept (.inl isKind)) nofun
    · exact absurd (kept (.inr (.inl isKind))) nofun
    · exact absurd (kept (.inr (.inr isKind))) nofun
  · rw [kindOf_eq_operand.mpr isSymbol]
    exact ⟨nofun, nofun, nofun⟩

theorem isStray_unmatched {token : String} (stray : isStray token = true) :
    patternOf "1" token = none ∧ patternOf "all" token = none := by
  unfold isStray at stray
  rw [Bool.or_eq_true] at stray
  rcases stray with bare | quantified
  · have unmatched : ∀ token ∈ ["and", "or"],
        patternOf "1" token = none ∧ patternOf "all" token = none := by
      decide
    exact unmatched token (List.contains_iff_mem.mp bare)
  · rw [Bool.and_eq_true, Bool.and_eq_true, Option.isNone_iff_eq_none,
      Option.isNone_iff_eq_none] at quantified
    exact ⟨quantified.1.2, quantified.2⟩

theorem token_ne_stray {names : List String} {operand : Operand}
    (legal : operand.legal names = true) {symbol : String}
    (stray : isStray symbol = true) : operand.token ≠ symbol := by
  rintro rfl
  obtain ⟨one, all⟩ := isStray_unmatched stray
  cases operand with
  | named name =>
      simp only [Operand.legal, Bool.and_eq_true] at legal
      unfold isStray at stray
      rw [Bool.or_eq_true] at stray
      rcases stray with bare | quantified
      · have refused : ∀ token ∈ ["and", "or"], isName token = false := by
          decide
        rw [Operand.token, List.contains_iff_mem] at bare
        rw [refused name bare] at legal
        cases legal.2
      · rw [Bool.and_eq_true, Bool.and_eq_true] at quantified
        have notName := isName_of_isQuantifier quantified.1.1
        rw [Operand.token, legal.2] at notName
        cases notName
  | oneOf pattern =>
      have found := @patternOf_quantifierToken ['1'] pattern legal
      rw [Operand.token] at one
      change patternOf "1" _ = _ at found
      rw [found] at one
      cases one
  | allOf pattern =>
      have found := @patternOf_quantifierToken ['a', 'l', 'l'] pattern legal
      rw [Operand.token] at all
      change patternOf "all" _ = _ at found
      rw [found] at all
      cases all

theorem Means.noStray {names : List String} (means : Means names) :
    ∀ name ∈ names, isStray name = false := by
  intro name member
  by_contra stray
  rw [Bool.not_eq_false] at stray
  have tokenized := tokenizeCondition_stray stray
  obtain ⟨failure, failed⟩ := means.symbol tokenized
    (fun operand legal => token_ne_stray legal stray) fun _ => true
  have plain := kindOf_stray stray
  obtain ⟨one, all⟩ := isStray_unmatched stray
  obtain ⟨reasons, evaluated⟩ :=
    evaluateNamed_chosen (fun _ => true) member
  rw [evaluateCondition_single tokenized plain,
    evaluateSymbol_unmatched one all, evaluated] at failed
  cases failed

/-! ### Identifiers -/

theorem matchKeyword_eq_some {letters text rest : List Char} {token : String}
    (found : matchKeyword letters text = some (token, rest)) :
    token = String.ofList letters ∧ endsWord rest = true ∧
      ∃ matched, text = matched ++ rest ∧
        matched.map Char.toLower = letters := by
  unfold matchKeyword at found
  simp only [Option.bind_eq_bind, Option.bind_eq_some_iff] at found
  obtain ⟨⟨matched, afterLetters⟩, isMatch, built⟩ := found
  split at built
  · next ends =>
      cases built
      exact ⟨rfl, ends, matched, matchLetters_eq_some isMatch⟩
  · cases built

theorem matchKeyword_head {letter : Char} {letters text rest : List Char}
    {token : String}
    (found : matchKeyword (letter :: letters) text = some (token, rest)) :
    ∃ first remaining, text = first :: remaining ∧ first.toLower = letter := by
  obtain ⟨-, -, matched, split, lower⟩ := matchKeyword_eq_some found
  cases matched with
  | nil => cases lower
  | cons first matched =>
      rw [List.map_cons, List.cons.injEq] at lower
      exact ⟨first, matched ++ rest, split, lower.1⟩

/-- At most one keyword begins a text: they begin with different letters. -/
theorem matchKeyword_unique {letters other text rest : List Char}
    {token : String} (isKeyword : letters ∈ keywords)
    (isOther : other ∈ keywords) (different : other ≠ letters)
    (found : matchKeyword letters text = some (token, rest)) :
    matchKeyword other text = none := by
  cases again : matchKeyword other text with
  | none => rfl
  | some result =>
      have heads : ∀ first ∈ keywords, ∀ second ∈ keywords,
          first.head? = second.head? → first = second := by
        decide
      have nonempty : ∀ keyword ∈ keywords, keyword ≠ [] := by
        decide
      refine absurd (heads other isOther letters isKeyword ?_) different
      cases letters with
      | nil => exact absurd rfl (nonempty [] isKeyword)
      | cons letter letters =>
          cases other with
          | nil => exact absurd rfl (nonempty [] isOther)
          | cons otherLetter other =>
              obtain ⟨first, remaining, split, lower⟩ := matchKeyword_head found
              obtain ⟨head, tail, otherSplit, otherLower⟩ :=
                matchKeyword_head again
              rw [split] at otherSplit
              cases otherSplit
              rw [List.head?_cons, List.head?_cons, ← lower, ← otherLower]

/-- The text of a name that begins like a keyword. -/
theorem matchToken_beginsLikeKeyword {text : List Char}
    (allName : ∀ character ∈ text, isNameChar character = true)
    {letters rest : List Char} {token : String} (isKeyword : letters ∈ keywords)
    (found : matchKeyword letters text = some (token, rest)) :
    matchToken text = some (String.ofList letters, rest) := by
  have noQuantifier : ∀ quantifier ∈ quantifiers,
      matchQuantifier quantifier text = none := by
    intro quantifier member
    have unmatched := @matchQuantifier_name quantifier text []
      (List.all_eq_true.mp (quantifiers_allName quantifier member)) allName
      nofun nofun
    rw [List.append_nil] at unmatched
    exact unmatched
  have isToken := (matchKeyword_eq_some found).1
  rw [isToken] at found
  unfold matchToken
  rw [noQuantifier ['1'] (by decide), noQuantifier ['a', 'l', 'l'] (by decide)]
  have unique := fun other isOther different =>
    @matchKeyword_unique letters other text rest _ isKeyword isOther different
      found
  simp only [keywords, List.mem_cons, List.not_mem_nil, or_false] at isKeyword
  rcases isKeyword with rfl | rfl | rfl
  · rw [found]
    rfl
  · rw [unique ['a', 'n', 'd'] (by decide) (by decide), found]
    rfl
  · rw [unique ['a', 'n', 'd'] (by decide) (by decide),
      unique ['o', 'r'] (by decide) (by decide), found]
    rfl

theorem dropWhile_allName {text : List Char}
    (allName : ∀ character ∈ text, isNameChar character = true) :
    text.dropWhile Text.isSpace = text := by
  cases text with
  | nil => rfl
  | cons first text =>
      have isName := allName first List.mem_cons_self
      rw [List.dropWhile_cons_of_neg (by simp [(isNameChar_apart isName).1])]

/-- What follows the keyword is a name of its own. -/
theorem isName_afterKeyword {next : Char} {rest : List Char}
    (allName : ∀ character ∈ next :: rest, isNameChar character = true)
    (ends : endsWord (next :: rest) = true) :
    isName (String.ofList (next :: rest)) = true ∧
      beginsLikeKeyword (next :: rest) = false := by
  have isName := allName next List.mem_cons_self
  have mark : next ∈ ['*', '?', '-'] := by
    simpa [endsWord, isName] using ends
  have apart : ∀ keyword ∈ keywords, ['*', '?', '-'].all (fun mark =>
      keyword.head? != some mark && keyword.head? != some mark.toLower) := by
    decide
  have noLetter := fun keyword member =>
    List.all_eq_true.mp (apart keyword member) next mark
  have nonempty : ∀ keyword ∈ keywords, keyword ≠ [] := by
    decide
  have noKeyword : ∀ keyword ∈ keywords,
      matchKeyword keyword (next :: rest) = none := by
    intro keyword member
    cases found : matchKeyword keyword (next :: rest) with
    | none => rfl
    | some result =>
        cases keyword with
        | nil => exact absurd rfl (nonempty [] member)
        | cons letter letters =>
            obtain ⟨first, remaining, split, lower⟩ := matchKeyword_head found
            cases split
            simpa [lower] using noLetter _ member
  constructor
  · rw [isName_iff, String.toList_ofList]
    refine ⟨List.cons_ne_nil _ _, allName, fun member => ?_⟩
    simpa using noLetter _ member
  · unfold beginsLikeKeyword
    rw [List.any_eq_false]
    intro keyword member
    rw [noKeyword keyword member]
    exact Bool.false_ne_true

/-- An identifier that begins like a keyword is split. -/
theorem tokenizeCondition_beginsLikeKeyword {token : String}
    (valid : isName token = true)
    (begins : beginsLikeKeyword token.toList = true) :
    ∃ letters ∈ keywords,
      tokenizeCondition token = .ok [String.ofList letters] ∨
      ∃ rest, isName rest = true ∧
        tokenizeCondition token = .ok [String.ofList letters, rest] := by
  obtain ⟨letters, isKeyword, matched⟩ := List.any_eq_true.mp begins
  obtain ⟨⟨keyword, rest⟩, found⟩ := Option.isSome_iff_exists.mp matched
  have allName := (isName_iff.mp valid).2.1
  have first := matchToken_beginsLikeKeyword allName isKeyword found
  obtain ⟨-, ends, beginning, split, lower⟩ := matchKeyword_eq_some found
  refine ⟨letters, isKeyword, ?_⟩
  have positive : 0 < beginning.length := by
    have nonempty : ∀ keyword ∈ keywords, 0 < keyword.length := by
      decide
    rw [← List.length_map Char.toLower, lower]
    exact nonempty letters isKeyword
  obtain ⟨count, isCount⟩ : ∃ count, token.toList.length =
      count + rest.length + 1 := by
    refine ⟨beginning.length - 1, ?_⟩
    rw [split, List.length_append]
    omega
  rw [← dropWhile_allName allName] at first
  cases rest with
  | nil =>
      left
      have tokenized : tokenizeFrom (count + 1) token.toList =
          .ok [String.ofList letters] := by
        apply tokenizeFrom_match first
        cases count <;> rfl
      unfold tokenizeCondition
      rw [isCount, List.length_nil, Nat.add_zero, tokenized]
      rfl
  | cons next rest =>
      right
      have restName : ∀ character ∈ next :: rest,
          isNameChar character = true := by
        intro character member
        apply allName
        rw [split]
        exact List.mem_append_right _ member
      obtain ⟨isRest, plain⟩ := isName_afterKeyword restName ends
      refine ⟨String.ofList (next :: rest), isRest, ?_⟩
      have second := @matchToken_name (String.ofList (next :: rest)) []
        isRest (by rw [String.toList_ofList]; exact plain) nofun nofun
      have secondFound : matchToken ((next :: rest).dropWhile Text.isSpace) =
          some (String.ofList (next :: rest), []) := by
        rw [dropWhile_allName restName, ← second, String.toList_ofList,
          List.append_nil]
      have later : tokenizeFrom (count + rest.length + 1) (next :: rest) =
          .ok [String.ofList (next :: rest)] := by
        apply tokenizeFrom_match secondFound
        cases count + rest.length <;> rfl
      have tokenized := tokenizeFrom_match first later
      unfold tokenizeCondition
      rw [isCount, List.length_cons, ← Nat.add_assoc, tokenized]
      rfl

/-- A condition does not begin with a binary operator. -/
theorem not_written_operator {token : String} {tokens : List String}
    (isOperator : kindOf token = .conjunction ∨ kindOf token = .disjunction)
    (expression : Expression) : ¬ expression.Written (token :: tokens) := by
  intro written
  obtain ⟨first, rest, split, isFirst⟩ := Derives.head written
  cases split
  rcases isOperator with isKind | isKind
  · rw [isKind] at isFirst
    rcases isFirst with other | other | other <;> cases other
  · rw [isKind] at isFirst
    rcases isFirst with other | other | other <;> cases other

theorem Means.identifiers {names : List String} (means : Means names) :
    ∀ name ∈ names, isName name = true →
      beginsLikeKeyword name.toList = false := by
  intro name member valid
  by_contra begins
  rw [Bool.not_eq_false] at begins
  have legal : (Operand.named name).legal names = true := by
    simp [Operand.legal, member, valid]
  obtain ⟨reasons, evaluated⟩ := @Means.operand names means (.named name) name
    legal (Spells.name valid) fun _ => true
  have kinds : ∀ letters ∈ keywords,
      kindOf (String.ofList letters) = .negation ∨
      kindOf (String.ofList letters) = .conjunction ∨
      kindOf (String.ofList letters) = .disjunction := by
    decide
  obtain ⟨letters, isKeyword, alone | ⟨rest, isRest, followed⟩⟩ :=
    tokenizeCondition_beginsLikeKeyword valid begins
  · have notOperand : kindOf (String.ofList letters) ≠ .operand := by
      intro isOperand
      have isKind := kinds letters isKeyword
      rw [isOperand] at isKind
      rcases isKind with other | other | other <;> cases other
    obtain ⟨failure, failed⟩ := means.symbol alone (fun operand isLegal same =>
      notOperand (same ▸ kindOf_token isLegal)) fun _ => true
    rw [evaluated] at failed
    cases failed
  · rcases kinds letters isKeyword with negates | isOperator
    · -- The name is evaluated as the negation of another.
      have restPlain : kindOf rest ≠ .opening ∧ kindOf rest ≠ .closing ∧
          kindOf rest ≠ .negation := by
        rw [kindOf_name isRest]
        exact ⟨nofun, nofun, nofun⟩
      have ran := @Precedence.run_negation _ _ _
        (conditionActions (chosenMatcher fun _ => true)
          (chosenSelections names)) rest restPlain (String.ofList letters) negates
      rw [evaluateCondition, followed] at evaluated
      have negated := ran.symm.trans evaluated
      change (evaluateSymbol _ _ rest >>= fun value => pure (!value.1, [])) = _
        at negated
      rw [evaluateSymbol_unmatched (@patternOf_name ['1'] rest isRest)
        (@patternOf_name ['a', 'l', 'l'] rest isRest)] at negated
      obtain ⟨verdict, named, returned⟩ := bind_eq_ok.mp negated
      have known := evaluateNamed_known named
      rw [names_chosenSelections] at known
      obtain ⟨found, isNamed⟩ := evaluateNamed_chosen (fun _ => true) known
      rw [named] at isNamed
      cases isNamed
      cases returned
    · obtain ⟨failure, failed⟩ := means.rejected name (by
        rintro ⟨tokens, expression, again, -, written⟩
        rw [followed] at again
        cases again
        exact not_written_operator isOperator expression written)
        (chosenMatcher fun _ => true) (chosenSelections names)
        (names_chosenSelections names)
      rw [evaluated] at failed
      cases failed

/-- The conditions of a rule mean their expressions if and only if its
selections are plain. -/
theorem condition_means_iff (names : List String) :
    Means names ↔ Plain names := by
  constructor
  · intro means
    exact ⟨means.identifiers, means.stripped, means.noStray⟩
  · exact means_of_plain

/-- The regular expression takes `not-admin` for a negation of `-admin`. -/
theorem hyphenated_negation_fails :
    Expression.Legal ["not-admin"] (.operand (.named "not-admin")) ∧
      Expression.Rendered "not-admin" (.operand (.named "not-admin")) ∧
      Assigns (chosenMatcher fun _ => true) (chosenSelections ["not-admin"])
        (fun _ => true) ∧
      evaluateCondition (chosenMatcher fun _ => true) "not-admin"
          (chosenSelections ["not-admin"]) =
        .error (.value "unknown selection in condition: -admin") ∧
      ¬ Means ["not-admin"] := by
  have legal : Expression.Legal ["not-admin"]
      (.operand (.named "not-admin")) := by
    intro operand member
    rw [Formula.operands, List.mem_singleton] at member
    rw [member]
    decide
  have rendered : Expression.Rendered "not-admin"
      (.operand (.named "not-admin")) := by
    refine ⟨["not-admin"], ?_, ?_⟩
    · exact .ofConjunct (.ofNegated (.ofPrimary (.operand (by decide))))
    · apply @Spaced.cons [] "not-admin".toList [] "not-admin" [] rfl
        (Spells.name (by decide))
      · refine .inr (.inr fun _ isHead => ?_)
        cases isHead
      · exact Spaced.nil rfl
  have failed : evaluateCondition (chosenMatcher fun _ => true) "not-admin"
      (chosenSelections ["not-admin"]) =
        .error (.value "unknown selection in condition: -admin") := by
    decide +kernel
  have assigns := assigns_chosen ["not-admin"] fun _ => true
  refine ⟨legal, rendered, assigns, failed, fun means => ?_⟩
  obtain ⟨reasons, evaluated⟩ := means.rendered _ _ _
    (names_chosenSelections _) assigns "not-admin" _ legal rendered
  rw [failed] at evaluated
  cases evaluated

end Detection

end ControlForge
