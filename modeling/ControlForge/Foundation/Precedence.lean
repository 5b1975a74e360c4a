import Mathlib.Data.List.Basic
import Mathlib.Data.List.Chain
import ControlForge.Foundation.Transaction

/-!
# Expressions with two binary operators

A grammar of negations, conjunctions and disjunctions with parentheses, in
which negation binds tightest and disjunction loosest, over any tokens; and the
recursive descent that parses and evaluates in one pass, with the actions as
parameters.

A flat chain of one operator derives every way of nesting it.  `run_complete`
says that what the grammar derives is evaluated to its meaning, and `run_sound`
that whatever is evaluated is derivable.
-/

namespace ControlForge

namespace Precedence

/-! ## The grammar -/

/-- What a token is to the grammar. -/
inductive Kind where
  | opening
  | closing
  | negation
  | conjunction
  | disjunction
  | operand
deriving DecidableEq

inductive Formula (Token : Type) where
  | operand (token : Token)
  | negation (inner : Formula Token)
  | conjunction (left right : Formula Token)
  | disjunction (left right : Formula Token)

namespace Formula

variable {Token : Type}

def value (truth : Token → Bool) : Formula Token → Bool
  | .operand token => truth token
  | .negation inner => !inner.value truth
  | .conjunction left right => left.value truth && right.value truth
  | .disjunction left right => left.value truth || right.value truth

def operands : Formula Token → List Token
  | .operand token => [token]
  | .negation inner => inner.operands
  | .conjunction left right | .disjunction left right =>
      left.operands ++ right.operands

theorem operands_ne_nil (formula : Formula Token) : formula.operands ≠ [] := by
  induction formula with
  | operand token => exact List.cons_ne_nil _ _
  | negation inner induction => exact induction
  | conjunction left right leftInduction
  | disjunction left right leftInduction =>
      exact List.append_ne_nil_of_left_ne_nil leftInduction _

def map {Atom : Type} (function : Token → Atom) :
    Formula Token → Formula Atom
  | .operand token => .operand (function token)
  | .negation inner => .negation (inner.map function)
  | .conjunction left right =>
      .conjunction (left.map function) (right.map function)
  | .disjunction left right =>
      .disjunction (left.map function) (right.map function)

variable {Atom : Type} {function : Token → Atom}

theorem operands_map (formula : Formula Token) :
    (formula.map function).operands = formula.operands.map function := by
  induction formula with
  | operand token => rfl
  | negation inner induction => exact induction
  | conjunction left right leftInduction rightInduction
  | disjunction left right leftInduction rightInduction =>
      rw [map, operands, operands, leftInduction, rightInduction,
        List.map_append]

theorem value_map {truth : Atom → Bool} {meaning : Token → Bool}
    (formula : Formula Token)
    (agrees : ∀ token ∈ formula.operands,
      truth (function token) = meaning token) :
    (formula.map function).value truth = formula.value meaning := by
  induction formula with
  | operand token => exact agrees token (List.mem_singleton_self _)
  | negation inner induction =>
      rw [map, value, value, induction agrees]
  | conjunction left right leftInduction rightInduction
  | disjunction left right leftInduction rightInduction =>
      rw [map, value, value,
        leftInduction fun token member =>
          agrees token (List.mem_append_left _ member),
        rightInduction fun token member =>
          agrees token (List.mem_append_right _ member)]

theorem map_map_eq {back : Atom → Token} (formula : Formula Atom)
    (inverse : ∀ atom ∈ formula.operands, function (back atom) = atom) :
    (formula.map back).map function = formula := by
  induction formula with
  | operand atom =>
      rw [map, map, inverse atom (List.mem_singleton_self _)]
  | negation inner induction => rw [map, map, induction inverse]
  | conjunction left right leftInduction rightInduction
  | disjunction left right leftInduction rightInduction =>
      rw [map, map,
        leftInduction fun atom member =>
          inverse atom (List.mem_append_left _ member),
        rightInduction fun atom member =>
          inverse atom (List.mem_append_right _ member)]

end Formula

/-- How tightly an expression binds. -/
inductive Level where
  | primary
  | negated
  | conjunct
  | disjunct

section Grammar

variable {Token : Type} (kind : Token → Kind)

inductive Derives : Level → List Token → Formula Token → Prop
  | operand {token : Token} (isOperand : kind token = .operand) :
      Derives .primary [token] (.operand token)
  | parenthesized {opening closing : Token} {tokens : List Token}
      {formula : Formula Token} (opens : kind opening = .opening)
      (closes : kind closing = .closing)
      (inner : Derives .disjunct tokens formula) :
      Derives .primary (opening :: tokens ++ [closing]) formula
  | ofPrimary {tokens : List Token} {formula : Formula Token}
      (inner : Derives .primary tokens formula) :
      Derives .negated tokens formula
  | negation {keyword : Token} {tokens : List Token} {formula : Formula Token}
      (negates : kind keyword = .negation)
      (inner : Derives .negated tokens formula) :
      Derives .negated (keyword :: tokens) (.negation formula)
  | ofNegated {tokens : List Token} {formula : Formula Token}
      (inner : Derives .negated tokens formula) :
      Derives .conjunct tokens formula
  | conjunction {keyword : Token} {first second : List Token}
      {left right : Formula Token} (joins : kind keyword = .conjunction)
      (leftDerives : Derives .conjunct first left)
      (rightDerives : Derives .conjunct second right) :
      Derives .conjunct (first ++ keyword :: second) (.conjunction left right)
  | ofConjunct {tokens : List Token} {formula : Formula Token}
      (inner : Derives .conjunct tokens formula) :
      Derives .disjunct tokens formula
  | disjunction {keyword : Token} {first second : List Token}
      {left right : Formula Token} (joins : kind keyword = .disjunction)
      (leftDerives : Derives .disjunct first left)
      (rightDerives : Derives .disjunct second right) :
      Derives .disjunct (first ++ keyword :: second) (.disjunction left right)

variable {kind}

theorem Derives.length_pos {level : Level} {tokens : List Token}
    {formula : Formula Token} (derives : Derives kind level tokens formula) :
    0 < tokens.length := by
  induction derives with
  | operand => exact Nat.zero_lt_one
  | ofPrimary _ inner | ofNegated _ inner | ofConjunct _ inner => exact inner
  | parenthesized | negation => exact Nat.succ_pos _
  | conjunction _ _ _ left | disjunction _ _ _ left =>
      rw [List.length_append]
      exact Nat.add_pos_left left _

/-- Every operand of the formula is an operand token of the text. -/
theorem Derives.operands {level : Level} {tokens : List Token}
    {formula : Formula Token} (derives : Derives kind level tokens formula) :
    ∀ token ∈ formula.operands, token ∈ tokens ∧ kind token = .operand := by
  induction derives with
  | operand isOperand =>
      intro token member
      rw [Formula.operands, List.mem_singleton] at member
      rw [member]
      exact ⟨List.mem_singleton_self _, isOperand⟩
  | ofPrimary _ inner | ofNegated _ inner | ofConjunct _ inner => exact inner
  | parenthesized _ _ _ inner =>
      intro token member
      refine ⟨?_, (inner token member).2⟩
      exact List.mem_append_left _ (List.mem_cons_of_mem _ (inner token member).1)
  | negation _ _ inner =>
      intro token member
      exact ⟨List.mem_cons_of_mem _ (inner token member).1,
        (inner token member).2⟩
  | conjunction _ _ _ left right | disjunction _ _ _ left right =>
      intro token member
      rcases List.mem_append.mp member with ofLeft | ofRight
      · exact ⟨List.mem_append_left _ (left token ofLeft).1,
          (left token ofLeft).2⟩
      · refine ⟨List.mem_append_right _ ?_, (right token ofRight).2⟩
        exact List.mem_cons_of_mem _ (right token ofRight).1

theorem Derives.covers {level : Level} {tokens : List Token}
    {formula : Formula Token} (derives : Derives kind level tokens formula) :
    ∀ token ∈ tokens, kind token = .operand → token ∈ formula.operands := by
  induction derives with
  | operand => exact fun token member _ => member
  | ofPrimary _ inner | ofNegated _ inner | ofConjunct _ inner => exact inner
  | parenthesized opens closes _ inner =>
      intro token member isOperand
      rw [List.cons_append, List.mem_cons, List.mem_append,
        List.mem_singleton] at member
      rcases member with rfl | inside | rfl
      · rw [opens] at isOperand
        cases isOperand
      · exact inner token inside isOperand
      · rw [closes] at isOperand
        cases isOperand
  | negation negates _ inner =>
      intro token member isOperand
      rcases List.mem_cons.mp member with rfl | inside
      · rw [negates] at isOperand
        cases isOperand
      · exact inner token inside isOperand
  | conjunction joins _ _ left right | disjunction joins _ _ left right =>
      intro token member isOperand
      rw [List.mem_append, List.mem_cons] at member
      rcases member with ofLeft | rfl | ofRight
      · exact List.mem_append_left _ (left token ofLeft isOperand)
      · rw [joins] at isOperand
        cases isOperand
      · exact List.mem_append_right _ (right token ofRight isOperand)

/-- The first token of an expression opens it, negates it or is an operand. -/
theorem Derives.head {level : Level} {tokens : List Token}
    {formula : Formula Token} (derives : Derives kind level tokens formula) :
    ∃ first rest, tokens = first :: rest ∧
      (kind first = .operand ∨ kind first = .opening ∨
        kind first = .negation) := by
  induction derives with
  | operand isOperand => exact ⟨_, _, rfl, .inl isOperand⟩
  | ofPrimary _ inner | ofNegated _ inner | ofConjunct _ inner => exact inner
  | parenthesized opens => exact ⟨_, _, rfl, .inr (.inl opens)⟩
  | negation negates => exact ⟨_, _, rfl, .inr (.inr negates)⟩
  | conjunction _ _ _ left | disjunction _ _ _ left =>
      obtain ⟨first, rest, split, isFirst⟩ := left
      rw [split]
      exact ⟨first, _, rfl, isFirst⟩

/-- There is an operator or a parenthesis between two operands. -/
theorem Derives.alternates {level : Level} {tokens : List Token}
    {formula : Formula Token} (derives : Derives kind level tokens formula) :
    tokens.IsChain fun left right =>
      kind left ≠ .operand ∨ kind right ≠ .operand := by
  induction derives with
  | operand => exact .singleton _
  | ofPrimary _ inner | ofNegated _ inner | ofConjunct _ inner => exact inner
  | parenthesized opens closes _ inner =>
      rw [List.cons_append, List.isChain_cons, List.isChain_append]
      refine ⟨fun _ _ => .inl ?_, inner, .singleton _, ?_⟩
      · rw [opens]
        nofun
      · rintro last - closing isClosing
        cases isClosing
        right
        rw [closes]
        nofun
  | negation negates _ inner =>
      rw [List.isChain_cons]
      refine ⟨fun _ _ => .inl ?_, inner⟩
      rw [negates]
      nofun
  | conjunction joins _ _ left right | disjunction joins _ _ left right =>
      rw [List.isChain_append, List.isChain_cons]
      refine ⟨left, ⟨fun _ _ => .inl ?_, right⟩, ?_⟩
      · rw [joins]
        nofun
      · rintro last - keyword isKeyword
        cases isKeyword
        right
        rw [joins]
        nofun

end Grammar

/-! ## Recursive descent -/

/-- What is done with the tokens, and the failures that are raised. -/
structure Actions (Token Value Failure : Type) where
  kind : Token → Kind
  operand : Token → Except Failure Value
  negate : Value → Value
  both : Value → Value → Value
  either : Value → Value → Value
  unexpectedEnd : Failure
  unclosed : Failure
  unexpectedClosing : Failure
  unexpectedToken : Token → Failure

section Descent

variable {Token Value Failure : Type} (actions : Actions Token Value Failure)

/-- A value and the tokens after it. -/
abbrev Parse (Token Value Failure : Type) : Type :=
  List Token → Except Failure (Value × List Token)

def closeParenthesis (value : Value) : Parse Token Value Failure
  | [] => .error actions.unclosed
  | token :: rest =>
      if actions.kind token = .closing then .ok (value, rest)
      else .error actions.unclosed

def parsePrimary (parseOr : Parse Token Value Failure) :
    Parse Token Value Failure
  | [] => .error actions.unexpectedEnd
  | token :: rest =>
      match actions.kind token with
      | .opening => do
          let (value, remaining) ← parseOr rest
          closeParenthesis actions value remaining
      | .closing => .error actions.unexpectedClosing
      | _ => do
          let value ← actions.operand token
          return (value, rest)

/-- As long as the keyword comes next, another operand. -/
def parseChain (keyword : Kind) (combine : Value → Value → Value)
    (parseOperand : Parse Token Value Failure) :
    Nat → Value → Parse Token Value Failure
  | count + 1, left, token :: rest =>
      if actions.kind token = keyword then do
        let (right, remaining) ← parseOperand rest
        parseChain keyword combine parseOperand count (combine left right)
          remaining
      else .ok (left, token :: rest)
  | _, left, tokens => .ok (left, tokens)

def parseOperands (keyword : Kind) (combine : Value → Value → Value)
    (parseOperand : Parse Token Value Failure) :
    Parse Token Value Failure := fun tokens => do
  let (first, rest) ← parseOperand tokens
  parseChain actions keyword combine parseOperand rest.length first rest

def parseAnd (parseNot : Parse Token Value Failure) :
    Parse Token Value Failure :=
  parseOperands actions .conjunction actions.both parseNot

def parseOr (parseNot : Parse Token Value Failure) :
    Parse Token Value Failure :=
  parseOperands actions .disjunction actions.either (parseAnd actions parseNot)

/-- The depth bounds the recursion; no expression is nested more deeply than it
has tokens. -/
def parseNot : (depth : Nat) → Parse Token Value Failure
  | 0, _ | _ + 1, [] => .error actions.unexpectedEnd
  | depth + 1, token :: rest =>
      if actions.kind token = .negation then do
        let (value, remaining) ← parseNot depth rest
        return (actions.negate value, remaining)
      else
        parsePrimary actions (parseOr actions (parseNot depth)) (token :: rest)

/-- Parse and evaluate all the tokens. -/
def run (tokens : List Token) : Except Failure Value := do
  let (value, rest) ← parseOr actions (parseNot actions tokens.length) tokens
  match rest with
  | [] => return value
  | token :: _ => throw (actions.unexpectedToken token)

section Tokens

variable {actions} {token : Token}
  (plain : actions.kind token ≠ .opening ∧ actions.kind token ≠ .closing ∧
    actions.kind token ≠ .negation)

include plain

theorem parseNot_single (depth : Nat) :
    parseNot actions (depth + 1) [token] = (do
      let value ← actions.operand token
      return (value, [])) := by
  rw [parseNot, if_neg plain.2.2]
  cases isKind : actions.kind token with
  | opening => exact absurd isKind plain.1
  | closing => exact absurd isKind plain.2.1
  | negation => exact absurd isKind plain.2.2
  | operand | conjunction | disjunction => simp only [parsePrimary, isKind]

/-- A token that is no parenthesis and no negation is evaluated. -/
theorem run_single : run actions [token] = actions.operand token := by
  simp only [run, parseOr, parseAnd, parseOperands, List.length_singleton,
    parseNot_single plain]
  cases actions.operand token with
  | error failure => rfl
  | ok value => rfl

theorem run_negation {keyword : Token}
    (negates : actions.kind keyword = .negation) :
    run actions [keyword, token] = (do
      let value ← actions.operand token
      return actions.negate value) := by
  have negated : parseNot actions 2 [keyword, token] = (do
      let value ← actions.operand token
      return (actions.negate value, [])) := by
    rw [parseNot, if_pos negates, parseNot_single plain]
    cases actions.operand token with
    | error failure => rfl
    | ok value => rfl
  simp only [run, parseOr, parseAnd, parseOperands, List.length_cons,
    List.length_nil, Nat.zero_add, Nat.reduceAdd, negated]
  cases actions.operand token with
  | error failure => rfl
  | ok value => rfl

end Tokens

/-! ### What is evaluated is derivable -/

/-- Every operand of the formula has been evaluated. -/
def Evaluated (formula : Formula Token) : Prop :=
  ∀ token ∈ formula.operands, ∃ value, actions.operand token = .ok value

/-- The parser consumes an expression of the level. -/
def Sound (level : Level) (parse : Parse Token Value Failure) : Prop :=
  ∀ tokens value rest, parse tokens = .ok (value, rest) →
    ∃ used formula, tokens = used ++ rest ∧
      Derives actions.kind level used formula ∧ Evaluated actions formula

/-- Operators are not evaluated as operands. -/
def OperatorsRefused : Prop :=
  ∀ token value, actions.kind token = .conjunction ∨
    actions.kind token = .disjunction → actions.operand token ≠ .ok value

variable {actions}

theorem sound_parsePrimary (refused : OperatorsRefused actions)
    {parseOr : Parse Token Value Failure} (sound : Sound actions .disjunct parseOr)
    {token : Token} {rest remaining : List Token} {value : Value}
    (notNegation : actions.kind token ≠ .negation)
    (parsed : parsePrimary actions parseOr (token :: rest) =
      .ok (value, remaining)) :
    ∃ used formula, token :: rest = used ++ remaining ∧
      Derives actions.kind .primary used formula ∧
      Evaluated actions formula := by
  have operandCase (evaluating : (do
        let value ← actions.operand token
        return (value, rest) : Except Failure (Value × List Token)) =
          .ok (value, remaining))
      (isKind : actions.kind token = .operand ∨
        actions.kind token = .conjunction ∨
        actions.kind token = .disjunction) :
      ∃ used formula, token :: rest = used ++ remaining ∧
        Derives actions.kind .primary used formula ∧
        Evaluated actions formula := by
    cases evaluated : actions.operand token with
    | error failure =>
        rw [evaluated] at evaluating
        cases evaluating
    | ok stored =>
        rw [evaluated] at evaluating
        cases evaluating
        rcases isKind with isOperand | isOperator
        · refine ⟨[token], .operand token, rfl, .operand isOperand, ?_⟩
          intro other member
          rw [Formula.operands, List.mem_singleton] at member
          rw [member]
          exact ⟨value, evaluated⟩
        · exact absurd evaluated (refused token value isOperator)
  dsimp only [parsePrimary] at parsed
  cases isKind : actions.kind token with
  | negation => exact absurd isKind notNegation
  | closing =>
      rw [isKind] at parsed
      cases parsed
  | opening =>
      rw [isKind] at parsed
      dsimp only at parsed
      cases inner : parseOr rest with
      | error failure =>
          rw [inner] at parsed
          cases parsed
      | ok result =>
          obtain ⟨innerValue, afterInner⟩ := result
          rw [inner] at parsed
          obtain ⟨used, formula, split, derives, evaluated⟩ :=
            sound _ _ _ inner
          change closeParenthesis actions innerValue afterInner = _ at parsed
          cases afterInner with
          | nil => cases parsed
          | cons closing afterClosing =>
              dsimp only [closeParenthesis] at parsed
              split at parsed
              · next closes =>
                  cases parsed
                  refine ⟨token :: used ++ [closing], formula, ?_,
                    .parenthesized isKind closes derives, evaluated⟩
                  simp [split]
              · cases parsed
  | operand | conjunction | disjunction =>
      rw [isKind] at parsed
      exact operandCase parsed (by simp [isKind])

/-- A token of the kind would go on an expression of the level. -/
def Continues : Level → Kind → Prop
  | .primary, _ | .negated, _ => False
  | .conjunct, kind => kind = .conjunction
  | .disjunct, kind => kind = .conjunction ∨ kind = .disjunction

/-- A binary operator: its keyword, its level and the rules of the grammar that
build the level from the next tighter one. -/
structure Operator (actions : Actions Token Value Failure) where
  keyword : Kind
  combine : Value → Value → Value
  fold : Bool → Bool → Bool
  operandLevel : Level
  level : Level
  join : Formula Token → Formula Token → Formula Token
  embed : ∀ {tokens formula}, Derives actions.kind operandLevel tokens formula →
    Derives actions.kind level tokens formula
  derivesJoin : ∀ {token first second left right},
    actions.kind token = keyword → Derives actions.kind level first left →
    Derives actions.kind level second right →
    Derives actions.kind level (first ++ token :: second) (join left right)
  invert : ∀ {tokens formula}, Derives actions.kind level tokens formula →
    Derives actions.kind operandLevel tokens formula ∨
      ∃ token first second left right, actions.kind token = keyword ∧
        tokens = first ++ token :: second ∧ formula = join left right ∧
        Derives actions.kind level first left ∧
        Derives actions.kind level second right
  operands : ∀ left right,
    (join left right).operands = left.operands ++ right.operands
  value : ∀ truth left right, (join left right).value truth =
    fold (left.value truth) (right.value truth)
  associative : Std.Associative fold
  continues : ∀ kind, Continues level kind ↔
    Continues operandLevel kind ∨ kind = keyword
  ends : ¬ Continues operandLevel keyword

def conjunctions (actions : Actions Token Value Failure) :
    Operator actions where
  keyword := .conjunction
  combine := actions.both
  fold := and
  operandLevel := .negated
  level := .conjunct
  join := .conjunction
  embed := .ofNegated
  derivesJoin := .conjunction
  invert derives := by
    cases derives with
    | ofNegated inner => exact .inl inner
    | conjunction joins left right =>
        exact .inr ⟨_, _, _, _, _, joins, rfl, rfl, left, right⟩
  operands _ _ := rfl
  value _ _ _ := rfl
  associative := ⟨Bool.and_assoc⟩
  continues kind := by simp [Continues]
  ends := id

def disjunctions (actions : Actions Token Value Failure) :
    Operator actions where
  keyword := .disjunction
  combine := actions.either
  fold := or
  operandLevel := .conjunct
  level := .disjunct
  join := .disjunction
  embed := .ofConjunct
  derivesJoin := .disjunction
  invert derives := by
    cases derives with
    | ofConjunct inner => exact .inl inner
    | disjunction joins left right =>
        exact .inr ⟨_, _, _, _, _, joins, rfl, rfl, left, right⟩
  operands _ _ := rfl
  value _ _ _ := rfl
  associative := ⟨Bool.or_assoc⟩
  continues kind := by simp [Continues]
  ends := nofun

section Operators

variable (operator : Operator actions)
  {parseOperand : Parse Token Value Failure}

theorem sound_parseChain (sound : Sound actions operator.operandLevel parseOperand)
    {count : Nat} {left value : Value} {tokens rest used : List Token}
    {formula : Formula Token}
    (derives : Derives actions.kind operator.level used formula)
    (evaluated : Evaluated actions formula)
    (parsed : parseChain actions operator.keyword operator.combine parseOperand
      count left tokens = .ok (value, rest)) :
    ∃ more whole, used ++ tokens = more ++ rest ∧
      Derives actions.kind operator.level more whole ∧
      Evaluated actions whole := by
  induction count generalizing left tokens used formula with
  | zero =>
      cases parsed
      exact ⟨used, formula, rfl, derives, evaluated⟩
  | succ count induction =>
      cases tokens with
      | nil =>
          cases parsed
          exact ⟨used, formula, rfl, derives, evaluated⟩
      | cons token tokens =>
          unfold parseChain at parsed
          split at parsed
          · next joins =>
              obtain ⟨⟨right, remaining⟩, inner, chained⟩ := bind_eq_ok.mp parsed
              obtain ⟨more, next, split, nextDerives, nextEvaluated⟩ :=
                sound _ _ _ inner
              have joined := operator.derivesJoin joins derives
                (operator.embed nextDerives)
              have bothEvaluated : Evaluated actions
                  (operator.join formula next) := by
                intro operand member
                rw [operator.operands] at member
                rcases List.mem_append.mp member with ofLeft | ofRight
                · exact evaluated operand ofLeft
                · exact nextEvaluated operand ofRight
              obtain ⟨all, whole, allSplit, derived⟩ :=
                induction joined bothEvaluated chained
              refine ⟨all, whole, ?_, derived⟩
              rw [← allSplit, split]
              simp
          · cases parsed
            exact ⟨used, formula, rfl, derives, evaluated⟩

theorem sound_parseOperands
    (sound : Sound actions operator.operandLevel parseOperand) :
    Sound actions operator.level
      (parseOperands actions operator.keyword operator.combine
        parseOperand) := by
  intro tokens value rest parsed
  obtain ⟨⟨first, remaining⟩, inner, chained⟩ := bind_eq_ok.mp parsed
  obtain ⟨used, formula, split, derives, evaluated⟩ := sound _ _ _ inner
  rw [split]
  exact sound_parseChain operator sound (operator.embed derives) evaluated
    chained

end Operators

theorem sound_parseOr {parseNot : Parse Token Value Failure}
    (sound : Sound actions .negated parseNot) :
    Sound actions .disjunct (parseOr actions parseNot) := by
  apply sound_parseOperands (disjunctions actions)
  exact sound_parseOperands (conjunctions actions) sound

theorem sound_parseNot (refused : OperatorsRefused actions) (depth : Nat) :
    Sound actions .negated (parseNot actions depth) := by
  induction depth with
  | zero =>
      intro tokens value rest parsed
      cases parsed
  | succ depth induction =>
      intro tokens value rest parsed
      cases tokens with
      | nil => cases parsed
      | cons token tokens =>
          unfold parseNot at parsed
          split at parsed
          · next negates =>
              obtain ⟨⟨inner, remaining⟩, negated, returned⟩ :=
                bind_eq_ok.mp parsed
              cases returned
              obtain ⟨used, formula, split, derives, evaluated⟩ :=
                induction _ _ _ negated
              refine ⟨token :: used, .negation formula, ?_,
                .negation negates derives, evaluated⟩
              rw [split, List.cons_append]
          · next notNegation =>
              obtain ⟨used, formula, split, derives, evaluated⟩ :=
                sound_parsePrimary refused (sound_parseOr induction) notNegation
                  parsed
              exact ⟨used, formula, split, .ofPrimary derives, evaluated⟩

/-- What is evaluated is derivable, and every operand of it is. -/
theorem run_sound (refused : OperatorsRefused actions) {tokens : List Token}
    {value : Value} (ran : run actions tokens = .ok value) :
    ∃ formula, Derives actions.kind .disjunct tokens formula ∧
      Evaluated actions formula := by
  obtain ⟨⟨parsed, rest⟩, parsing, finished⟩ := bind_eq_ok.mp ran
  obtain ⟨used, formula, split, derives, evaluated⟩ :=
    sound_parseOr (sound_parseNot refused tokens.length) _ _ _ parsing
  cases rest with
  | nil =>
      rw [List.append_nil] at split
      rw [split]
      exact ⟨formula, derives, evaluated⟩
  | cons token rest => cases finished

/-! ### What is derivable is evaluated to its meaning -/

/-- The truth of values follows the operations. -/
structure Meaning (actions : Actions Token Value Failure)
    (meaning : Value → Bool) : Prop where
  negate : ∀ value, meaning (actions.negate value) = !meaning value
  both : ∀ left right,
    meaning (actions.both left right) = (meaning left && meaning right)
  either : ∀ left right,
    meaning (actions.either left right) = (meaning left || meaning right)

def Stops (actions : Actions Token Value Failure) (level : Level)
    (rest : List Token) : Prop :=
  ∀ token ∈ rest.head?, ¬ Continues level (actions.kind token)

section Completeness

variable (meaning : Value → Bool) (truth : Token → Bool)

/-- Every operand of the formula is evaluated to its truth value. -/
def Assigned (actions : Actions Token Value Failure)
    (formula : Formula Token) : Prop :=
  ∀ token ∈ formula.operands, ∃ value,
    actions.operand token = .ok value ∧ meaning value = truth token

/-- The parser consumes and evaluates every expression of the level with at
most so many tokens. -/
def Complete (actions : Actions Token Value Failure) (level : Level)
    (parse : Parse Token Value Failure) (bound : Nat) : Prop :=
  ∀ tokens formula rest, Derives actions.kind level tokens formula →
    Assigned meaning truth actions formula → tokens.length ≤ bound →
    Stops actions level rest →
    ∃ value, parse (tokens ++ rest) = .ok (value, rest) ∧
      meaning value = formula.value truth

/-- An operator keyword, the tokens of its operand and the operand. -/
abbrev Link (Token : Type) : Type := Token × List Token × Formula Token

/-- The tokens of a chain. -/
def linkTokens (links : List (Link Token)) : List Token :=
  links.flatMap fun link => link.1 :: link.2.1

variable {meaning truth} (operator : Operator actions)

structure Links (links : List (Link Token)) : Prop where
  keyword : ∀ link ∈ links, actions.kind link.1 = operator.keyword
  derives : ∀ link ∈ links,
    Derives actions.kind operator.operandLevel link.2.1 link.2.2

/-- Every nesting is flattened to a first operand and the others. -/
theorem flatten (bound : Nat) {tokens : List Token} {formula : Formula Token}
    (bounded : tokens.length ≤ bound)
    (derives : Derives actions.kind operator.level tokens formula) :
    ∃ first start links, tokens = first ++ linkTokens links ∧
      Derives actions.kind operator.operandLevel first start ∧
      Links operator links ∧
      formula.operands =
        start.operands ++ links.flatMap (fun link => link.2.2.operands) ∧
      ∀ truth, formula.value truth =
        (links.map fun link => link.2.2.value truth).foldl operator.fold
          (start.value truth) := by
  induction bound generalizing tokens formula with
  | zero =>
      have positive := derives.length_pos
      omega
  | succ bound induction =>
      rcases operator.invert derives with
        single | ⟨keyword, left, right, leftFormula, rightFormula, isKeyword,
          rfl, rfl, leftDerives, rightDerives⟩
      · exact ⟨tokens, formula, [], by simp [linkTokens], single,
          ⟨nofun, nofun⟩, by simp, fun _ => rfl⟩
      · have leftPositive := leftDerives.length_pos
        have rightPositive := rightDerives.length_pos
        rw [List.length_append, List.length_cons] at bounded
        obtain ⟨first, start, links, leftSplit, startDerives, leftLinks,
          leftOperands, leftValue⟩ := induction (by omega) leftDerives
        obtain ⟨second, middle, more, rightSplit, middleDerives, rightLinks,
          rightOperands, rightValue⟩ := induction (by omega) rightDerives
        refine ⟨first, start, links ++ (keyword, second, middle) :: more, ?_,
          startDerives, ⟨?_, ?_⟩, ?_, fun truth => ?_⟩
        · rw [leftSplit, rightSplit]
          simp [linkTokens]
        · intro link member
          rcases List.mem_append.mp member with ofLeft | ofRight
          · exact leftLinks.keyword link ofLeft
          · rcases List.mem_cons.mp ofRight with rfl | later
            · exact isKeyword
            · exact rightLinks.keyword link later
        · intro link member
          rcases List.mem_append.mp member with ofLeft | ofRight
          · exact leftLinks.derives link ofLeft
          · rcases List.mem_cons.mp ofRight with rfl | later
            · exact middleDerives
            · exact rightLinks.derives link later
        · rw [operator.operands, leftOperands, rightOperands]
          simp
        · have assoc := operator.associative
          rw [operator.value, leftValue, rightValue, List.map_append,
            List.foldl_append, List.map_cons, List.foldl_cons,
            List.foldl_assoc]

/-- An operand stops where its operator comes next, or where the chain does. -/
theorem stops_links {links : List (Link Token)} {rest : List Token}
    (linked : Links operator links) (stops : Stops actions operator.level rest) :
    Stops actions operator.operandLevel (linkTokens links ++ rest) := by
  intro token isHead
  cases links with
  | nil =>
      intro continues
      exact stops token isHead ((operator.continues _).mpr (.inl continues))
  | cons next links =>
      cases isHead
      rw [linked.keyword next List.mem_cons_self]
      exact operator.ends

theorem complete_parseChain {parseOperand : Parse Token Value Failure}
    {bound count : Nat} {links : List (Link Token)} {rest : List Token}
    (combines : ∀ left right, meaning (operator.combine left right) =
      operator.fold (meaning left) (meaning right))
    (complete : Complete meaning truth actions operator.operandLevel
      parseOperand bound)
    (linked : Links operator links)
    (assigned : ∀ link ∈ links, Assigned meaning truth actions link.2.2)
    (bounded : ∀ link ∈ links, link.2.1.length ≤ bound)
    (stops : Stops actions operator.level rest)
    (enough : links.length ≤ count) (left : Value) :
    ∃ value, parseChain actions operator.keyword operator.combine parseOperand
        count left (linkTokens links ++ rest) = .ok (value, rest) ∧
      meaning value = (links.map fun link => link.2.2.value truth).foldl
        operator.fold (meaning left) := by
  induction links generalizing count left with
  | nil =>
      refine ⟨left, ?_, rfl⟩
      cases count with
      | zero => rfl
      | succ count =>
          cases rest with
          | nil => rfl
          | cons token rest =>
              have different : actions.kind token ≠ operator.keyword := by
                intro same
                exact stops token rfl ((operator.continues _).mpr (.inr same))
              change (if _ then _ else _) = _
              rw [if_neg different]
  | cons link links induction =>
      obtain ⟨keyword, tokens, formula⟩ := link
      cases count with
      | zero => cases enough
      | succ count =>
          have restLinked : Links operator links :=
            ⟨fun link member => linked.keyword link (List.mem_cons_of_mem _ member),
              fun link member =>
                linked.derives link (List.mem_cons_of_mem _ member)⟩
          obtain ⟨right, parsed, rightMeaning⟩ := complete tokens formula
            (linkTokens links ++ rest)
            (linked.derives (keyword, tokens, formula) List.mem_cons_self)
            (assigned (keyword, tokens, formula) List.mem_cons_self)
            (bounded (keyword, tokens, formula) List.mem_cons_self)
            (stops_links operator restLinked stops)
          obtain ⟨value, chained, valueMeaning⟩ := induction restLinked
            (fun link member => assigned link (List.mem_cons_of_mem _ member))
            (fun link member => bounded link (List.mem_cons_of_mem _ member))
            (Nat.le_of_succ_le_succ enough) (operator.combine left right)
          refine ⟨value, ?_, ?_⟩
          · have isKeyword : actions.kind keyword = operator.keyword :=
              linked.keyword (keyword, tokens, formula) List.mem_cons_self
            have split : linkTokens ((keyword, tokens, formula) :: links) ++ rest =
                keyword :: (tokens ++ (linkTokens links ++ rest)) := by
              simp [linkTokens]
            rw [split]
            change (if _ then _ else _) = _
            rw [if_pos isKeyword, parsed]
            exact chained
          · rw [valueMeaning, combines, rightMeaning]
            rfl

theorem length_le_linkTokens {links : List (Link Token)} :
    links.length ≤ (linkTokens links).length := by
  induction links with
  | nil => exact Nat.le_refl _
  | cons link links induction =>
      simp only [linkTokens, List.flatMap_cons, List.length_append,
        List.length_cons] at induction ⊢
      omega

theorem link_le_linkTokens {links : List (Link Token)} :
    ∀ link ∈ links, link.2.1.length ≤ (linkTokens links).length := by
  induction links with
  | nil => nofun
  | cons first links induction =>
      intro link member
      simp only [linkTokens, List.flatMap_cons, List.length_append,
        List.length_cons] at induction ⊢
      rcases List.mem_cons.mp member with rfl | later
      · omega
      · exact Nat.le_add_left_of_le (induction link later)

theorem complete_parseOperands {parseOperand : Parse Token Value Failure}
    {bound : Nat}
    (combines : ∀ left right, meaning (operator.combine left right) =
      operator.fold (meaning left) (meaning right))
    (complete : Complete meaning truth actions operator.operandLevel
      parseOperand bound) :
    Complete meaning truth actions operator.level
      (parseOperands actions operator.keyword operator.combine parseOperand)
      bound := by
  intro tokens formula rest derives assigned bounded stops
  obtain ⟨first, start, links, split, startDerives, linked, operands, value⟩ :=
    flatten operator tokens.length (Nat.le_refl _) derives
  rw [split, List.length_append] at bounded
  have startAssigned : Assigned meaning truth actions start := by
    intro token member
    apply assigned
    rw [operands]
    exact List.mem_append_left _ member
  have linksAssigned : ∀ link ∈ links,
      Assigned meaning truth actions link.2.2 := by
    intro link member token isOperand
    apply assigned
    rw [operands]
    exact List.mem_append_right _
      (List.mem_flatMap.mpr ⟨link, member, isOperand⟩)
  obtain ⟨left, parsed, leftMeaning⟩ := complete first start
    (linkTokens links ++ rest) startDerives startAssigned (by omega)
    (stops_links operator linked stops)
  have enough : links.length ≤ (linkTokens links ++ rest).length := by
    rw [List.length_append]
    exact Nat.le_add_right_of_le length_le_linkTokens
  obtain ⟨whole, chained, wholeMeaning⟩ := complete_parseChain operator combines
    complete linked linksAssigned
    (fun link member => Nat.le_trans (link_le_linkTokens link member) (by omega))
    stops enough left
  refine ⟨whole, ?_, ?_⟩
  · rw [split, List.append_assoc]
    unfold parseOperands
    rw [parsed]
    exact chained
  · rw [wholeMeaning, value, leftMeaning]

variable (means : Meaning actions meaning)

include means

theorem complete_parseOr {parseNot : Parse Token Value Failure} {bound : Nat}
    (complete : Complete meaning truth actions .negated parseNot bound) :
    Complete meaning truth actions .disjunct (parseOr actions parseNot)
      bound := by
  apply complete_parseOperands (disjunctions actions) means.either
  exact complete_parseOperands (conjunctions actions) means.both complete

theorem complete_parseNot (depth : Nat) :
    Complete meaning truth actions .negated (parseNot actions depth)
      depth := by
  induction depth with
  | zero =>
      intro tokens formula rest derives _ bounded
      have positive := derives.length_pos
      omega
  | succ depth induction =>
      intro tokens formula rest derives assigned bounded _
      cases derives with
      | @negation keyword tokens formula negates inner =>
          obtain ⟨value, parsed, valueMeaning⟩ := induction tokens formula rest
            inner assigned (Nat.le_of_succ_le_succ bounded) (fun _ _ => id)
          refine ⟨actions.negate value, ?_, ?_⟩
          · change (if _ then _ else _) = _
            rw [if_pos negates]
            change parseNot actions depth (tokens ++ rest) >>= _ = _
            rw [parsed]
            rfl
          · rw [means.negate, valueMeaning]
            rfl
      | ofPrimary inner =>
          cases inner with
          | @operand token isOperand =>
              obtain ⟨value, evaluated, valueMeaning⟩ :=
                assigned token (List.mem_singleton_self _)
              refine ⟨value, ?_, valueMeaning⟩
              change (if _ then _ else _) = _
              rw [if_neg (by simp [isOperand])]
              simp only [parsePrimary, isOperand, evaluated]
              rfl
          | @parenthesized opening closing tokens _ opens closes inner =>
              have nested := complete_parseOr means induction
              have fits : tokens.length ≤ depth := by
                simp only [List.length_append, List.length_cons,
                  List.length_nil] at bounded
                omega
              have closed : Stops actions .disjunct (closing :: rest) := by
                intro token isHead
                cases isHead
                simp [Continues, closes]
              obtain ⟨value, parsed, valueMeaning⟩ := nested tokens formula
                (closing :: rest) inner assigned fits closed
              refine ⟨value, ?_, valueMeaning⟩
              have split : opening :: tokens ++ [closing] ++ rest =
                  opening :: (tokens ++ closing :: rest) := by simp
              rw [split]
              change (if _ then _ else _) = _
              rw [if_neg (by simp [opens])]
              simp only [parsePrimary, opens, parsed]
              change closeParenthesis actions value (closing :: rest) = _
              rw [closeParenthesis, if_pos closes]

/-- What is derivable is evaluated, to the meaning of its formula. -/
theorem run_complete {tokens : List Token} {formula : Formula Token}
    (derives : Derives actions.kind .disjunct tokens formula)
    (assigned : Assigned meaning truth actions formula) :
    ∃ value, run actions tokens = .ok value ∧
      meaning value = formula.value truth := by
  obtain ⟨value, parsed, valueMeaning⟩ := complete_parseOr means
    (complete_parseNot means tokens.length) tokens formula [] derives assigned
    (Nat.le_refl _) nofun
  rw [List.append_nil] at parsed
  refine ⟨value, ?_, valueMeaning⟩
  unfold run
  rw [parsed]
  rfl

end Completeness

/-! ### What every value satisfies -/

/-- A property of the operands' values that the operations keep. -/
structure Keeps (actions : Actions Token Value Failure)
    (property : Value → Prop) : Prop where
  operand : ∀ token value, actions.operand token = .ok value → property value
  negate : ∀ value, property value → property (actions.negate value)
  both : ∀ left right, property left → property right →
    property (actions.both left right)
  either : ∀ left right, property left → property right →
    property (actions.either left right)

section Preservation

variable {property : Value → Prop} (keeps : Keeps actions property)

def Yields (property : Value → Prop) (parse : Parse Token Value Failure) :
    Prop :=
  ∀ tokens value rest, parse tokens = .ok (value, rest) → property value

theorem yields_parseOperands {keyword : Kind}
    {combine : Value → Value → Value}
    {parseOperand : Parse Token Value Failure}
    (combines : ∀ left right, property left → property right →
      property (combine left right))
    (yields : Yields property parseOperand) :
    Yields property (parseOperands actions keyword combine parseOperand) := by
  have chain : ∀ count left tokens value rest, property left →
      parseChain actions keyword combine parseOperand count left tokens =
        .ok (value, rest) → property value := by
    intro count
    induction count with
    | zero =>
        intro left tokens value rest holds parsed
        cases parsed
        exact holds
    | succ count induction =>
        intro left tokens value rest holds parsed
        cases tokens with
        | nil =>
            cases parsed
            exact holds
        | cons token tokens =>
            unfold parseChain at parsed
            split at parsed
            · obtain ⟨⟨right, remaining⟩, inner, chained⟩ :=
                bind_eq_ok.mp parsed
              apply induction _ _ _ _ _ chained
              exact combines left right holds (yields _ _ _ inner)
            · cases parsed
              exact holds
  intro tokens value rest parsed
  obtain ⟨⟨first, remaining⟩, inner, chained⟩ := bind_eq_ok.mp parsed
  exact chain _ _ _ _ _ (yields _ _ _ inner) chained

include keeps

theorem yields_parseOr {parseNot : Parse Token Value Failure}
    (yields : Yields property parseNot) :
    Yields property (parseOr actions parseNot) := by
  apply yields_parseOperands keeps.either
  exact yields_parseOperands keeps.both yields

theorem yields_parsePrimary {parseOr : Parse Token Value Failure}
    (yields : Yields property parseOr) :
    Yields property (parsePrimary actions parseOr) := by
  intro tokens value rest parsed
  cases tokens with
  | nil => cases parsed
  | cons token tokens =>
      dsimp only [parsePrimary] at parsed
      split at parsed
      · obtain ⟨⟨inner, remaining⟩, nested, closed⟩ := bind_eq_ok.mp parsed
        cases remaining with
        | nil => cases closed
        | cons closing remaining =>
            dsimp only [closeParenthesis] at closed
            split at closed
            · cases closed
              exact yields _ _ _ nested
            · cases closed
      · cases parsed
      · obtain ⟨operand, evaluated, returned⟩ := bind_eq_ok.mp parsed
        cases returned
        exact keeps.operand _ _ evaluated

theorem yields_parseNot (depth : Nat) :
    Yields property (parseNot actions depth) := by
  induction depth with
  | zero =>
      intro tokens value rest parsed
      cases parsed
  | succ depth induction =>
      intro tokens value rest parsed
      cases tokens with
      | nil => cases parsed
      | cons token tokens =>
          unfold parseNot at parsed
          split at parsed
          · obtain ⟨⟨inner, remaining⟩, negated, returned⟩ :=
              bind_eq_ok.mp parsed
            cases returned
            exact keeps.negate _ (induction _ _ _ negated)
          · exact yields_parsePrimary keeps (yields_parseOr keeps induction)
              _ _ _ parsed

theorem run_keeps {tokens : List Token} {value : Value}
    (ran : run actions tokens = .ok value) : property value := by
  obtain ⟨⟨parsed, rest⟩, parsing, finished⟩ := bind_eq_ok.mp ran
  cases rest with
  | nil =>
      cases finished
      exact yields_parseOr keeps (yields_parseNot keeps _) _ _ _ parsing
  | cons token rest => cases finished

end Preservation

end Descent

end Precedence

end ControlForge
