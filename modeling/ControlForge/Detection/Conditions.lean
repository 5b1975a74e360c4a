import ControlForge.Detection.Contracts
import ControlForge.Foundation.Precedence
import ControlForge.Foundation.Text

/-!
# The conditions of the rules

`SigmaSubsetEvaluator` splits a condition into tokens with one regular
expression and parses and evaluates them in one pass.  A token is the text the
expression matched, with its whitespace collapsed and its keywords in lower
case.  How a criterion matches an event is a parameter.
-/

namespace ControlForge

namespace Detection

open Precedence (Actions Kind)

/-- Whether an event matches, and why. -/
abbrev Verdict : Type := Bool × List String

/-! ## Selections -/

/-- `_match_value` on the field of an event that the expression of a criterion
names. -/
abbrev Matcher : Type := String → Json → Except DetectionError Bool

/-- The selections of a rule, in its order. -/
abbrev Selections : Type := List (String × Json)

def Selections.names (selections : Selections) : List String :=
  selections.map Prod.fst

def safeExpected (expected : Json) : String :=
  let rendered := Json.dumps false expected
  if rendered.length ≤ 80 then rendered
  else String.ofList (rendered.toList.take 77) ++ "..."

def matchMapping (matcher : Matcher) :
    List (String × Json) → Except DetectionError Verdict
  | [] => .ok (true, [])
  | (expression, expected) :: criteria => do
      if ← matcher expression expected then
        let (matched, reasons) ← matchMapping matcher criteria
        if matched then
          return (true,
            (expression ++ " matched " ++ safeExpected expected) :: reasons)
        else return (false, [])
      else return (false, [])

def matchBranches (matcher : Matcher) (name : String) :
    List Json → Except DetectionError Verdict
  | [] => .ok (false, [])
  | .obj criteria :: branches => do
      let (matched, reasons) ← matchMapping matcher criteria
      if matched then return (true, reasons)
      else matchBranches matcher name branches
  | _ :: _ => .error (.value ("selection " ++ name ++
      " must be a mapping or list of mappings"))

def evaluateNamed (matcher : Matcher) (selections : Selections)
    (name : String) : Except DetectionError Verdict :=
  match selections.lookup name with
  | none => .error (.value ("unknown selection in condition: " ++ name))
  | some (.arr branches) => matchBranches matcher name branches
  | some selection => matchBranches matcher name [selection]

def evaluateAny (matcher : Matcher) (selections : Selections) :
    List String → Except DetectionError Verdict
  | [] => .ok (false, [])
  | name :: names => do
      let (matched, reasons) ←
        evaluateNamed matcher selections (Text.strip name)
      if matched then return (true, reasons)
      else evaluateAny matcher selections names

/-- The loop of `_evaluate_all`, with the reasons so far. -/
def evaluateEach (matcher : Matcher) (selections : Selections)
    (allReasons : List String) :
    List String → Except DetectionError Verdict
  | [] => .ok (true, allReasons)
  | name :: names => do
      let (matched, reasons) ←
        evaluateNamed matcher selections (Text.strip name)
      if matched then
        evaluateEach matcher selections (allReasons ++ reasons) names
      else return (false, [])

def evaluateAll (matcher : Matcher) (selections : Selections)
    (names : List String) : Except DetectionError Verdict := do
  let (matched, reasons) ← evaluateEach matcher selections [] names
  return (matched && !names.isEmpty, reasons)

/-! ## Tokens -/

/-- `[a-zA-Z0-9_*?-]`. -/
def isPatternChar (character : Char) : Bool :=
  character.isAlphanum || ['_', '*', '?', '-'].contains character

/-- The same class when case is ignored: it then has four more letters. -/
def isNameChar (character : Char) : Bool :=
  isPatternChar character ||
    ['\u0130', '\u0131', '\u017F', '\u212A'].contains character

/-- A word character may not follow a keyword.  Of those outside the names it
does not matter: the names end there, too. -/
def endsWord : List Char → Bool
  | [] => true
  | next :: _ => !isNameChar next || ['*', '?', '-'].contains next

/-- The text begins with the letters, whatever their case: these letters and
what follows. -/
def matchLetters : (letters text : List Char) → Option (List Char × List Char)
  | [], text => some ([], text)
  | letter :: letters, character :: text =>
      if character.toLower = letter then
        (matchLetters letters text).map fun (matched, rest) =>
          (character :: matched, rest)
      else none
  | _ :: _, [] => none

/-- `\s+`. -/
def matchSpaces (text : List Char) : Option (List Char) :=
  match text with
  | [] => none
  | character :: rest =>
      if Text.isSpace character then some (rest.dropWhile Text.isSpace)
      else none

/-- `[a-zA-Z0-9_*?-]+`. -/
def matchName (text : List Char) : Option (List Char × List Char) :=
  match text.takeWhile isNameChar with
  | [] => none
  | name => some (name, text.dropWhile isNameChar)

/-- `1\s+of\s+...` and `all\s+of\s+...`, with the whitespace collapsed. -/
def matchQuantifier (letters text : List Char) :
    Option (String × List Char) := do
  let (quantifier, afterQuantifier) ← matchLetters letters text
  let (preposition, afterPreposition) ←
    matchLetters ['o', 'f'] (← matchSpaces afterQuantifier)
  let (name, rest) ← matchName (← matchSpaces afterPreposition)
  return (String.ofList (quantifier ++ ' ' :: preposition ++ ' ' :: name), rest)

/-- A keyword and a word boundary; the token is in lower case. -/
def matchKeyword (letters text : List Char) : Option (String × List Char) := do
  let (_, rest) ← matchLetters letters text
  if endsWord rest then some (String.ofList letters, rest) else none

def matchParenthesis : List Char → Option (String × List Char)
  | '(' :: rest => some ("(", rest)
  | ')' :: rest => some (")", rest)
  | _ => none

/-- The last alternative.  A keyword that a further letter follows is a keyword
here, too. -/
def matchWord (text : List Char) : Option (String × List Char) := do
  let (name, rest) ← matchName text
  let lowered := String.ofList (name.map Char.toLower)
  return (if ["and", "or", "not"].contains lowered then lowered
    else String.ofList name, rest)

/-- `_CONDITION_TOKEN`, after its leading whitespace. -/
def matchToken (text : List Char) : Option (String × List Char) :=
  matchQuantifier ['1'] text <|> matchQuantifier ['a', 'l', 'l'] text <|>
    matchKeyword ['a', 'n', 'd'] text <|> matchKeyword ['o', 'r'] text <|>
    matchKeyword ['n', 'o', 't'] text <|> matchParenthesis text <|>
    matchWord text

/-- The loop of `_tokenize_condition`; every match takes a character. -/
def tokenizeFrom : (count : Nat) → List Char →
    Except DetectionError (List String)
  | 0, _ | _ + 1, [] => .ok []
  | count + 1, text =>
      match matchToken (text.dropWhile Text.isSpace) with
      | some (token, rest) => do
          let tokens ← tokenizeFrom count rest
          return token :: tokens
      | none =>
          if text.all Text.isSpace then .ok []
          else .error (.value ("unsupported Sigma condition near: " ++
            String.ofList text))

def tokenizeCondition (condition : String) :
    Except DetectionError (List String) := do
  let tokens ← tokenizeFrom condition.toList.length condition.toList
  if tokens.isEmpty then throw (.value "Sigma condition cannot be empty")
  return tokens

/-! ## Evaluation -/

/-- `fnmatch`, of patterns without brackets. -/
def fnmatch : (pattern text : List Char) → Bool
  | [], text => text.isEmpty
  | '*' :: pattern, text => text.tails.any fun rest => fnmatch pattern rest
  | _ :: _, [] => false
  | symbol :: pattern, character :: text =>
      (symbol = '?' || symbol = character) && fnmatch pattern text

/-- The pattern of a quantifier: a full match of its words in lower case and of
a name in the written class. -/
def patternOf (quantifier : String) (symbol : String) : Option String :=
  let words := quantifier.toList ++ " of ".toList
  let pattern := symbol.toList.drop words.length
  if words.isPrefixOf symbol.toList && !pattern.isEmpty &&
      pattern.all isPatternChar then
    some (String.ofList pattern)
  else none

def candidates (names : List String) (pattern : String) : List String :=
  names.filter fun name => fnmatch pattern.toList name.toList

/-- What `parse_primary` does with a symbol that is no parenthesis. -/
def evaluateSymbol (matcher : Matcher) (selections : Selections)
    (symbol : String) : Except DetectionError Verdict :=
  match patternOf "1" symbol with
  | some pattern =>
      evaluateAny matcher selections (candidates selections.names pattern)
  | none =>
      match patternOf "all" symbol with
      | some pattern =>
          evaluateAll matcher selections (candidates selections.names pattern)
      | none => evaluateNamed matcher selections symbol

def kindOf (token : String) : Kind :=
  if token = "(" then .opening
  else if token = ")" then .closing
  else if token = "not" then .negation
  else if token = "and" then .conjunction
  else if token = "or" then .disjunction
  else .operand

def conditionActions (matcher : Matcher) (selections : Selections) :
    Actions String Verdict DetectionError where
  kind := kindOf
  operand := evaluateSymbol matcher selections
  negate verdict := (!verdict.1, [])
  both left right :=
    if left.1 && right.1 then (left.1, left.2 ++ right.2) else (false, [])
  either left right := if !left.1 && right.1 then (true, right.2) else left
  unexpectedEnd := .value "unexpected end of Sigma condition"
  unclosed := .value "unclosed parenthesis in Sigma condition"
  unexpectedClosing :=
    .value "unexpected closing parenthesis in Sigma condition"
  unexpectedToken token :=
    .value ("unexpected token in Sigma condition: " ++ token)

def evaluateCondition (matcher : Matcher) (condition : String)
    (selections : Selections) : Except DetectionError Verdict := do
  let tokens ← tokenizeCondition condition
  Precedence.run (conditionActions matcher selections) tokens

end Detection

end ControlForge
