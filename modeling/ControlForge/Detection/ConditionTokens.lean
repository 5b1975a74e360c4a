import Mathlib.Data.List.Chain
import Mathlib.Data.List.TakeWhile
import ControlForge.Detection.Conditions

/-!
# The tokens of a rendered condition

A condition is rendered as its tokens with whitespace around them.  The
tokenizer gives the tokens back, unless a name begins like a keyword: the
regular expression ends a keyword where no word character follows, and `-`,
`*` and `?` are characters of names but not of words.
-/

namespace ControlForge

namespace Detection

/-! ## Characters -/

theorem isNameChar_of_isPatternChar {character : Char}
    (isPattern : isPatternChar character = true) :
    isNameChar character = true := by
  simp [isNameChar, isPattern]

/-- No whitespace and no parenthesis is a name character. -/
theorem isNameChar_apart {character : Char}
    (isName : isNameChar character = true) :
    Text.isSpace character = false ∧ character ≠ '(' ∧ character ≠ ')' := by
  refine ⟨?_, ?_, ?_⟩
  · cases isBlank : Text.isSpace character with
    | false => rfl
    | true =>
        -- The points of whitespace are checked one by one.
        have point : character.toNat ∈ Text.spacePoints := by
          simpa [Text.isSpace] using isBlank
        have refused : ∀ code ∈ Text.spacePoints,
            isNameChar (Char.ofNat code) = false := by
          decide
        have same := refused _ point
        rw [Char.ofNat_toNat, isName] at same
        cases same
  · rintro rfl
    revert isName
    decide
  · rintro rfl
    revert isName
    decide

/-- Whitespace, a parenthesis, or the end comes next. -/
def Separated (rest : List Char) : Prop :=
  ∀ next ∈ rest.head?, Text.isSpace next = true ∨ next = '(' ∨ next = ')'

theorem Separated.not_name {next : Char} {rest : List Char}
    (separated : Separated (next :: rest)) : isNameChar next = false := by
  cases isName : isNameChar next with
  | false => rfl
  | true =>
      obtain ⟨notSpace, notOpening, notClosing⟩ := isNameChar_apart isName
      rcases separated next rfl with isBlank | isOpening | isClosing
      · rw [notSpace] at isBlank
        cases isBlank
      · exact absurd isOpening notOpening
      · exact absurd isClosing notClosing

theorem takeWhile_name {name rest : List Char}
    (allName : ∀ character ∈ name, isNameChar character = true)
    (separated : Separated rest) :
    (name ++ rest).takeWhile isNameChar = name := by
  rw [List.takeWhile_append_of_pos allName]
  cases rest with
  | nil => simp
  | cons next rest =>
      rw [List.takeWhile_cons_of_neg (by simp [separated.not_name]),
        List.append_nil]

theorem dropWhile_name {name rest : List Char}
    (allName : ∀ character ∈ name, isNameChar character = true)
    (separated : Separated rest) :
    (name ++ rest).dropWhile isNameChar = rest := by
  rw [List.dropWhile_append_of_pos allName]
  cases rest with
  | nil => rfl
  | cons next rest =>
      rw [List.dropWhile_cons_of_neg (by simp [separated.not_name])]

/-! ## Matching letters -/

theorem matchLetters_eq_some {letters text matched rest : List Char}
    (isMatch : matchLetters letters text = some (matched, rest)) :
    text = matched ++ rest ∧ matched.map Char.toLower = letters := by
  induction letters generalizing text matched rest with
  | nil =>
      cases isMatch
      exact ⟨rfl, rfl⟩
  | cons letter letters induction =>
      cases text with
      | nil => cases isMatch
      | cons character text =>
          unfold matchLetters at isMatch
          split at isMatch
          · next same =>
              obtain ⟨⟨later, remaining⟩, isLater, built⟩ :=
                Option.map_eq_some_iff.mp isMatch
              cases built
              obtain ⟨split, lower⟩ := induction isLater
              rw [split, List.map_cons, same, lower]
              exact ⟨rfl, rfl⟩
          · cases isMatch

theorem matchLetters_append {letters matched rest : List Char}
    (lower : matched.map Char.toLower = letters) :
    matchLetters letters (matched ++ rest) = some (matched, rest) := by
  induction matched generalizing letters with
  | nil =>
      cases lower
      rfl
  | cons character matched induction =>
      cases lower
      rw [List.map_cons, List.cons_append, matchLetters, if_pos rfl,
        induction rfl]
      rfl

/-- Letters are matched inside a name or not at all. -/
theorem matchLetters_within {letters name rest matched remaining : List Char}
    (isLetters : ∀ letter ∈ letters, ∀ next ∈ rest.head?,
      next.toLower ≠ letter)
    (isMatch : matchLetters letters (name ++ rest) = some (matched, remaining)) :
    ∃ inner, matchLetters letters name = some (matched, inner) ∧
      remaining = inner ++ rest := by
  induction letters generalizing name matched remaining with
  | nil =>
      cases isMatch
      exact ⟨name, rfl, rfl⟩
  | cons letter letters induction =>
      cases name with
      | nil =>
          cases rest with
          | nil => cases isMatch
          | cons next rest =>
              have different := isLetters letter List.mem_cons_self next rfl
              rw [List.nil_append, matchLetters, if_neg different] at isMatch
              cases isMatch
      | cons character name =>
          rw [List.cons_append, matchLetters] at isMatch
          split at isMatch
          · next same =>
              obtain ⟨⟨later, afterLater⟩, isLater, built⟩ :=
                Option.map_eq_some_iff.mp isMatch
              cases built
              obtain ⟨inner, isInner, split⟩ := induction
                (fun letter member => isLetters letter
                  (List.mem_cons_of_mem _ member)) isLater
              refine ⟨inner, ?_, split⟩
              rw [matchLetters, if_pos same, isInner]
              rfl
          · cases isMatch

/-! ## One token -/

theorem isNameChar_of_toLower {character : Char}
    (isName : isNameChar character.toLower = true) :
    isNameChar character = true := by
  by_cases isUpper : character.isUpper = true
  · have isAlpha : character.isAlpha = true :=
      Bool.or_eq_true_iff.mpr (.inl isUpper)
    have isAlphanum : character.isAlphanum = true :=
      Bool.or_eq_true_iff.mpr (.inl isAlpha)
    simp [isNameChar, isPatternChar, isAlphanum]
  · have same : character.toLower = character := by
      unfold Char.toLower
      split
      · next upper => exact absurd (decide_eq_true upper) isUpper
      · rfl
    rw [same] at isName
    exact isName

/-- Letters of a keyword or of a quantifier do not begin with a separator. -/
theorem Separated.not_letter {rest : List Char} (separated : Separated rest)
    {letters : List Char}
    (allName : ∀ letter ∈ letters, isNameChar letter = true) :
    ∀ letter ∈ letters, ∀ next ∈ rest.head?, next.toLower ≠ letter := by
  rintro letter member next isHead rfl
  cases rest with
  | nil => cases isHead
  | cons first rest =>
      cases isHead
      have isName := isNameChar_of_toLower (allName _ member)
      rw [separated.not_name] at isName
      cases isName

/-- What follows is not the middle of a quantifier. -/
def NoPreposition (rest : List Char) : Prop :=
  ∀ remaining, matchSpaces rest = some remaining →
    matchLetters ['o', 'f'] remaining = none

theorem matchQuantifier_name {letters name rest : List Char}
    (lettersName : ∀ letter ∈ letters, isNameChar letter = true)
    (allName : ∀ character ∈ name, isNameChar character = true)
    (separated : Separated rest) (noPreposition : NoPreposition rest) :
    matchQuantifier letters (name ++ rest) = none := by
  unfold matchQuantifier
  cases isMatch : matchLetters letters (name ++ rest) with
  | none => rfl
  | some result =>
      obtain ⟨matched, remaining⟩ := result
      obtain ⟨inner, isInner, split⟩ :=
        matchLetters_within (separated.not_letter lettersName) isMatch
      have within := (matchLetters_eq_some isInner).1
      cases inner with
      | nil =>
          rw [List.nil_append] at split
          rw [split]
          cases blanks : matchSpaces rest with
          | none => simp [blanks]
          | some afterBlanks =>
              simp [blanks, noPreposition afterBlanks blanks]
      | cons character inner =>
          have isName : isNameChar character = true := by
            apply allName
            rw [within]
            simp
          have notBlank : matchSpaces remaining = none := by
            rw [split, List.cons_append, matchSpaces,
              (isNameChar_apart isName).1]
            rfl
          simp [notBlank]

def keywords : List (List Char) :=
  [['a', 'n', 'd'], ['o', 'r'], ['n', 'o', 't']]

theorem keywords_allName :
    ∀ letters ∈ keywords, letters.all isNameChar = true := by
  decide

/-- The tokenizer finds a keyword at the beginning of the name. -/
def beginsLikeKeyword (name : List Char) : Bool :=
  keywords.any fun letters => (matchKeyword letters name).isSome

theorem endsWord_append {inner rest : List Char} (separated : Separated rest) :
    endsWord (inner ++ rest) = endsWord inner := by
  cases inner with
  | cons => rfl
  | nil =>
      cases rest with
      | nil => rfl
      | cons next rest =>
          simp [endsWord, separated.not_name]

theorem matchKeyword_name {letters name rest : List Char}
    (isKeyword : letters ∈ keywords)
    (plain : beginsLikeKeyword name = false) (separated : Separated rest) :
    matchKeyword letters (name ++ rest) = none := by
  have lettersName := List.all_eq_true.mp (keywords_allName letters isKeyword)
  have unmatched : matchKeyword letters name = none := by
    unfold beginsLikeKeyword at plain
    rw [List.any_eq_false] at plain
    simpa using plain letters isKeyword
  unfold matchKeyword at unmatched ⊢
  cases isMatch : matchLetters letters (name ++ rest) with
  | none => rfl
  | some result =>
      obtain ⟨matched, remaining⟩ := result
      obtain ⟨inner, isInner, split⟩ :=
        matchLetters_within (separated.not_letter lettersName) isMatch
      rw [isInner] at unmatched
      rw [split]
      simpa [endsWord_append separated] using unmatched

theorem matchWord_name {name rest : List Char}
    (nonempty : name ≠ [])
    (allName : ∀ character ∈ name, isNameChar character = true)
    (plain : beginsLikeKeyword name = false) (separated : Separated rest) :
    matchWord (name ++ rest) = some (String.ofList name, rest) := by
  have taken : matchName (name ++ rest) = some (name, rest) := by
    unfold matchName
    rw [takeWhile_name allName separated, dropWhile_name allName separated]
    cases name with
    | nil => exact absurd rfl nonempty
    | cons => rfl
  have notKeyword : ["and", "or", "not"].contains
      (String.ofList (name.map Char.toLower)) = false := by
    cases isKeyword : ["and", "or", "not"].contains
        (String.ofList (name.map Char.toLower)) with
    | false => rfl
    | true =>
        -- A name that is a keyword in lower case begins like it.
        have lower : name.map Char.toLower ∈ keywords := by
          simp only [List.contains_cons, List.contains_nil, Bool.or_false,
            Bool.or_eq_true, beq_iff_eq] at isKeyword
          rcases isKeyword with same | same | same <;>
            · have letters := congrArg String.toList same
              rw [String.toList_ofList] at letters
              rw [letters]
              decide
        have matched := @matchLetters_append _ name [] rfl
        rw [List.append_nil] at matched
        have found : beginsLikeKeyword name = true := by
          refine List.any_eq_true.mpr ⟨_, lower, ?_⟩
          simp [matchKeyword, matched, endsWord]
        rw [plain] at found
        cases found
  unfold matchWord
  rw [taken]
  simp only [Option.bind_eq_bind, Option.bind_some, notKeyword]
  rfl

/-! ## Renderings -/

/-- An identifier other than the bare keywords. -/
def isName (token : String) : Bool :=
  !token.toList.isEmpty && token.toList.all isNameChar &&
    !keywords.contains token.toList

def quantifiers : List (List Char) := [['1'], ['a', 'l', 'l']]

theorem quantifiers_allName :
    ∀ quantifier ∈ quantifiers, quantifier.all isNameChar = true := by
  decide

def isPattern (pattern : List Char) : Bool :=
  !pattern.isEmpty && pattern.all isPatternChar

/-- The token of a quantifier with its pattern. -/
def quantifierToken (quantifier pattern : List Char) : String :=
  String.ofList (quantifier ++ ' ' :: 'o' :: 'f' :: ' ' :: pattern)

def isBlank (text : List Char) : Bool :=
  !text.isEmpty && text.all Text.isSpace

/-- A token and a text that renders it.  Whitespace inside a quantifier is
arbitrary. -/
inductive Spells : List Char → String → Prop
  | opening : Spells ['('] "("
  | closing : Spells [')'] ")"
  | keyword {letters : List Char} (isKeyword : letters ∈ keywords) :
      Spells letters (String.ofList letters)
  | name {token : String} (valid : isName token = true) :
      Spells token.toList token
  | quantifier {quantifier first second pattern : List Char}
      (isQuantifier : quantifier ∈ quantifiers)
      (firstBlank : isBlank first = true) (secondBlank : isBlank second = true)
      (valid : isPattern pattern = true) :
      Spells (quantifier ++ (first ++ 'o' :: 'f' :: (second ++ pattern)))
        (quantifierToken quantifier pattern)

/-- A text that renders a list of tokens: whitespace is arbitrary, and there is
some between two tokens without a parenthesis. -/
inductive Spaced : List Char → List String → Prop
  | nil {blank : List Char} (allBlank : blank.all Text.isSpace = true) :
      Spaced blank []
  | cons {blank spelled rest : List Char} {token : String}
      {tokens : List String} (allBlank : blank.all Text.isSpace = true)
      (spells : Spells spelled token)
      (separate : token = "(" ∨ token = ")" ∨ Separated rest)
      (later : Spaced rest tokens) :
      Spaced (blank ++ (spelled ++ rest)) (token :: tokens)

theorem isName_iff {token : String} :
    isName token = true ↔ token.toList ≠ [] ∧
      (∀ character ∈ token.toList, isNameChar character = true) ∧
      token.toList ∉ keywords := by
  simp [isName, and_assoc]

/-- No token begins with whitespace. -/
theorem Spells.head {spelled : List Char} {token : String}
    (spells : Spells spelled token) :
    ∃ first rest, spelled = first :: rest ∧ Text.isSpace first = false := by
  cases spells with
  | opening => exact ⟨_, _, rfl, by decide⟩
  | closing => exact ⟨_, _, rfl, by decide⟩
  | keyword isKeyword =>
      simp only [keywords, List.mem_cons, List.not_mem_nil, or_false]
        at isKeyword
      rcases isKeyword with rfl | rfl | rfl <;>
        exact ⟨_, _, rfl, by decide⟩
  | name valid =>
      obtain ⟨nonempty, allName, -⟩ := isName_iff.mp valid
      cases letters : token.toList with
      | nil => exact absurd letters nonempty
      | cons first rest =>
          refine ⟨first, rest, rfl, (isNameChar_apart (allName first ?_)).1⟩
          rw [letters]
          exact List.mem_cons_self
  | quantifier isQuantifier =>
      simp only [quantifiers, List.mem_cons, List.not_mem_nil, or_false]
        at isQuantifier
      rcases isQuantifier with rfl | rfl
      · exact ⟨_, _, rfl, by decide⟩
      · exact ⟨_, _, rfl, by decide⟩

theorem Spells.dropWhile {spelled rest blank : List Char} {token : String}
    (spells : Spells spelled token)
    (allBlank : blank.all Text.isSpace = true) :
    (blank ++ (spelled ++ rest)).dropWhile Text.isSpace = spelled ++ rest := by
  obtain ⟨first, more, rfl, notBlank⟩ := spells.head
  rw [List.all_eq_true] at allBlank
  rw [List.dropWhile_append_of_pos allBlank, List.cons_append,
    List.dropWhile_cons_of_neg (by simp [notBlank])]

theorem matchSpaces_append {blank rest : List Char}
    (isBlank : Detection.isBlank blank = true)
    (starts : ∀ next ∈ rest.head?, Text.isSpace next = false) :
    matchSpaces (blank ++ rest) = some rest := by
  simp only [Detection.isBlank, Bool.and_eq_true, Bool.not_eq_true',
    List.all_eq_true] at isBlank
  cases blank with
  | nil => cases isBlank.1
  | cons first blank =>
      rw [List.cons_append, matchSpaces,
        if_pos (isBlank.2 first List.mem_cons_self),
        List.dropWhile_append_of_pos fun character member =>
          isBlank.2 character (List.mem_cons_of_mem _ member)]
      cases rest with
      | nil => rfl
      | cons next rest =>
          rw [List.dropWhile_cons_of_neg (by simp [starts next rfl])]

theorem matchName_pattern {pattern rest : List Char}
    (valid : isPattern pattern = true) (separated : Separated rest) :
    matchName (pattern ++ rest) = some (pattern, rest) := by
  simp only [isPattern, Bool.and_eq_true, Bool.not_eq_true',
    List.all_eq_true] at valid
  have allName : ∀ character ∈ pattern, isNameChar character = true :=
    fun character member =>
      isNameChar_of_isPatternChar (valid.2 character member)
  unfold matchName
  rw [takeWhile_name allName separated, dropWhile_name allName separated]
  cases pattern with
  | nil => cases valid.1
  | cons => rfl

theorem matchQuantifier_spelled {quantifier first second pattern rest : List Char}
    (isQuantifier : quantifier ∈ quantifiers)
    (firstBlank : isBlank first = true) (secondBlank : isBlank second = true)
    (valid : isPattern pattern = true) (separated : Separated rest) :
    matchQuantifier quantifier
        (quantifier ++ (first ++ 'o' :: 'f' :: (second ++ pattern)) ++ rest) =
      some (quantifierToken quantifier pattern, rest) := by
  have lower : quantifier.map Char.toLower = quantifier := by
    revert quantifier
    decide
  have patternStarts : ∀ next ∈ (pattern ++ rest).head?,
      Text.isSpace next = false := by
    simp only [isPattern, Bool.and_eq_true, Bool.not_eq_true',
      List.all_eq_true] at valid
    cases pattern with
    | nil => cases valid.1
    | cons next pattern =>
        intro other isHead
        cases isHead
        exact (isNameChar_apart (isNameChar_of_isPatternChar
          (valid.2 next List.mem_cons_self))).1
  have split : quantifier ++ (first ++ 'o' :: 'f' :: (second ++ pattern)) ++ rest =
      quantifier ++ (first ++ 'o' :: 'f' :: (second ++ (pattern ++ rest))) := by
    simp
  have starts : ∀ next ∈ ('o' :: 'f' :: (second ++ (pattern ++ rest))).head?,
      Text.isSpace next = false := by
    intro next isHead
    cases isHead
    decide
  have preposition := @matchLetters_append ['o', 'f'] ['o', 'f']
    (second ++ (pattern ++ rest)) rfl
  unfold matchQuantifier
  rw [split, matchLetters_append lower]
  simp only [Option.bind_eq_bind, Option.bind_some,
    matchSpaces_append firstBlank starts]
  rw [show 'o' :: 'f' :: (second ++ (pattern ++ rest)) =
    ['o', 'f'] ++ (second ++ (pattern ++ rest)) from rfl, preposition]
  simp only [Option.bind_some, matchSpaces_append secondBlank patternStarts,
    matchName_pattern valid separated]
  simp [quantifierToken]

/-- A text whose first character begins no quantifier and no keyword. -/
theorem matchToken_parenthesis {character : Char} {rest : List Char}
    (isParenthesis : character = '(' ∨ character = ')') :
    matchToken (character :: rest) =
      some (String.ofList [character], rest) := by
  rcases isParenthesis with rfl | rfl <;> rfl

theorem matchToken_keyword {letters rest : List Char}
    (isKeyword : letters ∈ keywords) (separated : Separated rest) :
    matchToken (letters ++ rest) = some (String.ofList letters, rest) := by
  have ends : endsWord rest = true := by
    cases rest with
    | nil => rfl
    | cons next rest => simp [endsWord, separated.not_name]
  have lower : letters.map Char.toLower = letters := by
    revert letters
    decide
  have found : matchKeyword letters (letters ++ rest) =
      some (String.ofList letters, rest) := by
    unfold matchKeyword
    rw [matchLetters_append lower]
    change (if endsWord rest then _ else _) = _
    rw [if_pos ends]
  simp only [keywords, List.mem_cons, List.not_mem_nil, or_false] at isKeyword
  rcases isKeyword with rfl | rfl | rfl
  · change (none <|> none <|> matchKeyword _ _ <|> _) = _
    rw [found]
    rfl
  · change (none <|> none <|> none <|> matchKeyword _ _ <|> _) = _
    rw [found]
    rfl
  · change (none <|> none <|> none <|> none <|> matchKeyword _ _ <|> _) = _
    rw [found]
    rfl

theorem matchToken_name {token : String} {rest : List Char}
    (valid : isName token = true)
    (plain : beginsLikeKeyword token.toList = false)
    (separated : Separated rest) (noPreposition : NoPreposition rest) :
    matchToken (token.toList ++ rest) = some (token, rest) := by
  obtain ⟨nonempty, allName, -⟩ := isName_iff.mp valid
  have notParenthesis : matchParenthesis (token.toList ++ rest) = none := by
    cases letters : token.toList with
    | nil => exact absurd letters nonempty
    | cons first more =>
        have isName : isNameChar first = true := by
          apply allName
          rw [letters]
          exact List.mem_cons_self
        obtain ⟨-, notOpening, notClosing⟩ := isNameChar_apart isName
        rw [List.cons_append]
        unfold matchParenthesis
        split
        · next same => exact absurd (List.cons.inj same).1 notOpening
        · next same => exact absurd (List.cons.inj same).1 notClosing
        · rfl
  have noQuantifier := fun quantifier member =>
    @matchQuantifier_name quantifier token.toList rest
      (List.all_eq_true.mp (quantifiers_allName quantifier member)) allName
      separated noPreposition
  unfold matchToken
  rw [noQuantifier ['1'] (by decide), noQuantifier ['a', 'l', 'l'] (by decide),
    matchKeyword_name (by decide) plain separated,
    matchKeyword_name (by decide) plain separated,
    matchKeyword_name (by decide) plain separated, notParenthesis,
    matchWord_name nonempty allName plain separated, String.ofList_toList]
  rfl

theorem matchToken_quantifier
    {quantifier first second pattern rest : List Char}
    (isQuantifier : quantifier ∈ quantifiers)
    (firstBlank : isBlank first = true) (secondBlank : isBlank second = true)
    (valid : isPattern pattern = true) (separated : Separated rest) :
    matchToken
        (quantifier ++ (first ++ 'o' :: 'f' :: (second ++ pattern)) ++ rest) =
      some (quantifierToken quantifier pattern, rest) := by
  have found := matchQuantifier_spelled isQuantifier firstBlank secondBlank
    valid separated
  simp only [quantifiers, List.mem_cons, List.not_mem_nil, or_false]
    at isQuantifier
  unfold matchToken
  rcases isQuantifier with rfl | rfl
  · rw [found]
    rfl
  · rw [found]
    rfl

/-! ## All tokens -/

/-- The tokens with a meaning of their own. -/
def symbols : List String :=
  ["(", ")", "not", "and", "or"]

theorem kindOf_eq_operand {token : String} :
    kindOf token = .operand ↔ token ∉ symbols := by
  constructor
  · intro isOperand member
    revert isOperand
    revert member
    revert token
    decide
  · intro notSymbol
    have different : ∀ other ∈ symbols, token ≠ other := by
      rintro other member rfl
      exact notSymbol member
    unfold kindOf
    rw [if_neg (different _ (by simp [symbols])),
      if_neg (different _ (by simp [symbols])),
      if_neg (different _ (by simp [symbols])),
      if_neg (different _ (by simp [symbols])),
      if_neg (different _ (by simp [symbols]))]

theorem kindOf_name {token : String} (valid : isName token = true) :
    kindOf token = .operand := by
  apply kindOf_eq_operand.mpr
  intro member
  revert valid
  revert member
  revert token
  decide

theorem toList_quantifierToken (quantifier pattern : List Char) :
    (quantifierToken quantifier pattern).toList =
      quantifier ++ ' ' :: 'o' :: 'f' :: ' ' :: pattern :=
  String.toList_ofList

/-- A quantifier has blanks, unlike the other tokens. -/
theorem kindOf_quantifierToken (quantifier pattern : List Char) :
    kindOf (quantifierToken quantifier pattern) = .operand := by
  apply kindOf_eq_operand.mpr
  intro member
  have blank : ' ' ∈ (quantifierToken quantifier pattern).toList := by
    rw [toList_quantifierToken]
    simp
  have unblank : ∀ symbol ∈ symbols, ' ' ∉ symbol.toList := by
    decide
  exact unblank _ member blank

theorem separated_of_word {rest : List Char} {token : String}
    (separate : token = "(" ∨ token = ")" ∨ Separated rest)
    (isOperand : kindOf token ≠ .opening ∧ kindOf token ≠ .closing) :
    Separated rest := by
  rcases separate with rfl | rfl | separated
  · exact absurd rfl isOperand.1
  · exact absurd rfl isOperand.2
  · exact separated

theorem matchToken_spells {spelled rest : List Char} {token : String}
    (spells : Spells spelled token)
    (separate : token = "(" ∨ token = ")" ∨ Separated rest)
    (plain : isName token = true → beginsLikeKeyword token.toList = false)
    (noPreposition : kindOf token = .operand → NoPreposition rest) :
    matchToken (spelled ++ rest) = some (token, rest) := by
  cases spells with
  | opening => exact matchToken_parenthesis (.inl rfl)
  | closing => exact matchToken_parenthesis (.inr rfl)
  | keyword isKeyword =>
      apply matchToken_keyword isKeyword
      have kinds : ∀ letters ∈ keywords,
          kindOf (String.ofList letters) ≠ .opening ∧
            kindOf (String.ofList letters) ≠ .closing := by
        decide
      exact separated_of_word separate (kinds _ isKeyword)
  | name valid =>
      have isOperand := kindOf_name valid
      apply matchToken_name valid (plain valid)
      · exact separated_of_word separate (by simp [isOperand])
      · exact noPreposition isOperand
  | quantifier isQuantifier firstBlank secondBlank valid =>
      apply matchToken_quantifier isQuantifier firstBlank secondBlank valid
      exact separated_of_word separate (by simp [kindOf_quantifierToken])

/-- What follows an operand is not the middle of a quantifier. -/
theorem Spaced.noPreposition {rest : List Char} {tokens : List String}
    (spaced : Spaced rest tokens)
    (operator : ∀ token ∈ tokens.head?, kindOf token ≠ .operand) :
    NoPreposition rest := by
  intro remaining blanks
  cases spaced with
  | @nil blank allBlank =>
      cases rest with
      | nil => cases blanks
      | cons first rest =>
          rw [List.all_cons, Bool.and_eq_true] at allBlank
          rw [matchSpaces, if_pos allBlank.1] at blanks
          cases blanks
          have none : rest.dropWhile Text.isSpace = [] := by
            rw [List.dropWhile_eq_nil_iff]
            exact List.all_eq_true.mp allBlank.2
          rw [none]
          rfl
  | @cons blank spelled after token tokens allBlank spells separate later =>
      have starts : matchLetters ['o', 'f'] (spelled ++ after) = none := by
        cases spells with
        | opening | closing => rfl
        | keyword isKeyword =>
            simp only [keywords, List.mem_cons, List.not_mem_nil, or_false]
              at isKeyword
            rcases isKeyword with rfl | rfl | rfl <;> rfl
        | name valid => exact absurd (kindOf_name valid) (operator _ rfl)
        | quantifier => exact absurd (kindOf_quantifierToken _ _) (operator _ rfl)
      cases blank with
      | nil =>
          obtain ⟨first, more, rfl, notBlank⟩ := spells.head
          rw [List.nil_append, List.cons_append, matchSpaces, notBlank] at blanks
          cases blanks
      | cons first blank =>
          rw [List.all_cons, Bool.and_eq_true] at allBlank
          rw [List.cons_append, matchSpaces, if_pos allBlank.1,
            spells.dropWhile allBlank.2] at blanks
          cases blanks
          exact starts

/-- Two tokens in a row are not both operands. -/
def Alternates (tokens : List String) : Prop :=
  tokens.IsChain fun left right =>
    kindOf left ≠ .operand ∨ kindOf right ≠ .operand

theorem tokenizeFrom_match {text rest : List Char} {token : String}
    {tokens : List String} {count : Nat}
    (found : matchToken (text.dropWhile Text.isSpace) = some (token, rest))
    (later : tokenizeFrom count rest = .ok tokens) :
    tokenizeFrom (count + 1) text = .ok (token :: tokens) := by
  cases text with
  | nil => cases found
  | cons first text =>
      unfold tokenizeFrom
      rw [found]
      change tokenizeFrom count rest >>= _ = _
      rw [later]
      rfl

/-- The tokenizer gives the tokens of a rendering back. -/
theorem tokenizeFrom_spaced {text : List Char} {tokens : List String}
    (spaced : Spaced text tokens) (alternates : Alternates tokens)
    (plain : ∀ token ∈ tokens, isName token = true →
      beginsLikeKeyword token.toList = false) {count : Nat}
    (enough : text.length ≤ count) : tokenizeFrom count text = .ok tokens := by
  induction spaced generalizing count with
  | @nil blank allBlank =>
      cases count with
      | zero => rfl
      | succ count =>
          cases blank with
          | nil => rfl
          | cons first blank =>
              have none : (first :: blank).dropWhile Text.isSpace = [] := by
                rw [List.dropWhile_eq_nil_iff]
                exact List.all_eq_true.mp allBlank
              simp only [tokenizeFrom, none, allBlank]
              rfl
  | @cons blank spelled rest token tokens allBlank spells separate later
      induction =>
      obtain ⟨first, more, split, -⟩ := spells.head
      have shorter : rest.length + 1 ≤ count := by
        rw [List.length_append, List.length_append, split,
          List.length_cons] at enough
        omega
      cases count with
      | zero => cases shorter
      | succ count =>
          have operator : kindOf token = .operand →
              ∀ next ∈ tokens.head?, kindOf next ≠ .operand := by
            intro isOperand next isHead
            rcases (List.isChain_cons.mp alternates).1 next isHead with
              notFirst | notNext
            · exact absurd isOperand notFirst
            · exact notNext
          apply tokenizeFrom_match
          · rw [spells.dropWhile allBlank]
            apply matchToken_spells spells separate
            · exact plain token List.mem_cons_self
            · exact fun isOperand => later.noPreposition (operator isOperand)
          · apply induction
            · exact (List.isChain_cons.mp alternates).2
            · exact fun other member =>
                plain other (List.mem_cons_of_mem _ member)
            · exact Nat.le_of_succ_le_succ shorter

/-! ## What the tokenizer can give -/

/-- A quantifier in any case, with single blanks. -/
def isQuantifier (token : String) : Bool :=
  quantifiers.any fun letters =>
    matchQuantifier letters token.toList = some (token, [])

theorem matchSpaces_name {name : List Char}
    (allName : ∀ character ∈ name, isNameChar character = true) :
    matchSpaces (' ' :: name) = some name := by
  apply matchSpaces_append (by decide : isBlank [' '] = true)
  intro next isHead
  exact (isNameChar_apart (allName next (List.mem_of_mem_head? isHead))).1

theorem matchQuantifier_eq_some {letters text rest : List Char} {token : String}
    (isMatch : matchQuantifier letters text = some (token, rest)) :
    matchQuantifier letters token.toList = some (token, []) := by
  unfold matchQuantifier at isMatch
  simp only [Option.bind_eq_bind, Option.bind_eq_some_iff] at isMatch
  obtain ⟨⟨quantifier, afterQuantifier⟩, isQuantifier, afterBlank, -,
    ⟨preposition, afterPreposition⟩, isPreposition, afterSecond, -,
    ⟨name, afterName⟩, isName, built⟩ := isMatch
  cases built
  have taken : name ≠ [] ∧ ∀ character ∈ name, isNameChar character = true := by
    unfold matchName at isName
    split at isName
    · cases isName
    · next first =>
        cases isName
        exact ⟨first, fun character member => List.mem_takeWhile_imp member⟩
  obtain ⟨-, lowerQuantifier⟩ := matchLetters_eq_some isQuantifier
  obtain ⟨-, lowerPreposition⟩ := matchLetters_eq_some isPreposition
  have prepositionStarts : ∀ next ∈ (preposition ++ ' ' :: name).head?,
      Text.isSpace next = false := by
    intro next isHead
    cases preposition with
    | nil => cases lowerPreposition
    | cons first more =>
        cases isHead
        rw [List.map_cons, List.cons.injEq] at lowerPreposition
        apply (isNameChar_apart (isNameChar_of_toLower _)).1
        rw [lowerPreposition.1]
        decide
  have blanks : matchSpaces (' ' :: (preposition ++ ' ' :: name)) =
      some (preposition ++ ' ' :: name) :=
    matchSpaces_append (by decide : isBlank [' '] = true) prepositionStarts
  have named : matchName name = some (name, []) := by
    have whole := takeWhile_name taken.2 (nofun : Separated [])
    have nothing := dropWhile_name taken.2 (nofun : Separated [])
    rw [List.append_nil] at whole nothing
    unfold matchName
    rw [whole, nothing]
    cases name with
    | nil => exact absurd rfl taken.1
    | cons => rfl
  have assoc : quantifier ++ ' ' :: preposition ++ ' ' :: name =
      quantifier ++ (' ' :: (preposition ++ ' ' :: name)) := by simp
  unfold matchQuantifier
  rw [String.toList_ofList, assoc, matchLetters_append lowerQuantifier]
  simp only [Option.bind_eq_bind, Option.bind_some, blanks,
    matchLetters_append lowerPreposition, matchSpaces_name taken.2,
    named]
  rw [← assoc]
  rfl

theorem matchWord_shape {text rest : List Char} {token : String}
    (isMatch : matchWord text = some (token, rest)) :
    token ∈ symbols ∨ isName token = true := by
  unfold matchWord at isMatch
  simp only [Option.bind_eq_bind, Option.bind_eq_some_iff] at isMatch
  obtain ⟨⟨name, afterName⟩, taken, built⟩ := isMatch
  cases built
  split
  · next isKeyword =>
      left
      simp only [List.contains_cons, List.contains_nil, Bool.or_false,
        Bool.or_eq_true, beq_iff_eq] at isKeyword
      rcases isKeyword with same | same | same <;> simp [same, symbols]
  · next notKeyword =>
      right
      unfold matchName at taken
      split at taken
      · cases taken
      · next nonempty =>
          cases taken
          refine isName_iff.mpr ⟨?_, ?_, ?_⟩
          · rw [String.toList_ofList]
            exact nonempty
          · rw [String.toList_ofList]
            exact fun character member => List.mem_takeWhile_imp member
          · rw [String.toList_ofList]
            intro isKeyword
            apply notKeyword
            have lowered : ∀ letters ∈ keywords, ["and", "or", "not"].contains
                (String.ofList (letters.map Char.toLower)) = true := by
              decide
            exact lowered _ isKeyword

theorem matchToken_shape {text rest : List Char} {token : String}
    (isMatch : matchToken text = some (token, rest)) :
    token ∈ symbols ∨ isName token = true ∨ isQuantifier token = true := by
  have quantified (letters : List Char) (member : letters ∈ quantifiers)
      (found : matchQuantifier letters text = some (token, rest)) :
      isQuantifier token = true := by
    refine List.any_eq_true.mpr ⟨letters, member, ?_⟩
    exact decide_eq_true (matchQuantifier_eq_some found)
  have keyword (letters : List Char) (member : letters ∈ keywords)
      (found : matchKeyword letters text = some (token, rest)) :
      token ∈ symbols := by
    unfold matchKeyword at found
    simp only [Option.bind_eq_bind, Option.bind_eq_some_iff] at found
    obtain ⟨⟨matched, remaining⟩, -, built⟩ := found
    have tokens : ∀ letters ∈ keywords, String.ofList letters ∈ symbols := by
      decide
    split at built
    · cases built
      exact tokens letters member
    · cases built
  unfold matchToken at isMatch
  simp only [Option.orElse_eq_orElse, Option.orElse_eq_or,
    Option.or_eq_some_iff] at isMatch
  rcases isMatch with one | ⟨-, all | ⟨-, conjunction | ⟨-, disjunction |
    ⟨-, negation | ⟨-, parenthesis | ⟨-, word⟩⟩⟩⟩⟩⟩
  · exact .inr (.inr (quantified _ (by decide) one))
  · exact .inr (.inr (quantified _ (by decide) all))
  · exact .inl (keyword _ (by decide) conjunction)
  · exact .inl (keyword _ (by decide) disjunction)
  · exact .inl (keyword _ (by decide) negation)
  · unfold matchParenthesis at parenthesis
    split at parenthesis
    · cases parenthesis
      exact .inl (by decide)
    · cases parenthesis
      exact .inl (by decide)
    · cases parenthesis
  · exact (matchWord_shape word).imp_right .inl

theorem tokenizeFrom_shape {text : List Char} {count : Nat}
    {tokens : List String} (tokenized : tokenizeFrom count text = .ok tokens) :
    ∀ token ∈ tokens,
      token ∈ symbols ∨ isName token = true ∨ isQuantifier token = true := by
  induction count generalizing text tokens with
  | zero =>
      cases tokenized
      nofun
  | succ count induction =>
      cases text with
      | nil =>
          cases tokenized
          nofun
      | cons first text =>
          unfold tokenizeFrom at tokenized
          split at tokenized
          · next found =>
              obtain ⟨later, isLater, returned⟩ := bind_eq_ok.mp tokenized
              cases returned
              intro token member
              rcases List.mem_cons.mp member with rfl | ofLater
              · exact matchToken_shape found
              · exact induction isLater token ofLater
          · split at tokenized
            · cases tokenized
              nofun
            · cases tokenized

end Detection

end ControlForge
